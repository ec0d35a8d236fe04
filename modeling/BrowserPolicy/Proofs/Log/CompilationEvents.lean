import BrowserPolicy.Proofs.Gateway.InstallationLog

/-!
What a compilation leaves in a log. Each way into the compiler writes one event, whatever is in the
log by then, and one that hands its features on leaves the event to the other. The event tells how
the compilation ended; of a policy that compiles it tells only how many entries there are.
-/

namespace BrowserPolicy.Compile

/-- From every log the steps come to the outcome of the compilation, and its event alone is added. -/
def Logs (steps : Logging (Except PolicyError CompiledPolicy)) (c : Compilation) : Prop :=
  ∀ log, steps.run log = (c.outcome, log ++ [c.event])

/-- One event is added to any log, and it is the event of the compilation. -/
theorem logs_finish (dialect : Dialect) (features : Nat) (result : Except PolicyError String) :
    Logs (finishLogging dialect features result) (finish dialect features result) := by
  intro log
  cases result <;> rfl

/-- A policy as it comes to the compiler: with its features read, as an object that has them for a
member, or as their object itself. -/
inductive Input where
  | typed (m : FeatureMap)
  | options (v : Value)
  | features (v : Value)

namespace Input

variable {dialect : Dialect} {input : Input}

def compilation (dialect : Dialect) : Input → Compilation
  | typed m => compile dialect m
  | options v => compileOptions dialect v
  | features v => compileFeatures dialect v

def logging (dialect : Dialect) : Input → Logging (Except PolicyError CompiledPolicy)
  | typed m => compileLogging dialect m
  | options v => compileOptionsLogging dialect v
  | features v => compileFeaturesLogging dialect v

def entriesOf? : Value → Option (List (String × RawList))
  | .object members => some (members.map fun e => (e.1, RawList.ofValue e.2))
  | _ => none

def entries? : Input → Option (List (String × RawList))
  | typed m => some (m.entries.map fun e => (e.1, RawList.ofTokens e.2))
  | options (.object members) => (Entries.get? members "features").bind entriesOf?
  | options _ => none
  | features v => entriesOf? v

def size (input : Input) : Nat :=
  input.entries?.elim 0 List.length

/-- The steps end in a result, with the number of features beside it. There is a header only where
there are features, and it is theirs. -/
def Ends (dialect : Dialect) (steps : Logging (Except PolicyError CompiledPolicy))
    (entries? : Option (List (String × RawList))) : Prop :=
  ∃ result, steps = finishLogging dialect (entries?.elim 0 List.length) result ∧
    ∀ value, result = .ok value →
      ∃ entries, entries? = some entries ∧ headerText dialect.grammar entries = .ok value

theorem ends_of_entries (dialect : Dialect) (entries : List (String × RawList)) :
    Ends dialect (finishLogging dialect entries.length (headerText dialect.grammar entries))
      (some entries) :=
  ⟨_, rfl, fun _ hvalue => ⟨entries, rfl, hvalue⟩⟩

theorem ends_of_error (dialect : Dialect) (error : PolicyError) :
    Ends dialect (finishLogging dialect 0 (.error error)) none :=
  ⟨_, rfl, fun _ hvalue => nomatch hvalue⟩

theorem ends_compileFeatures (dialect : Dialect) (v : Value) :
    Ends dialect (compileFeaturesLogging dialect v) (entriesOf? v) := by
  cases v with
  | object members =>
    simpa [compileFeaturesLogging, entriesOf?] using
      ends_of_entries dialect (members.map fun e => (e.1, RawList.ofValue e.2))
  | _ => exact ends_of_error dialect .featuresNotAnObject

theorem ends_compileOptions (dialect : Dialect) (v : Value) :
    Ends dialect (compileOptionsLogging dialect v) (entries? (.options v)) := by
  cases v with
  | object members =>
    simp only [compileOptionsLogging, entries?]
    cases Entries.get? members "features" with
    | none => exact ends_of_error dialect .noFeatures
    -- Nothing is finished here: the one end is that of the features.
    | some features => exact ends_compileFeatures dialect features
  | _ => exact ends_of_error dialect .notAnObject

theorem ends_compile (dialect : Dialect) (m : FeatureMap) :
    Ends dialect (compileLogging dialect m) (entries? (.typed m)) := by
  simpa [compileLogging, FeatureMap.size, entries?] using
    ends_of_entries dialect (m.entries.map fun e => (e.1, RawList.ofTokens e.2))

/-- Each way in ends in one report, with the number of features that it finds. -/
theorem ends (dialect : Dialect) (input : Input) :
    Ends dialect (input.logging dialect) input.entries? := by
  cases input with
  | typed m => exact ends_compile dialect m
  | options v => exact ends_compileOptions dialect v
  | features v => exact ends_compileFeatures dialect v

/-- However the steps end, the compilation is read off them. -/
theorem compilation_eq_finish {features : Nat} {result : Except PolicyError String}
    (hsteps : input.logging dialect = finishLogging dialect features result) :
    input.compilation dialect = finish dialect features result := by
  cases input <;> exact Compilation.ofSteps_congr hsteps _ _

/-- The number that is reported is the size of the input, however it comes in. -/
theorem exists_compilation_eq_finish (dialect : Dialect) (input : Input) :
    ∃ result, input.compilation dialect = finish dialect input.size result ∧
      ∀ value, result = .ok value →
        ∃ entries, input.entries? = some entries ∧
          headerText dialect.grammar entries = .ok value := by
  obtain ⟨result, hsteps, hresult⟩ := ends dialect input
  exact ⟨result, compilation_eq_finish hsteps, hresult⟩

/-- Every way in adds the event of its compilation to a log, and nothing else. -/
theorem logs (dialect : Dialect) (input : Input) :
    Logs (input.logging dialect) (input.compilation dialect) := by
  obtain ⟨result, hsteps, -⟩ := ends dialect input
  rw [hsteps, compilation_eq_finish hsteps]
  exact logs_finish dialect _ result

theorem event_of_ok {policy : CompiledPolicy}
    (h : (input.compilation dialect).outcome = .ok policy) :
    (input.compilation dialect).event = .compiled dialect input.size := by
  obtain ⟨result, hcompilation, -⟩ := exists_compilation_eq_finish dialect input
  rw [hcompilation] at h ⊢
  exact event_finish_of_ok h

theorem event_of_error {error : PolicyError}
    (h : (input.compilation dialect).outcome = .error error) :
    (input.compilation dialect).event = .rejected dialect input.size error := by
  obtain ⟨result, hcompilation, -⟩ := exists_compilation_eq_finish dialect input
  rw [hcompilation] at h ⊢
  exact event_finish_of_error h

/-- What is counted is what is written: there are as many features as entries of the header. -/
theorem exists_texts_of_ok {policy : CompiledPolicy}
    (h : (input.compilation dialect).outcome = .ok policy) :
    ∃ entries texts, input.entries? = some entries ∧
      List.Forall₂ (Compiles dialect.grammar) entries texts ∧ input.size = texts.length ∧
      policy.value = dialect.grammar.entrySeparator.intercalate texts := by
  obtain ⟨result, hcompilation, hresult⟩ := exists_compilation_eq_finish dialect input
  rw [hcompilation] at h
  obtain ⟨entries, hentries, hheader⟩ := hresult _ (finish_outcome_eq_ok_iff.1 h).2
  obtain ⟨-, -, texts, hall, hvalue⟩ := headerText_eq_ok_iff_forall₂.1 hheader
  refine ⟨entries, texts, hentries, hall.imp fun _ _ => compiles_iff.2, ?_, hvalue⟩
  simpa [size, hentries] using hall.length_eq

theorem message_eq_compiled_iff :
    (input.compilation dialect).event.message = "policy compiled" ↔
      ∃ policy, (input.compilation dialect).outcome = .ok policy := by
  cases houtcome : (input.compilation dialect).outcome with
  | ok policy => simp [event_of_ok houtcome, Event.message]
  | error error => simp [event_of_error houtcome, Event.message]

/-- Two successes under one dialect write the same event when they have as many features. -/
theorem event_eq_iff_size_eq {a b : Input} {p q : CompiledPolicy}
    (ha : (a.compilation dialect).outcome = .ok p)
    (hb : (b.compilation dialect).outcome = .ok q) :
    (a.compilation dialect).event = (b.compilation dialect).event ↔ a.size = b.size := by
  rw [event_of_ok ha, event_of_ok hb]
  simp

end Input

/-- Each compilation writes one event, for debugging only. It tells of success exactly when there is
one, and then of the number of entries in the header; else it tells the error and the number of
features. Compilations that succeed under one dialect can be told apart by this number alone. -/
theorem compilations_write_one_event (dialect : Dialect) :
    (∀ input : Input,
      Logs (input.logging dialect) (input.compilation dialect) ∧
      ((input.compilation dialect).event.message = "policy compiled" ↔
        ∃ policy, (input.compilation dialect).outcome = .ok policy) ∧
      (∀ policy, (input.compilation dialect).outcome = .ok policy →
        ∃ entries texts, input.entries? = some entries ∧
          List.Forall₂ (Compiles dialect.grammar) entries texts ∧
          policy.value = dialect.grammar.entrySeparator.intercalate texts ∧
          (input.compilation dialect).event.line =
            ⟨.debug, "policy compiled", [("dialect", dialect.name),
              ("header", dialect.headerName), ("features", Nat.repr texts.length)]⟩) ∧
      ∀ error, (input.compilation dialect).outcome = .error error →
        (input.compilation dialect).event.line =
          ⟨.debug, "policy rejected", [("dialect", dialect.name),
            ("features", Nat.repr input.size), ("code", error.code.name),
            ("error", error.message)]⟩) ∧
    ∀ (a b : Input) (p q : CompiledPolicy), (a.compilation dialect).outcome = .ok p →
      (b.compilation dialect).outcome = .ok q →
      ((a.compilation dialect).event = (b.compilation dialect).event ↔ a.size = b.size) := by
  refine ⟨?_, fun a b p q => Input.event_eq_iff_size_eq⟩
  intro input
  refine ⟨input.logs dialect, Input.message_eq_compiled_iff, ?_, ?_⟩
  · intro policy hpolicy
    obtain ⟨entries, texts, hentries, hall, hsize, hvalue⟩ := Input.exists_texts_of_ok hpolicy
    refine ⟨entries, texts, hentries, hall, hvalue, ?_⟩
    rw [Input.event_of_ok hpolicy, hsize]
    rfl
  · intro error herror
    rw [Input.event_of_error herror]
    rfl

/-- Two policies with nothing in common but the number of their features, and an object without
features. -/
theorem policies_of_two_features_write_the_same_event :
    ∃ a b : Input,
      (a.compilation .permissions).outcome = .ok ⟨.permissions, "camera=(self), usb=()"⟩ ∧
      (b.compilation .permissions).outcome = .ok ⟨.permissions, "sync-xhr=(*), midi=(src)"⟩ ∧
      (a.compilation .permissions).event = (b.compilation .permissions).event ∧
      (a.compilation .permissions).event.message = "policy compiled" ∧
      ((Input.options (.object [])).compilation .permissions).event.line =
        ⟨.debug, "policy rejected", [("dialect", "permissions"), ("features", "0"),
          ("code", "NO_FEATURES"), ("error", "at least one feature is required")]⟩ := by
  let a : Input := .options (.object [("features",
    .object [("camera", .array [.string "self"]), ("usb", .array [])])])
  let b : Input := .typed (.ofList [("syncXhr", ["*"]), ("midi", ["src"])])
  have ha : (a.compilation .permissions).outcome = .ok ⟨.permissions, "camera=(self), usb=()"⟩ := by
    decide +kernel
  have hb : (b.compilation .permissions).outcome =
      .ok ⟨.permissions, "sync-xhr=(*), midi=(src)"⟩ := by
    decide +kernel
  have hnone : ((Input.options (.object [])).compilation .permissions).outcome =
      .error .noFeatures := rfl
  obtain ⟨heach, hsame⟩ := compilations_write_one_event .permissions
  obtain ⟨-, -, -, hrejected⟩ := heach (.options (.object []))
  exact ⟨a, b, ha, hb, (hsame a b _ _ ha hb).2 rfl, (heach a).2.1.2 ⟨_, ha⟩, hrejected _ hnone⟩

end BrowserPolicy.Compile
