import BrowserPolicy.AllowList
import BrowserPolicy.Event
import BrowserPolicy.Grammar.Basic
import BrowserPolicy.Grammar.Builtin
import BrowserPolicy.Value

/-!
From features to the value of a header. The entries are compiled in order, and the first bad one
decides the error. Each of the three ways in reports exactly one event.
-/

namespace BrowserPolicy.Header

def renderEntry (g : Grammar) (key : String) (tokens : List String) : String :=
  match g.valueWrap with
  | .parenthesized => key ++ "=(" ++ g.valueSeparator.intercalate tokens ++ ")"
  | .bare =>
    key ++ g.valueSeparator ++
      (if tokens.isEmpty then g.noneKeyword else g.valueSeparator.intercalate tokens)

def joinEntries (g : Grammar) (entries : List String) : Except PolicyError String :=
  let text := g.entrySeparator.intercalate entries
  if text = "" then .error .emptyHeader else .ok text

end BrowserPolicy.Header

namespace BrowserPolicy

structure CompiledPolicy where
  dialect : Dialect
  value : String
  deriving DecidableEq, Repr

/-- The result of a compilation and the event that reports it. -/
structure Compilation where
  outcome : Except PolicyError CompiledPolicy
  event : Event

namespace Compile

/-- The text of one feature's entry: the key is looked at first, then the shape of the value, then
the tokens. -/
def entry (g : Grammar) (feature : String) (raw : RawList) : Except PolicyError String :=
  match g.keys.normalize feature with
  | .error e => .error e
  | .ok key =>
    match raw with
    | .notList => .error (.notAnArray feature)
    | .tokens tokens =>
      match AllowList.validate g feature tokens with
      | .error e => .error e
      | .ok allowed => .ok (Header.renderEntry g key allowed)

def entryTexts (g : Grammar) : List (String × RawList) → Except PolicyError (List String)
  | [] => .ok []
  | (feature, raw) :: rest =>
    match entry g feature raw with
    | .error e => .error e
    | .ok text =>
      match entryTexts g rest with
      | .error e => .error e
      | .ok texts => .ok (text :: texts)

def headerText (g : Grammar) (entries : List (String × RawList)) : Except PolicyError String :=
  match entryTexts g entries with
  | .error e => .error e
  | .ok [] => .error .noFeatures
  -- A grammar whose entries can be empty may still join them to an empty header.
  | .ok texts => Header.joinEntries g texts

abbrev Logging := StateM (List Event)

def write (event : Event) : Logging Unit :=
  modify (· ++ [event])

def finishLogging (dialect : Dialect) (features : Nat) :
    Except PolicyError String → Logging (Except PolicyError CompiledPolicy)
  | .ok value => do
    write (.compiled dialect features)
    return .ok ⟨dialect, value⟩
  | .error e => do
    write (.rejected dialect features e)
    return .error e

def compileLogging (dialect : Dialect) (m : FeatureMap) :
    Logging (Except PolicyError CompiledPolicy) :=
  finishLogging dialect m.size
    (headerText dialect.grammar (m.entries.map fun e => (e.1, RawList.ofTokens e.2)))

def compileFeaturesLogging (dialect : Dialect) :
    Value → Logging (Except PolicyError CompiledPolicy)
  | .object members =>
    finishLogging dialect members.length
      (headerText dialect.grammar (members.map fun e => (e.1, RawList.ofValue e.2)))
  | _ => finishLogging dialect 0 (.error .featuresNotAnObject)

def compileOptionsLogging (dialect : Dialect) :
    Value → Logging (Except PolicyError CompiledPolicy)
  | .object members =>
    match Entries.get? members "features" with
    -- The event is left to the compiler of the features.
    | some features => compileFeaturesLogging dialect features
    | none => finishLogging dialect 0 (.error .noFeatures)
  | _ => finishLogging dialect 0 (.error .notAnObject)

def Reports (steps : Logging (Except PolicyError CompiledPolicy)) : Prop :=
  (steps.run []).2 ≠ []

/-- Every compilation ends here, so every one reports something. -/
theorem reports_finish (dialect : Dialect) (features : Nat) (result : Except PolicyError String) :
    Reports (finishLogging dialect features result) := by
  cases result <;> exact List.cons_ne_nil _ _

theorem reports_compileFeatures (dialect : Dialect) (v : Value) :
    Reports (compileFeaturesLogging dialect v) := by
  cases v <;> exact reports_finish dialect _ _

theorem reports_compileOptions (dialect : Dialect) (v : Value) :
    Reports (compileOptionsLogging dialect v) := by
  cases v with
  | object members =>
    simp only [compileOptionsLogging]
    split
    · exact reports_compileFeatures dialect _
    · exact reports_finish dialect 0 _
  | _ => exact reports_finish dialect 0 _

end Compile

/-- What the steps come to, with the first event that they write. -/
def Compilation.ofSteps (steps : Compile.Logging (Except PolicyError CompiledPolicy))
    (h : Compile.Reports steps) : Compilation :=
  ⟨(steps.run []).1, (steps.run []).2.head h⟩

/-- Equal steps come to equal compilations, whatever shows that they report. -/
theorem Compilation.ofSteps_congr
    {steps steps' : Compile.Logging (Except PolicyError CompiledPolicy)}
    (hsteps : steps = steps') (h : Compile.Reports steps) (h' : Compile.Reports steps') :
    ofSteps steps h = ofSteps steps' h' := by
  subst hsteps
  rfl

def Compile.finish (dialect : Dialect) (features : Nat) (result : Except PolicyError String) :
    Compilation :=
  .ofSteps (finishLogging dialect features result) (reports_finish dialect features result)

def compile (dialect : Dialect) (features : FeatureMap) : Compilation :=
  .ofSteps (Compile.compileLogging dialect features) (Compile.reports_finish dialect _ _)

def compileFeatures (dialect : Dialect) (features : Value) : Compilation :=
  .ofSteps (Compile.compileFeaturesLogging dialect features)
    (Compile.reports_compileFeatures dialect features)

def compileOptions (dialect : Dialect) (options : Value) : Compilation :=
  .ofSteps (Compile.compileOptionsLogging dialect options)
    (Compile.reports_compileOptions dialect options)

namespace Compile

@[simp] theorem finish_ok (dialect : Dialect) (features : Nat) (value : String) :
    finish dialect features (.ok value) =
      ⟨.ok ⟨dialect, value⟩, .compiled dialect features⟩ :=
  rfl

@[simp] theorem finish_error (dialect : Dialect) (features : Nat) (error : PolicyError) :
    finish dialect features (.error error) = ⟨.error error, .rejected dialect features error⟩ :=
  rfl

/-- Compiling features gives their header, reported with their number. -/
theorem compile_eq (dialect : Dialect) (m : FeatureMap) :
    compile dialect m = finish dialect m.size
      (headerText dialect.grammar (m.entries.map fun e => (e.1, RawList.ofTokens e.2))) :=
  rfl

theorem compileFeatures_of_ne_object (dialect : Dialect) {v : Value}
    (h : ∀ members, v ≠ .object members) :
    compileFeatures dialect v = finish dialect 0 (.error .featuresNotAnObject) := by
  cases v with
  | object members => exact absurd rfl (h members)
  | _ => rfl

/-- The members of an object are compiled like features, each value as the list that it may hold. -/
theorem compileFeatures_object (dialect : Dialect) (members : List (String × Value)) :
    compileFeatures dialect (.object members) = finish dialect members.length
      (headerText dialect.grammar (members.map fun e => (e.1, RawList.ofValue e.2))) :=
  rfl

/-- The member is compiled in place of the whole, and what it reports is all that is reported. -/
theorem compileOptions_of_get? {members : List (String × Value)} {features : Value}
    (h : Entries.get? members "features" = some features) (dialect : Dialect) :
    compileOptions dialect (.object members) = compileFeatures dialect features := by
  apply Compilation.ofSteps_congr
  simp only [compileOptionsLogging, h]

theorem compileOptions_of_get?_none {members : List (String × Value)}
    (h : Entries.get? members "features" = none) (dialect : Dialect) :
    compileOptions dialect (.object members) = finish dialect 0 (.error .noFeatures) := by
  apply Compilation.ofSteps_congr
  simp only [compileOptionsLogging, h]

theorem compileOptions_of_ne_object (dialect : Dialect) {v : Value}
    (h : ∀ members, v ≠ .object members) :
    compileOptions dialect v = finish dialect 0 (.error .notAnObject) := by
  cases v with
  | object members => exact absurd rfl (h members)
  | _ => rfl

end Compile

end BrowserPolicy
