import BrowserPolicy.Gateway.Service
import BrowserPolicy.Proofs.Gateway.PolicyField

namespace BrowserPolicy

open Http Compile

structure LogLine where
  level : Level
  message : String
  details : List (String × String)

def Event.line (e : Event) : LogLine :=
  ⟨e.level, e.message, e.fields.map fun f => (f.name, f.text)⟩

namespace PolicyConfig

def compilation (p : PolicyConfig) : Compilation :=
  compileFeatures p.dialect p.features

def Installs (p : PolicyConfig) (field : HeaderField) : Prop :=
  p.compilation.toField = .ok field

def size (p : PolicyConfig) : Nat :=
  match p.features with
  | .object members => members.length
  | _ => 0

def compiledLine (p : PolicyConfig) : LogLine :=
  ⟨.debug, "policy compiled", [("dialect", p.dialect.name), ("header", p.dialect.headerName),
    ("features", Nat.repr p.size)]⟩

def rejectedLine (p : PolicyConfig) (error : PolicyError) : LogLine :=
  ⟨.debug, "policy rejected", [("dialect", p.dialect.name), ("features", Nat.repr p.size),
    ("code", error.code.name), ("error", error.message)]⟩

def installedLine (p : PolicyConfig) (value : HeaderValue) : LogLine :=
  ⟨.info, "policy header installed",
    [("header", p.dialect.headerName.toLower), ("value", value.quoted)]⟩

def failedLine (p : PolicyConfig) (error : PolicyError) : LogLine :=
  ⟨.warn, "policy compile failed", [("dialect", p.dialect.name), ("code", error.code.name),
    ("error", error.message)]⟩

def installedLines (policies : List PolicyConfig) (fields : List HeaderField) : List LogLine :=
  (List.zipWith (fun p field => [p.compiledLine, p.installedLine field.value])
    policies fields).flatten

/-- The event of a compilation counts the features of its policy. -/
theorem exists_compilation_eq (p : PolicyConfig) :
    ∃ result, p.compilation = finish p.dialect p.size result := by
  unfold compilation size
  cases p.features with
  | object members => exact ⟨_, rfl⟩
  | _ => exact ⟨.error .featuresNotAnObject, rfl⟩

theorem line_event_of_ok {p : PolicyConfig} {policy : CompiledPolicy}
    (h : p.compilation.outcome = .ok policy) : p.compilation.event.line = p.compiledLine := by
  obtain ⟨result, hresult⟩ := p.exists_compilation_eq
  rw [hresult] at h ⊢
  rw [event_finish_of_ok h]
  rfl

theorem line_event_of_error {p : PolicyConfig} {error : PolicyError}
    (h : p.compilation.outcome = .error error) :
    p.compilation.event.line = p.rejectedLine error := by
  obtain ⟨result, hresult⟩ := p.exists_compilation_eq
  rw [hresult] at h ⊢
  rw [event_finish_of_error h]
  rfl

theorem Installs.line_event {p : PolicyConfig} {field : HeaderField} (h : p.Installs field) :
    p.compilation.event.line = p.compiledLine := by
  obtain ⟨policy, hpolicy, -⟩ := Compilation.toField_eq_ok_iff.1 h
  exact line_event_of_ok hpolicy

theorem Installs.name_eq {p : PolicyConfig} {field : HeaderField} (h : p.Installs field) :
    field.name = p.dialect.fieldName := by
  obtain ⟨policy, hpolicy, hfield⟩ := Compilation.toField_eq_ok_iff.1 h
  have hdialect : policy.dialect = p.dialect := by
    obtain ⟨_, _, hdialect, _⟩ := compileFeatures_outcome_eq_ok_iff.1 hpolicy
    exact hdialect
  rw [(CompiledPolicy.toField_eq_ok_iff.1 hfield).1, hdialect]

theorem Installs.line_installed {p : PolicyConfig} {field : HeaderField} (h : p.Installs field) :
    (Event.installed field).line = p.installedLine field.value := by
  have hname : field.name = p.dialect.headerName.toLower := by
    rw [h.name_eq, Dialect.fieldName_eq_toLower]
  simp [Event.line, Event.level, Event.message, Event.fields, installedLine, hname]

end PolicyConfig

namespace Installation

open PolicyConfig

def lines (i : Installation) : List LogLine :=
  i.events.map Event.line

/-- A policy that is installed leaves two lines, and the rest goes on behind it. -/
theorem ofPolicies_cons_of_installs {p : PolicyConfig} {field : HeaderField}
    (h : p.Installs field) (rest : List PolicyConfig) :
    (ofPolicies (p :: rest)).outcome = (ofPolicies rest).outcome.map (field :: ·) ∧
      (ofPolicies (p :: rest)).lines =
        p.compiledLine :: p.installedLine field.value :: (ofPolicies rest).lines := by
  have hfield : (compileFeatures p.dialect p.features).toField = .ok field := h
  have hline : (compileFeatures p.dialect p.features).event.line = p.compiledLine := h.line_event
  simp only [lines, ofPolicies, hfield, List.map_cons]
  rw [hline, h.line_installed]
  refine ⟨?_, rfl⟩
  cases (ofPolicies rest).outcome <;> rfl

/-- The first failure ends the installation, whatever comes behind it. -/
theorem ofPolicies_cons_of_fails {p : PolicyConfig} {error : PolicyError}
    (h : p.compilation.toField = .error error) (rest : List PolicyConfig) :
    ofPolicies (p :: rest) =
      ⟨.error error, [p.compilation.event, .compileFailed p.dialect error]⟩ := by
  have hfield : (compileFeatures p.dialect p.features).toField = .error error := h
  simp only [ofPolicies, hfield, compilation]

/-- Installed policies in front only add their fields and their lines. -/
theorem ofPolicies_append {before : List PolicyConfig} {fields : List HeaderField}
    (h : List.Forall₂ Installs before fields) (rest : List PolicyConfig) :
    (ofPolicies (before ++ rest)).outcome = (ofPolicies rest).outcome.map (fields ++ ·) ∧
      (ofPolicies (before ++ rest)).lines =
        installedLines before fields ++ (ofPolicies rest).lines := by
  induction h with
  | nil =>
    refine ⟨?_, rfl⟩
    cases hrest : (ofPolicies rest).outcome <;> simp [hrest, Except.map]
  | @cons p field before fields hp _ ih =>
    obtain ⟨houtcome, hlines⟩ := ofPolicies_cons_of_installs hp (before ++ rest)
    obtain ⟨ihoutcome, ihlines⟩ := ih
    rw [List.cons_append, houtcome, hlines, ihoutcome, ihlines]
    refine ⟨?_, by simp [installedLines]⟩
    cases (ofPolicies rest).outcome <;> rfl

/-- Either all policies can be installed, or there is a first that cannot. -/
theorem installs_or_first_failure (policies : List PolicyConfig) :
    (∃ fields, List.Forall₂ Installs policies fields) ∨
      ∃ (before : List PolicyConfig) (p : PolicyConfig) (after : List PolicyConfig)
        (fields : List HeaderField) (error : PolicyError), policies = before ++ p :: after ∧
          List.Forall₂ Installs before fields ∧ p.compilation.toField = .error error := by
  induction policies with
  | nil => exact Or.inl ⟨[], .nil⟩
  | cons p rest ih =>
    cases hp : p.compilation.toField with
    | error error => exact Or.inr ⟨[], p, rest, [], error, rfl, .nil, hp⟩
    | ok field =>
      rcases ih with ⟨fields, hall⟩ | ⟨before, k, after, fields, error, rfl, hbefore, hk⟩
      · exact Or.inl ⟨field :: fields, .cons hp hall⟩
      · exact Or.inr ⟨p :: before, k, after, field :: fields, error, rfl, .cons hp hbefore, hk⟩

theorem ofPolicies_of_installs {policies : List PolicyConfig} {fields : List HeaderField}
    (h : List.Forall₂ Installs policies fields) :
    (ofPolicies policies).outcome = .ok fields ∧
      (ofPolicies policies).lines = installedLines policies fields := by
  obtain ⟨houtcome, hlines⟩ := ofPolicies_append h []
  rw [List.append_nil] at houtcome hlines
  refine ⟨?_, by simpa [ofPolicies, lines] using hlines⟩
  simpa [ofPolicies, Except.map] using houtcome

theorem ofPolicies_of_first_failure {before : List PolicyConfig} {fields : List HeaderField}
    (h : List.Forall₂ Installs before fields) {p : PolicyConfig} {error : PolicyError}
    (hp : p.compilation.toField = .error error) (after : List PolicyConfig) :
    (ofPolicies (before ++ p :: after)).outcome = .error error ∧
      (ofPolicies (before ++ p :: after)).lines =
        installedLines before fields ++ [p.compilation.event.line, p.failedLine error] := by
  obtain ⟨houtcome, hlines⟩ := ofPolicies_append h (p :: after)
  rw [houtcome, hlines, ofPolicies_cons_of_fails hp]
  exact ⟨rfl, rfl⟩

theorem ofPolicies_outcome_eq_ok_iff {policies : List PolicyConfig} {fields : List HeaderField} :
    (ofPolicies policies).outcome = .ok fields ↔ List.Forall₂ Installs policies fields := by
  constructor
  · intro h
    rcases installs_or_first_failure policies with
      ⟨fields', hall⟩ | ⟨before, p, after, _, error, rfl, hbefore, hp⟩
    · rw [(ofPolicies_of_installs hall).1] at h
      cases h
      exact hall
    · rw [(ofPolicies_of_first_failure hbefore hp after).1] at h
      cases h
  · intro h
    exact (ofPolicies_of_installs h).1

/-- What comes behind the first failure is not looked at. -/
theorem ofPolicies_append_cons_of_fails {before : List PolicyConfig} {fields : List HeaderField}
    (h : List.Forall₂ Installs before fields) {p : PolicyConfig} {error : PolicyError}
    (hp : p.compilation.toField = .error error) (after : List PolicyConfig) :
    ofPolicies (before ++ p :: after) = ofPolicies (before ++ [p]) := by
  induction h with
  | nil =>
    calc
      ofPolicies ([] ++ p :: after) =
          ⟨.error error, [p.compilation.event, .compileFailed p.dialect error]⟩ :=
        ofPolicies_cons_of_fails hp after
      _ = ofPolicies ([] ++ [p]) := (ofPolicies_cons_of_fails hp []).symm
  | cons _ _ ih => simp only [List.cons_append, ofPolicies, ih]

/-- A policy fails in the compiler, or has been compiled and cannot be sent. -/
theorem line_event_of_fails {p : PolicyConfig} {error : PolicyError}
    (h : p.compilation.toField = .error error) :
    p.compilation.outcome = .error error ∧ p.compilation.event.line = p.rejectedLine error ∨
      (∃ policy, p.compilation.outcome = .ok policy) ∧
        p.compilation.event.line = p.compiledLine := by
  rcases Compilation.toField_eq_error_iff.1 h with hrejected | ⟨policy, hpolicy, -⟩
  · exact Or.inl ⟨hrejected, line_event_of_error hrejected⟩
  · exact Or.inr ⟨⟨policy, hpolicy⟩, line_event_of_ok hpolicy⟩

/-- Either every policy is installed, and each leaves its two lines in turn; or the first that fails
ends the installation with its error. The log then has the lines of the policies before it, how the
compiler took it, and the failure. -/
theorem installation_ends_at_first_failure (policies : List PolicyConfig) :
    (∃ fields, List.Forall₂ Installs policies fields ∧
      (ofPolicies policies).outcome = .ok fields ∧
      (ofPolicies policies).lines = installedLines policies fields) ∨
    ∃ (before : List PolicyConfig) (p : PolicyConfig) (after : List PolicyConfig)
      (fields : List HeaderField) (error : PolicyError), policies = before ++ p :: after ∧
      List.Forall₂ Installs before fields ∧ p.compilation.toField = .error error ∧
      (ofPolicies policies).outcome = .error error ∧
      ofPolicies policies = ofPolicies (before ++ [p]) ∧
      ∃ line, (ofPolicies policies).lines =
          installedLines before fields ++ [line, p.failedLine error] ∧
        (p.compilation.outcome = .error error ∧ line = p.rejectedLine error ∨
          (∃ policy, p.compilation.outcome = .ok policy) ∧ line = p.compiledLine) := by
  rcases installs_or_first_failure policies with
    ⟨fields, hall⟩ | ⟨before, p, after, fields, error, rfl, hbefore, hp⟩
  · exact Or.inl ⟨fields, hall, ofPolicies_of_installs hall⟩
  · obtain ⟨houtcome, hlines⟩ := ofPolicies_of_first_failure hbefore hp after
    exact Or.inr ⟨before, p, after, fields, error, rfl, hbefore, hp, houtcome,
      ofPolicies_append_cons_of_fails hbefore hp after, _, hlines, line_event_of_fails hp⟩

end Installation

end BrowserPolicy
