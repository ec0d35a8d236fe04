import BrowserPolicy.Gateway.Service
import BrowserPolicy.Proofs.Compile.FirstFault
import BrowserPolicy.Proofs.Compile.HeaderKeys
import BrowserPolicy.Proofs.Header.LegacyDecoding
import BrowserPolicy.Proofs.Http.FieldText

/-!
Which compiled policies can be sent. A header of the older dialect always can; one of the newer
dialect cannot exactly when the policy holds a control character, in a key or in a token.
-/

namespace BrowserPolicy

open Http Compile Grammar

/-- A key of the object, or a token in the list of one, holds a character that no field can hold. -/
def Value.HoldsUnsendable : Value → Prop
  | object members => ∃ e ∈ members, Unsendable e.1 ∨
      ∃ items token, e.2 = .array items ∧ .string token ∈ items ∧ Unsendable token
  | null | bool _ | int _ | float _ | string _ | array _ => False

theorem CompiledPolicy.toField_eq_ok_iff {p : CompiledPolicy} {field : HeaderField} :
    p.toField = .ok field ↔ field.name = p.dialect.fieldName ∧ field.value.text = p.value := by
  constructor
  · intro h
    simp only [toField] at h
    split at h
    · next hvalue =>
      cases h
      exact ⟨rfl, HeaderValue.text_of_ofText? hvalue⟩
    · cases h
  · intro h
    obtain ⟨hname, htext⟩ := h
    have hvalue : HeaderValue.ofText? p.value = some field.value := by
      rw [← htext, HeaderValue.ofText?_text]
    simp only [toField, hvalue, ← hname]

theorem CompiledPolicy.toField_eq_error_iff {p : CompiledPolicy} {error : PolicyError} :
    p.toField = .error error ↔
      Unsendable p.value ∧
        error = .invalidHeader (p.value ++ ": failed to parse header value") := by
  rw [← ofText?_eq_none_iff]
  simp only [toField]
  cases HeaderValue.ofText? p.value <;> simp [eq_comm]

theorem Compilation.toField_eq_ok_iff {c : Compilation} {field : HeaderField} :
    c.toField = .ok field ↔ ∃ p, c.outcome = .ok p ∧ p.toField = .ok field := by
  simp only [toField]
  cases c.outcome <;> simp

/-- An error of the compiler comes through, and else only the field can fail. -/
theorem Compilation.toField_eq_error_iff {c : Compilation} {error : PolicyError} :
    c.toField = .error error ↔
      c.outcome = .error error ∨ ∃ p, c.outcome = .ok p ∧ p.toField = .error error := by
  simp only [toField]
  cases c.outcome <;> simp

/-- Every character that cannot be sent would also split an entry. -/
theorem splitsEntry_of_spoilsField {c : Char} (h : spoilsField c = true) :
    splitsEntry c = true := by
  have hcontrol : Text.isControl c = true := by
    rw [spoilsField_iff] at h
    simp only [Text.isControl, Text.inRanges, Text.controlRanges, List.any_cons, List.any_nil,
      Bool.or_eq_true, Bool.and_eq_true, decide_eq_true_eq]
    omega
  simp [splitsEntry, hcontrol]

theorem not_unsendable_of_isWord {text : String} (h : Header.Legacy.IsWord text) :
    ¬ Unsendable text := by
  intro hspoiled
  obtain ⟨c, hc, hspoils⟩ := hspoiled
  exact h.not_mem (splitsEntry_of_spoilsField hspoils) hc

/-- An entry of the older dialect consists of words and blanks. -/
theorem not_unsendable_renderEntry_legacy {e : String × Value} {stated : String × List String}
    (h : States Grammar.feature e stated) :
    ¬ Unsendable (Header.renderEntry Grammar.feature stated.1 stated.2) := by
  obtain ⟨hspells, -, hallowed⟩ := h
  have hkey : Header.Legacy.IsWord stated.1 :=
    Header.Legacy.isWord_of_mem_legacyFeatures (KeyVocabulary.mem_of_spells hspells)
  have hblank : ¬ Unsendable " " := by decide
  rw [Header.Legacy.renderEntry_eq, unsendable_intercalate hblank]
  intro hspoiled
  obtain ⟨word, hword, hspoiled⟩ := hspoiled
  rcases List.mem_cons.1 hword with rfl | hword
  · exact not_unsendable_of_isWord hkey hspoiled
  · have htoken := Header.Legacy.isWord_of_mem_spelledOut hallowed.accepts word hword
    exact not_unsendable_of_isWord htoken hspoiled

/-- The older header is made of words, so it can always be sent. -/
theorem not_unsendable_legacy {v : Value} {p : CompiledPolicy}
    (h : (compileFeatures .feature v).outcome = .ok p) : ¬ Unsendable p.value := by
  obtain ⟨members, rfl, -⟩ := compileFeatures_outcome_eq_ok_iff.1 h
  obtain ⟨stated, hstated, hvalue⟩ := exists_stated_of_compileFeatures h
  have hsemicolon : ¬ Unsendable Grammar.feature.entrySeparator := by decide
  have hentries : ∀ w ∈ stated,
      ¬ Unsendable (Header.renderEntry Grammar.feature w.1 w.2) := by
    refine forall_mem_of_forall₂ hstated.flip ?_
    intro w e hstates
    exact not_unsendable_renderEntry_legacy hstates
  rw [hvalue, Dialect.grammar, unsendable_intercalate hsemicolon]
  simpa using hentries

theorem spoilsField_of_isAlpha {c : Char} (h : c.isAlpha = true) : spoilsField c = false := by
  have hrange := toNat_of_isAlpha h
  exact spoilsField_of_printable (by omega) (by omega)

/-- Dashing brings in letters and dashes, and these can be sent. -/
theorem unsendable_dashify {key : String} : Unsendable (dashify key) ↔ Unsendable key := by
  apply exists_mem_dashify_iff (by decide)
  intro c hletter
  rw [spoilsField_of_isAlpha hletter]
  decide

theorem unsendable_renderEntry {key : String} {tokens : List String} :
    Unsendable (Header.renderEntry Grammar.permissions key tokens) ↔
      Unsendable key ∨ ∃ token ∈ tokens, Unsendable token := by
  have hblank : ¬ Unsendable " " := by decide
  have hopen : ¬ Unsendable "=(" := by decide
  have hclose : ¬ Unsendable ")" := by decide
  simp only [Header.renderEntry, Grammar.permissions, unsendable_append,
    unsendable_intercalate hblank, hopen, hclose, or_false]

/-- Of the newer header only keys and tokens can keep it from being sent. -/
theorem unsendable_permissions_iff {v : Value} {p : CompiledPolicy}
    (h : (compileFeatures .permissions v).outcome = .ok p) :
    Unsendable p.value ↔ v.HoldsUnsendable := by
  obtain ⟨members, rfl, -⟩ := compileFeatures_outcome_eq_ok_iff.1 h
  obtain ⟨stated, hstated, hvalue⟩ := exists_stated_of_compileFeatures h
  have hcomma : ¬ Unsendable Grammar.permissions.entrySeparator := by decide
  have hentries : (∃ w ∈ stated, Unsendable w.1 ∨ ∃ token ∈ w.2, Unsendable token) ↔
      ∃ e ∈ members, Unsendable e.1 ∨
        ∃ items token, e.2 = .array items ∧ .string token ∈ items ∧ Unsendable token := by
    refine exists_mem_iff_of_forall₂ hstated.flip ?_
    intro w e hstates
    obtain ⟨hspells, hlist, -⟩ := hstates
    have hkey : w.1 = dashify e.1 := KeyVocabulary.spells_unrestricted_iff.1 hspells
    rw [hkey, unsendable_dashify, hlist]
    simp
  rw [hvalue, Dialect.grammar, unsendable_intercalate hcomma]
  simp only [List.mem_map, exists_exists_and_eq_and, unsendable_renderEntry]
  exact hentries

theorem toField_ne_invalidHeader_legacy (v : Value) (detail : String) :
    (compileFeatures .feature v).toField ≠ .error (.invalidHeader detail) := by
  intro h
  rcases Compilation.toField_eq_error_iff.1 h with hcompile | ⟨p, hp, hfield⟩
  · exact compileFeatures_ne_invalidHeader .feature v detail hcompile
  · exact not_unsendable_legacy hp (CompiledPolicy.toField_eq_error_iff.1 hfield).1

theorem exists_toField_legacy_iff (v : Value) :
    (∃ field, (compileFeatures .feature v).toField = .ok field) ↔
      ∃ p, (compileFeatures .feature v).outcome = .ok p := by
  constructor
  · intro h
    obtain ⟨field, hfield⟩ := h
    obtain ⟨p, hp, -⟩ := Compilation.toField_eq_ok_iff.1 hfield
    exact ⟨p, hp⟩
  · intro h
    obtain ⟨p, hp⟩ := h
    cases hfield : p.toField with
    | ok field => exact ⟨field, Compilation.toField_eq_ok_iff.2 ⟨p, hp, hfield⟩⟩
    | error error =>
      exact absurd (CompiledPolicy.toField_eq_error_iff.1 hfield).1 (not_unsendable_legacy hp)

theorem exists_invalidHeader_permissions_iff (v : Value) :
    (∃ detail, (compileFeatures .permissions v).toField = .error (.invalidHeader detail)) ↔
      (∃ p, (compileFeatures .permissions v).outcome = .ok p) ∧ v.HoldsUnsendable := by
  constructor
  · intro h
    obtain ⟨detail, hfield⟩ := h
    rcases Compilation.toField_eq_error_iff.1 hfield with hcompile | ⟨p, hp, hfield⟩
    · exact absurd hcompile (compileFeatures_ne_invalidHeader .permissions v detail)
    · have hspoiled := (CompiledPolicy.toField_eq_error_iff.1 hfield).1
      exact ⟨⟨p, hp⟩, (unsendable_permissions_iff hp).1 hspoiled⟩
  · intro h
    obtain ⟨⟨p, hp⟩, hspoiled⟩ := h
    have hfield := CompiledPolicy.toField_eq_error_iff.2
      ⟨(unsendable_permissions_iff hp).2 hspoiled, rfl⟩
    exact ⟨_, Compilation.toField_eq_error_iff.2 (Or.inr ⟨p, hp, hfield⟩)⟩

theorem toField_eq_error_iff_of_ne {c : Compilation} {error : PolicyError}
    (h : error.code ≠ .invalidHeader) : c.toField = .error error ↔ c.outcome = .error error := by
  rw [Compilation.toField_eq_error_iff]
  apply or_iff_left
  intro hfield
  obtain ⟨p, -, hfield⟩ := hfield
  obtain ⟨-, rfl⟩ := CompiledPolicy.toField_eq_error_iff.1 hfield
  exact h rfl

/-- A compiled policy of the older dialect can always be sent. One of the newer dialect can be sent
unless it holds a control character in a key or a token. There is no other error after compiling,
and what is sent is the compiled text octet for octet. -/
theorem policies_that_cannot_be_sent (v : Value) :
    (∀ detail, (compileFeatures .feature v).toField ≠ .error (.invalidHeader detail)) ∧
      ((∃ field, (compileFeatures .feature v).toField = .ok field) ↔
        ∃ p, (compileFeatures .feature v).outcome = .ok p) ∧
      ((∃ detail, (compileFeatures .permissions v).toField = .error (.invalidHeader detail)) ↔
        (∃ p, (compileFeatures .permissions v).outcome = .ok p) ∧ v.HoldsUnsendable) ∧
      ∀ dialect,
        (∀ error : PolicyError, error.code ≠ .invalidHeader →
          ((compileFeatures dialect v).toField = .error error ↔
            (compileFeatures dialect v).outcome = .error error)) ∧
        ∀ field, (compileFeatures dialect v).toField = .ok field →
          ∃ p, (compileFeatures dialect v).outcome = .ok p ∧
            field.value.octets = p.value.toUTF8.data.toList := by
  refine ⟨toField_ne_invalidHeader_legacy v, exists_toField_legacy_iff v,
    exists_invalidHeader_permissions_iff v, ?_⟩
  intro dialect
  refine ⟨fun error => toField_eq_error_iff_of_ne, ?_⟩
  intro field hfield
  obtain ⟨p, hp, hfield⟩ := Compilation.toField_eq_ok_iff.1 hfield
  refine ⟨p, hp, ?_⟩
  rw [HeaderValue.octets, (CompiledPolicy.toField_eq_ok_iff.1 hfield).2, Text.octets_eq_toUTF8]

/-- A line break cannot stand in a token, but it comes through a key as far as the field. -/
theorem policy_with_line_break_cannot_be_sent :
    (compileFeatures .permissions (.object [("a\nb", .array [.string "self"])])).outcome =
      .ok ⟨.permissions, "a\nb=(self)"⟩ ∧
    (∃ detail, (compileFeatures .permissions
      (.object [("a\nb", .array [.string "self"])])).toField = .error (.invalidHeader detail)) ∧
    (compileFeatures .feature (.object [("a\nb", .array [.string "self"])])).toField =
      .error (.unsupportedFeature "a\nb") := by
  have hcompiled : (compileFeatures .permissions
      (.object [("a\nb", .array [.string "self"])])).outcome =
      .ok ⟨.permissions, "a\nb=(self)"⟩ := by decide
  have hspoiled : (Value.object [("a\nb", .array [.string "self"])]).HoldsUnsendable :=
    ⟨_, List.mem_singleton_self _, Or.inl (by decide)⟩
  obtain ⟨-, -, hinvalid, hown⟩ :=
    policies_that_cannot_be_sent (.object [("a\nb", .array [.string "self"])])
  refine ⟨hcompiled, hinvalid.2 ⟨⟨_, hcompiled⟩, hspoiled⟩, ?_⟩
  exact ((hown .feature).1 _ (by decide)).2 (by decide)

end BrowserPolicy
