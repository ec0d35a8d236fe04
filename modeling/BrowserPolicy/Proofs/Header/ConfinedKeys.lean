import BrowserPolicy.Proofs.Compile.HeaderKeys
import BrowserPolicy.Proofs.Header.LegacyDecoding
import BrowserPolicy.Proofs.Header.StructuredDecoding

namespace BrowserPolicy.Header

open Compile Grammar

def punctuation : List Char := ['=', '(', ')', ',', ';', '"']

def endsKey (c : Char) : Bool :=
  Text.isWhiteSpace c || Text.isControl c || punctuation.contains c

/-- The key is not empty, and no character in it can end it. -/
def Confined (key : String) : Prop :=
  key ≠ "" ∧ ∀ c ∈ key.toList, endsKey c = false

instance (key : String) : Decidable (Confined key) :=
  decidable_of_iff (key ≠ "" ∧ (key.toList.all fun c => !endsKey c) = true) (by simp [Confined])

def readKey? : Dialect → List Char → Option String
  | .permissions, entry => (Structured.splitFeature? entry).map fun parts => String.ofList parts.1
  | .feature, entry => (Legacy.words entry).head?

theorem Confined.not_mem {key : String} (h : Confined key) {c : Char} (hc : endsKey c = true) :
    c ∉ key.toList := by
  intro hmem
  rw [h.2 c hmem] at hc
  cases hc

theorem endsKey_of_isAlpha {c : Char} (h : c.isAlpha = true) : endsKey c = false := by
  have hall : ∀ n < 123, 65 ≤ n → endsKey (Char.ofNat n) = false := by decide +kernel
  have hrange := toNat_of_isAlpha h
  have hc := hall c.toNat (by omega) hrange.1
  rwa [Char.ofNat_toNat] at hc

theorem confined_iff_not_exists {key : String} :
    Confined key ↔ key ≠ "" ∧ ¬ ∃ c ∈ key.toList, endsKey c = true := by
  simp [Confined]

/-- Dashes and lower-case letters take the place of upper-case letters, and none of these can end
a key. -/
theorem confined_dashify_iff {key : String} : Confined (dashify key) ↔ Confined key := by
  have hends : (∃ c ∈ (dashify key).toList, endsKey c = true) ↔
      ∃ c ∈ key.toList, endsKey c = true := by
    apply exists_mem_dashify_iff (by decide)
    intro c hletter
    simp [endsKey_of_isAlpha hletter]
  rw [confined_iff_not_exists, confined_iff_not_exists, hends, ne_eq,
    dashify_eq_empty_iff]

/-- All keys of the older dialect keep to their entries. -/
theorem confined_of_mem_legacyFeatures {row : String × String} (h : row ∈ legacyFeatures) :
    Confined row.2 := by
  have hall : ∀ row ∈ legacyFeatures, Confined row.2 := by decide +kernel
  exact hall row h

/-- A key that keeps to its entry is read back from it. -/
theorem readKey?_of_states {dialect : Dialect} {e : String × Value} {w : String × List String}
    (h : States dialect.grammar e w) (hconfined : Confined w.1) :
    readKey? dialect (renderEntry dialect.grammar w.1 w.2).toList = some w.1 := by
  cases dialect with
  | permissions =>
    -- The key reaches to the first equals sign, and it has none itself.
    have hequals : '=' ∉ w.1.toList := hconfined.not_mem (by decide)
    rw [readKey?, Dialect.grammar, Structured.toList_renderEntry,
      Structured.splitFeature?_append hequals]
    simp
  | feature =>
    have hkey : Legacy.IsWord w.1 :=
      Legacy.isWord_of_mem_legacyFeatures (KeyVocabulary.mem_of_spells h.1)
    have hwords := Legacy.words_renderEntry hkey
      (Legacy.isWord_of_mem_spelledOut h.2.2.accepts)
    rw [readKey?, Dialect.grammar, hwords.2]
    rfl

/-- Dashing neither confines a key nor frees it, and the table has confined keys only. -/
theorem confined_stated_iff {dialect : Dialect} {e : String × Value} {w : String × List String}
    (h : States dialect.grammar e w) : Confined w.1 ↔ dialect = .feature ∨ Confined e.1 := by
  cases dialect with
  | permissions =>
    have hkey : w.1 = dashify e.1 := KeyVocabulary.spells_unrestricted_iff.1 h.1
    rw [hkey, confined_dashify_iff]
    simp
  | feature =>
    have hkey : Confined w.1 := confined_of_mem_legacyFeatures (KeyVocabulary.mem_of_spells h.1)
    simp [hkey]

/-- A key of a compiled header keeps to its entry, and is read back from it, when the dialect is the
older one or the configuration already spells the key without anything that can end it; every other
key of the newer dialect has such a character in the header too. -/
theorem stated_keys_confined_iff {dialect : Dialect} {members : List (String × Value)}
    {p : CompiledPolicy} (h : (compileFeatures dialect (.object members)).outcome = .ok p) :
    ∃ stated, List.Forall₂ (States dialect.grammar) members stated ∧
      p.value = dialect.grammar.entrySeparator.intercalate
        (stated.map fun w => renderEntry dialect.grammar w.1 w.2) ∧
      List.Forall₂ (fun e w =>
        (Confined w.1 ↔ dialect = .feature ∨ Confined e.1) ∧
          (Confined w.1 →
            readKey? dialect (renderEntry dialect.grammar w.1 w.2).toList = some w.1))
        members stated := by
  obtain ⟨stated, hstated, hvalue⟩ := exists_stated_of_compileFeatures h
  refine ⟨stated, hstated, hvalue, ?_⟩
  apply hstated.imp
  intro e w hstates
  exact ⟨confined_stated_iff hstates, readKey?_of_states hstates⟩

/-- Of two keys in one header the first keeps to its entry and the second does not. -/
theorem syncXhr_confined_beside_blank :
    (compileFeatures .permissions
        (.object [("syncXhr", .array [.string "*"]), ("a b", .array [])])).outcome =
      .ok ⟨.permissions, "sync-xhr=(*), a b=()"⟩ ∧
    ∃ first second, List.Forall₂ (States Grammar.permissions)
        [("syncXhr", .array [.string "*"]), ("a b", .array [])] [first, second] ∧
      Confined first.1 ∧
      readKey? .permissions (renderEntry Grammar.permissions first.1 first.2).toList =
        some first.1 ∧
      ¬ Confined second.1 := by
  have h : (compileFeatures .permissions
      (.object [("syncXhr", .array [.string "*"]), ("a b", .array [])])).outcome =
      .ok ⟨.permissions, "sync-xhr=(*), a b=()"⟩ := by decide +kernel
  have hkeys : Confined "syncXhr" ∧ ¬ Confined "a b" := by decide +kernel
  obtain ⟨stated, hstated, -, hconfined⟩ := stated_keys_confined_iff h
  obtain ⟨first, _, ⟨hfirst, hread⟩, hrest, rfl⟩ := List.forall₂_cons_left_iff.1 hconfined
  obtain ⟨second, _, ⟨hsecond, -⟩, hnil, rfl⟩ := List.forall₂_cons_left_iff.1 hrest
  obtain rfl := List.forall₂_nil_left_iff.1 hnil
  have hkept : Confined first.1 := hfirst.2 (.inr hkeys.1)
  refine ⟨h, first, second, hstated, hkept, hread hkept, ?_⟩
  rw [hsecond]
  simpa using hkeys.2

/-- One key of one feature is read as the entry of a feature and the key of another. -/
theorem key_read_as_two_features :
    (compileFeatures .permissions
        (.object [("usb=(), camera", .array [.string "*"])])).outcome =
      .ok ⟨.permissions, "usb=(), camera=(*)"⟩ ∧
    Structured.read? "usb=(), camera=(*)" = some [("usb", []), ("camera", ["*"])] ∧
    ¬ ∀ (dialect : Dialect) (members : List (String × Value)) (p : CompiledPolicy)
        (stated : List (String × List String)), (members.map Prod.fst).Nodup →
      (compileFeatures dialect (.object members)).outcome = .ok p →
      List.Forall₂ (States dialect.grammar) members stated → ∀ w ∈ stated, Confined w.1 := by
  have h : (compileFeatures .permissions
      (.object [("usb=(), camera", .array [.string "*"])])).outcome =
      .ok ⟨.permissions, "usb=(), camera=(*)"⟩ := by decide +kernel
  refine ⟨h, by cbv, fun hall => ?_⟩
  obtain ⟨stated, hstated, -⟩ := exists_stated_of_compileFeatures h
  obtain ⟨w, _, hw, hnil, rfl⟩ := List.forall₂_cons_left_iff.1 hstated
  have hconfined : Confined w.1 := hall _ _ _ _ (by decide) h hstated w (List.mem_cons_self ..)
  have hgiven : Confined "usb=(), camera" := by
    simpa using (@confined_stated_iff .permissions _ _ hw).1 hconfined
  exact absurd hgiven (by decide +kernel)

end BrowserPolicy.Header
