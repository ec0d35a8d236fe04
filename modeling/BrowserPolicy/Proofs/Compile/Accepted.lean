import BrowserPolicy.Compile
import BrowserPolicy.Proofs.AllowList.Allowed
import BrowserPolicy.Proofs.Grammar.Spelling
import BrowserPolicy.Proofs.List.Pointwise

namespace BrowserPolicy.Compile

open AllowList Grammar

inductive EntryText (g : Grammar) (key : String) : List String → String → Prop where
  | parenthesized {tokens : List String} (wrap : g.valueWrap = .parenthesized) :
      EntryText g key tokens (key ++ "=(" ++ g.valueSeparator.intercalate tokens ++ ")")
  | bare {tokens : List String} (wrap : g.valueWrap = .bare) (some_token : tokens ≠ []) :
      EntryText g key tokens (g.valueSeparator.intercalate (key :: tokens))
  | bareNone (wrap : g.valueWrap = .bare) :
      EntryText g key [] (g.valueSeparator.intercalate [key, g.noneKeyword])

/-- An entry of the configuration is documented to be written as `text`. -/
def Compiles (g : Grammar) (e : String × RawList) (text : String) : Prop :=
  ∃ key tokens, g.keys.Spells e.1 key ∧ e.2 = .ofTokens tokens ∧ Allowed g tokens ∧
    EntryText g key tokens text

/-- The documented form of an entry is the one that the program renders. -/
theorem entryText_iff {g : Grammar} {key : String} {tokens : List String} {text : String} :
    EntryText g key tokens text ↔ text = Header.renderEntry g key tokens := by
  constructor
  · intro h
    cases h with
    | parenthesized wrap => simp [Header.renderEntry, wrap]
    | bare wrap some_token =>
      simp [Header.renderEntry, wrap, some_token, String.intercalate_cons_of_ne_nil some_token]
    | bareNone wrap => simp [Header.renderEntry, wrap, String.intercalate_cons_cons]
  · rintro rfl
    cases wrap : g.valueWrap with
    | parenthesized =>
      simpa [Header.renderEntry, wrap] using @EntryText.parenthesized g key tokens wrap
    | bare =>
      by_cases hnil : tokens = []
      · subst hnil
        simpa [Header.renderEntry, wrap, String.intercalate_cons_cons] using
          @EntryText.bareNone g key wrap
      · simpa [Header.renderEntry, wrap, hnil, String.intercalate_cons_of_ne_nil hnil] using
          @EntryText.bare g key tokens wrap hnil

theorem entry_eq_ok_iff {g : Grammar} {feature : String} {raw : RawList} {text : String} :
    entry g feature raw = .ok text ↔
      ∃ key tokens, g.keys.Spells feature key ∧ raw = .ofTokens tokens ∧ Allowed g tokens ∧
        text = Header.renderEntry g key tokens := by
  constructor
  · intro h
    simp only [entry] at h
    split at h
    · cases h
    · next key hkey =>
      split at h
      · cases h
      · next given =>
        split at h
        · cases h
        · next tokens hvalid =>
          cases h
          obtain ⟨rfl, hallowed⟩ := validate_eq_ok_iff.1 hvalid
          exact ⟨key, tokens, KeyVocabulary.normalize_eq_ok_iff.1 hkey, rfl, hallowed, rfl⟩
  · rintro ⟨key, tokens, hspells, rfl, hallowed, rfl⟩
    have hkey : g.keys.normalize feature = .ok key := KeyVocabulary.normalize_eq_ok_iff.2 hspells
    have hvalid : validate g feature (tokens.map .text) = .ok tokens :=
      validate_eq_ok_iff.2 ⟨rfl, hallowed⟩
    simp only [entry, hkey, RawList.ofTokens, hvalid]

theorem entryTexts_eq_ok_iff {g : Grammar} {entries : List (String × RawList)}
    {texts : List String} :
    entryTexts g entries = .ok texts ↔
      List.Forall₂ (fun e text => entry g e.1 e.2 = .ok text) entries texts := by
  induction entries generalizing texts with
  | nil => cases texts <;> simp [entryTexts]
  | cons e rest ih =>
    constructor
    · intro h
      simp only [entryTexts] at h
      split at h
      · cases h
      · next text htext =>
        split at h
        · cases h
        · next more hmore =>
          cases h
          exact .cons htext (ih.1 hmore)
    · intro h
      cases h with
      | cons htext hmore => simp only [entryTexts, htext, ih.2 hmore]

/-- A header is the join of its entries, and there is none without entries or without text. -/
theorem headerText_eq_ok_iff_forall₂ {g : Grammar} {entries : List (String × RawList)}
    {value : String} :
    headerText g entries = .ok value ↔
      entries ≠ [] ∧ value ≠ "" ∧
        ∃ texts, List.Forall₂ (fun e text => entry g e.1 e.2 = .ok text) entries texts ∧
          value = g.entrySeparator.intercalate texts := by
  constructor
  · intro h
    simp only [headerText] at h
    split at h
    · cases h
    · cases h
    · next texts hnone hall =>
      simp only [Header.joinEntries] at h
      split at h
      · cases h
      · next hvalue =>
        cases h
        -- Without entries there is no text, and an empty text has been refused.
        refine ⟨?_, hvalue, texts, entryTexts_eq_ok_iff.1 hall, rfl⟩
        rintro rfl
        cases hall
        exact hvalue rfl
  · rintro ⟨hentries, hvalue, texts, hall, rfl⟩
    have htexts : entryTexts g entries = .ok texts := entryTexts_eq_ok_iff.2 hall
    cases hall with
    | nil => exact absurd rfl hentries
    | cons => simp [headerText, htexts, Header.joinEntries, hvalue]

/-- The compiler accepts exactly the documented configurations, of any grammar, and writes exactly
the documented text. -/
theorem headerText_eq_ok_iff_compiles (g : Grammar) (entries : List (String × RawList))
    (value : String) :
    headerText g entries = .ok value ↔
      entries ≠ [] ∧ value ≠ "" ∧
        ∃ texts, List.Forall₂ (Compiles g) entries texts ∧
          value = g.entrySeparator.intercalate texts := by
  have hentry : (fun (e : String × RawList) text => entry g e.1 e.2 = .ok text) = Compiles g := by
    funext e text
    rw [entry_eq_ok_iff, Compiles]
    simp only [entryText_iff]
  rw [headerText_eq_ok_iff_forall₂, hentry]

theorem finish_outcome_eq_ok_iff {dialect : Dialect} {features : Nat}
    {result : Except PolicyError String} {p : CompiledPolicy} :
    (finish dialect features result).outcome = .ok p ↔
      p.dialect = dialect ∧ result = .ok p.value := by
  constructor
  · intro h
    cases result with
    | ok value =>
      cases h
      exact ⟨rfl, rfl⟩
    | error e => cases h
  · rintro ⟨rfl, rfl⟩
    rfl

def Writes (g : Grammar) (e : String × List String) (text : String) : Prop :=
  ∃ key, g.keys.Spells e.1 key ∧ Allowed g e.2 ∧ text = Header.renderEntry g key e.2

theorem entry_ofTokens_eq_ok_iff {g : Grammar} {e : String × List String} {text : String} :
    entry g e.1 (.ofTokens e.2) = .ok text ↔ Writes g e text := by
  rw [entry_eq_ok_iff]
  constructor
  · rintro ⟨key, tokens, hspells, htokens, hallowed, rfl⟩
    have hmap : e.2.map RawToken.text = tokens.map RawToken.text := by
      simpa [RawList.ofTokens] using htokens
    have hinj : Function.Injective RawToken.text := fun a b hab => RawToken.text.inj hab
    obtain rfl : e.2 = tokens := List.map_injective_iff.2 hinj hmap
    exact ⟨key, hspells, hallowed, rfl⟩
  · rintro ⟨key, hspells, hallowed, rfl⟩
    exact ⟨key, e.2, hspells, rfl, hallowed, rfl⟩

/-- A compilation of features succeeds when each of them is written and the join is not empty. -/
theorem compile_outcome_eq_ok_iff {dialect : Dialect} {m : FeatureMap} {p : CompiledPolicy} :
    (compile dialect m).outcome = .ok p ↔
      p.dialect = dialect ∧ m.entries ≠ [] ∧ p.value ≠ "" ∧
        ∃ texts, List.Forall₂ (Writes dialect.grammar) m.entries texts ∧
          p.value = dialect.grammar.entrySeparator.intercalate texts := by
  have hwrites : (fun (e : String × List String) text =>
      entry dialect.grammar e.1 (.ofTokens e.2) = .ok text) = Writes dialect.grammar := by
    funext e text
    exact propext entry_ofTokens_eq_ok_iff
  simp only [compile_eq, finish_outcome_eq_ok_iff, headerText_eq_ok_iff_forall₂,
    List.forall₂_map_left_iff, hwrites, ne_eq, List.map_eq_nil_iff]

/-- In the newer dialect every key has a spelling, so only lists can be refused. -/
theorem compile_permissions_outcome_eq_ok_iff {m : FeatureMap} {p : CompiledPolicy} :
    (compile .permissions m).outcome = .ok p ↔
      p.dialect = .permissions ∧ m.entries ≠ [] ∧ p.value ≠ "" ∧
        (∀ e ∈ m.entries, Allowed Grammar.permissions e.2) ∧
          p.value = ", ".intercalate
            (m.entries.map fun e => Header.renderEntry Grammar.permissions (dashify e.1) e.2) := by
  have hwrites : Writes Grammar.permissions = fun e text => Allowed Grammar.permissions e.2 ∧
      Header.renderEntry Grammar.permissions (dashify e.1) e.2 = text := by
    funext e text
    simp only [Writes, eq_iff_iff]
    constructor
    · rintro ⟨key, hspells, hallowed, rfl⟩
      obtain rfl : key = dashify e.1 := KeyVocabulary.spells_unrestricted_iff.1 hspells
      exact ⟨hallowed, rfl⟩
    · rintro ⟨hallowed, rfl⟩
      exact ⟨dashify e.1, .unrestricted e.1, hallowed, rfl⟩
  rw [compile_outcome_eq_ok_iff]
  change (_ ∧ _ ∧ _ ∧ ∃ texts, List.Forall₂ (Writes Grammar.permissions) m.entries texts ∧
    p.value = ", ".intercalate texts) ↔ _
  simp only [hwrites, forall₂_and_eq_iff]
  constructor
  · rintro ⟨hdialect, hne, hsome, texts, ⟨hallowed, rfl⟩, hvalue⟩
    exact ⟨hdialect, hne, hsome, hallowed, hvalue⟩
  · rintro ⟨hdialect, hne, hsome, hallowed, hvalue⟩
    exact ⟨hdialect, hne, hsome, _, ⟨hallowed, rfl⟩, hvalue⟩

theorem ofValue_eq_ofTokens_iff {v : Value} {tokens : List String} :
    RawList.ofValue v = .ofTokens tokens ↔ v = .array (tokens.map .string) := by
  constructor
  · intro h
    cases v with
    | array items =>
      have hmap : items.map RawToken.ofValue = tokens.map RawToken.text := by
        simpa [RawList.ofValue, RawList.ofTokens] using h
      have hitems : items.map id = tokens.map Value.string := by
        rw [map_eq_map_iff_forall₂] at hmap ⊢
        apply hmap.imp
        intro item token hitem
        cases item <;> simp_all [RawToken.ofValue]
      rw [← hitems, List.map_id]
    | _ => simp [RawList.ofValue, RawList.ofTokens] at h
  · rintro rfl
    simp [RawList.ofValue, RawList.ofTokens, RawToken.ofValue, Function.comp_def]

theorem compileFeatures_outcome_eq_ok_iff {dialect : Dialect} {v : Value} {p : CompiledPolicy} :
    (compileFeatures dialect v).outcome = .ok p ↔
      ∃ members, v = .object members ∧ p.dialect = dialect ∧
        headerText dialect.grammar (members.map fun e => (e.1, RawList.ofValue e.2)) =
          .ok p.value := by
  cases v with
  | object members => simp [compileFeatures_object, finish_outcome_eq_ok_iff]
  | _ => simp [compileFeatures_of_ne_object]

end BrowserPolicy.Compile
