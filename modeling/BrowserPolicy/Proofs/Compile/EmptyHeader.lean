import BrowserPolicy.Proofs.Compile.EntryPoints
import BrowserPolicy.Proofs.Compile.FirstFault

namespace BrowserPolicy.Compile

open AllowList Grammar

/-- The entry is accepted and leaves nothing to write: its key is spelled as the empty text, and it
has no tokens where the none keyword is empty, or the empty token alone. -/
def Blank (g : Grammar) (e : String × RawList) : Prop :=
  ∃ tokens, g.keys.Spells e.1 "" ∧ e.2 = .ofTokens tokens ∧ Allowed g tokens ∧
    (tokens = [] ∧ g.noneKeyword = "" ∨ tokens = [""])

theorem eq_singleton_iff_of_allowed {g : Grammar} {tokens : List String} {token : String}
    (h : Allowed g tokens) : tokens = [token] ↔ tokens ≠ [] ∧ ∀ t ∈ tokens, t = token := by
  rw [← not_iff_not, ← ne_eq, h.nodup.ne_singleton_iff]
  simp only [not_and_or, not_not, not_forall, exists_prop, ne_eq]

/-- Parentheses and a separator are text, so an empty entry has neither. -/
theorem entry_eq_ok_empty_iff {g : Grammar} {e : String × RawList} :
    entry g e.1 e.2 = .ok "" ↔ g.valueWrap = .bare ∧ g.valueSeparator = "" ∧ Blank g e := by
  rw [entry_eq_ok_iff]
  simp only [eq_comm (a := ""), renderEntry_eq_empty_iff]
  constructor
  · rintro ⟨key, tokens, hspells, htokens, hallowed, hwrap, hseparator, rfl, hempty⟩
    rw [← eq_singleton_iff_of_allowed hallowed] at hempty
    exact ⟨hwrap, hseparator, tokens, hspells, htokens, hallowed, hempty⟩
  · rintro ⟨hwrap, hseparator, tokens, hspells, htokens, hallowed, hempty⟩
    rw [eq_singleton_iff_of_allowed hallowed] at hempty
    exact ⟨"", tokens, hspells, htokens, hallowed, hwrap, hseparator, rfl, hempty⟩

/-- A header is found to be empty after all of its entries have been accepted. -/
theorem headerText_eq_emptyHeader_iff_texts {g : Grammar} {entries : List (String × RawList)} :
    headerText g entries = .error .emptyHeader ↔
      ∃ texts, List.Forall₂ (fun e text => entry g e.1 e.2 = .ok text) entries texts ∧
        texts ≠ [] ∧ g.entrySeparator.intercalate texts = "" := by
  rw [headerText_eq_error_iff]
  constructor
  · intro h
    rcases h with hentries | ⟨texts, htexts, ⟨_, hnone⟩ | ⟨hne, _, hempty⟩⟩
    -- An entry on its own is never refused for an empty header.
    · obtain ⟨_, hkey | hshape | hlist⟩ := entryTexts_error_cases hentries
      · cases hkey
      · cases hshape
      · cases hlist
    · cases hnone
    · exact ⟨texts, entryTexts_eq_ok_iff.1 htexts, hne, hempty⟩
  · intro h
    obtain ⟨texts, htexts, hne, hempty⟩ := h
    exact .inr ⟨texts, entryTexts_eq_ok_iff.2 htexts, .inr ⟨hne, rfl, hempty⟩⟩

theorem headerText_eq_emptyHeader_iff {g : Grammar} {entries : List (String × RawList)} :
    headerText g entries = .error .emptyHeader ↔
      entries ≠ [] ∧ g.valueWrap = .bare ∧ g.valueSeparator = "" ∧ (∀ e ∈ entries, Blank g e) ∧
        (entries.length = 1 ∨ g.entrySeparator = "") := by
  rw [headerText_eq_emptyHeader_iff_texts]
  constructor
  · intro h
    obtain ⟨texts, htexts, hne, hjoin⟩ := h
    obtain ⟨hempty, hjoined⟩ := Header.intercalate_eq_empty_iff.1 hjoin
    obtain ⟨hlength, heach⟩ := (forall₂_iff_of_forall_mem_eq hempty).1 htexts
    simp only [entry_eq_ok_empty_iff] at heach
    have hpos : 0 < entries.length := hlength ▸ List.length_pos_iff.2 hne
    have hentries : entries ≠ [] := List.length_pos_iff.1 hpos
    obtain ⟨first, hfirst⟩ := List.exists_mem_of_ne_nil entries hentries
    obtain ⟨hwrap, hseparator, -⟩ := heach first hfirst
    refine ⟨hentries, hwrap, hseparator, fun e he => (heach e he).2.2, ?_⟩
    exact hjoined.imp_left fun hle => by omega
  · intro h
    obtain ⟨hne, hwrap, hseparator, hblank, hjoined⟩ := h
    have heach : ∀ e ∈ entries, entry g e.1 e.2 = .ok "" :=
      fun e he => entry_eq_ok_empty_iff.2 ⟨hwrap, hseparator, hblank e he⟩
    have hempty : ∀ text ∈ List.replicate entries.length "", text = "" :=
      fun text => List.eq_of_mem_replicate
    refine ⟨List.replicate entries.length "", ?_, by simpa using hne, ?_⟩
    · exact (forall₂_iff_of_forall_mem_eq hempty).2 ⟨List.length_replicate.symm, heach⟩
    · rw [Header.intercalate_eq_empty_iff, List.length_replicate]
      exact ⟨hempty, hjoined.imp_left le_of_eq⟩

/-- No entry of a built-in dialect is empty, so neither is its header. -/
theorem headerText_dialect_ne_emptyHeader (dialect : Dialect)
    (entries : List (String × RawList)) :
    headerText dialect.grammar entries ≠ .error .emptyHeader := by
  intro h
  obtain ⟨-, hwrap, hseparator, -⟩ := headerText_eq_emptyHeader_iff.1 h
  cases dialect with
  | permissions => cases hwrap
  | feature => exact absurd hseparator (by decide)

theorem compileFeatures_ne_emptyHeader (dialect : Dialect) (v : Value) :
    (compileFeatures dialect v).outcome ≠ .error .emptyHeader := by
  intro h
  rcases compileFeatures_outcome_eq_error_iff.1 h with ⟨_, _, hentries⟩ | ⟨_, hshape⟩
  · exact headerText_dialect_ne_emptyHeader dialect _ hentries
  · cases hshape

theorem compileOptions_ne_emptyHeader (dialect : Dialect) (v : Value) :
    (compileOptions dialect v).outcome ≠ .error .emptyHeader := by
  cases v with
  | object members =>
    cases hget : Entries.get? members "features" with
    | some features =>
      rw [compileOptions_of_get? hget]
      exact compileFeatures_ne_emptyHeader dialect features
    | none => simp [compileOptions_of_get?_none hget]
  | _ => simp [compileOptions_of_ne_object]

/-- No header of a built-in dialect is refused for being empty, whichever way it is compiled. Under
any grammar a header is refused for that exactly when there are entries, nothing of the grammar
stands inside or between them, and none of them leaves anything to write. -/
theorem empty_header_iff_nothing_to_write :
    (∀ dialect : Dialect,
      (∀ m, (compile dialect m).outcome ≠ .error .emptyHeader) ∧
        (∀ v, (compileOptions dialect v).outcome ≠ .error .emptyHeader) ∧
        ∀ v, (compileFeatures dialect v).outcome ≠ .error .emptyHeader) ∧
    ∀ (g : Grammar) (entries : List (String × RawList)),
      headerText g entries = .error .emptyHeader ↔
        entries ≠ [] ∧ g.valueWrap = .bare ∧ g.valueSeparator = "" ∧ (∀ e ∈ entries, Blank g e) ∧
          (entries.length = 1 ∨ g.entrySeparator = "") := by
  refine ⟨fun dialect => ⟨?_, compileOptions_ne_emptyHeader dialect,
    compileFeatures_ne_emptyHeader dialect⟩, fun g entries => headerText_eq_emptyHeader_iff⟩
  intro m
  rw [← compileFeatures_toValue]
  exact compileFeatures_ne_emptyHeader dialect m.toValue

/-- A grammar of one's own can get there: no text behind a key, and none for no tokens. -/
example : headerText { Grammar.feature with
      keys := .unrestricted, noneKeyword := "", valueSeparator := "" } [("", .tokens [])] =
    .error .emptyHeader := by
  decide +kernel

end BrowserPolicy.Compile
