import BrowserPolicy.Proofs.Compile.EntryPoints
import BrowserPolicy.Proofs.Header.LegacyDecoding

namespace BrowserPolicy.Header.Legacy

open Compile AllowList Grammar

inductive ListWord : String → Prop where
  | wildcard : ListWord "*"
  | keyword {word : String} (quoted : word ∈ ["'self'", "'none'", "'src'"]) : ListWord word
  | origin {word : String} (bare : isBareOrigin word = true)
      (unquoted : word ∉ ["self", "none", "src"]) : ListWord word

structure WellFormed (e : String × List String) : Prop where
  known : e.1 ∈ legacyFeatures.map Prod.snd
  some_word : e.2 ≠ []
  words : ∀ word ∈ e.2, ListWord word
  nodup : e.2.Nodup
  alone : 2 ≤ e.2.length → "*" ∉ e.2 ∧ "'none'" ∉ e.2

/-- Entries of different features with semicolons between them and blanks between their words. -/
def language : Set String :=
  {value | ∃ entries : Entries (List String), entries ≠ [] ∧ entries.names.Nodup ∧
    (∀ e ∈ entries, WellFormed e) ∧
      value = ";".intercalate (entries.map fun e => " ".intercalate (e.1 :: e.2))}

/-- The words of the language are the tokens that the grammar accepts. -/
theorem accepts_iff_listWord {word : String} :
    Grammar.feature.Accepts word ↔ ListWord word := by
  have hforms : Grammar.feature.misquoted.map Misquoted.form = ["self", "none", "src"] := rfl
  constructor
  · intro h
    rcases h.reserved_or_quoted with hreserved | hbare
    · rcases List.mem_cons.1 hreserved with rfl | hkeyword
      · exact .wildcard
      · exact .keyword hkeyword
    · apply ListWord.origin hbare
      rw [← hforms, List.mem_map]
      rintro ⟨row, hrow, hform⟩
      exact h.not_misquoted row hrow hform
  · intro h
    cases h with
    | wildcard => exact ⟨by decide, Or.inl (by decide)⟩
    | keyword hquoted =>
      have hother : ∀ word ∈ ["'self'", "'none'", "'src'"],
          ∀ row ∈ Grammar.feature.misquoted, row.form ≠ word := by decide
      exact ⟨hother word hquoted, Or.inl (List.mem_cons_of_mem _ hquoted)⟩
    | origin hbare hunquoted =>
      refine ⟨?_, Or.inr hbare⟩
      intro row hrow hform
      rw [← hforms] at hunquoted
      exact hunquoted (List.mem_map.2 ⟨row, hrow, hform⟩)

theorem wellFormed_iff {e : String × List String} :
    WellFormed e ↔
      e.1 ∈ legacyFeatures.map Prod.snd ∧ e.2 ≠ [] ∧ Allowed Grammar.feature e.2 := by
  constructor
  · intro h
    have haccepts : ∀ word ∈ e.2, Grammar.feature.Accepts word := by
      intro word hword
      exact accepts_iff_listWord.2 (h.words word hword)
    exact ⟨h.known, h.some_word, h.nodup, haccepts, h.alone⟩
  · intro h
    obtain ⟨hknown, hsome, hallowed⟩ := h
    have hwords : ∀ word ∈ e.2, ListWord word := by
      intro word hword
      exact accepts_iff_listWord.1 (hallowed.accepts word hword)
    exact ⟨hknown, hsome, hwords, hallowed.nodup, hallowed.exclusive⟩

theorem allowed_spelledOut {tokens : List String} (h : Allowed Grammar.feature tokens) :
    Allowed Grammar.feature (spelledOut tokens) := by
  unfold spelledOut
  split
  · have hnone : Grammar.feature.Accepts "'none'" := accepts_iff_listWord.2 (.keyword (by decide))
    exact ⟨by simp, by simpa using hnone, by simp⟩
  · exact h

theorem spelledOut_ne_nil (tokens : List String) : spelledOut tokens ≠ [] := by
  unfold spelledOut
  split
  · simp
  · assumption

theorem spelledOut_of_ne_nil {tokens : List String} (h : tokens ≠ []) :
    spelledOut tokens = tokens := by
  simp [spelledOut, h]

theorem spells_of_mem_legacyFeatures {row : String × String} (h : row ∈ legacyFeatures) :
    (KeyVocabulary.listed legacyFeatures).Spells row.1 row.2 := by
  have hnames : (legacyFeatures.map Prod.fst).Nodup := by decide +kernel
  exact KeyVocabulary.spells_of_mem hnames h

theorem key_ne_empty {key : String} (h : key ∈ legacyFeatures.map Prod.snd) : key ≠ "" := by
  have hall : "" ∉ legacyFeatures.map Prod.snd := by decide +kernel
  rintro rfl
  exact hall h

theorem value_ne_empty {entries : Entries (List String)} (hne : entries ≠ [])
    (h : ∀ e ∈ entries, WellFormed e) :
    ";".intercalate (entries.map fun e => " ".intercalate (e.1 :: e.2)) ≠ "" := by
  obtain ⟨first, rest, rfl⟩ := List.exists_cons_of_ne_nil hne
  have hkey : first.1 ≠ "" := key_ne_empty (h first (List.mem_cons_self ..)).known
  rw [List.map_cons]
  exact intercalate_cons_ne_empty (intercalate_cons_ne_empty hkey first.2) _

/-- What compiles is in the language, the empty lists spelled out. -/
theorem mem_language_of_compile {m : FeatureMap} {p : CompiledPolicy}
    (h : (compile .feature m).outcome = .ok p) : p.value ∈ language := by
  obtain ⟨-, -, hvalue_ne, -⟩ := compile_outcome_eq_ok_iff.1 h
  -- The object of the policy states the same entries, and its keys are known to differ.
  rw [← compileFeatures_toValue] at h
  obtain ⟨stated, hstated, hvalue⟩ := exists_stated_of_compileFeatures h
  refine ⟨stated.map fun w => (w.1, spelledOut w.2), ?_, ?_, ?_, ?_⟩
  · intro hnil
    obtain rfl : stated = [] := by simpa using hnil
    exact hvalue_ne hvalue
  · have hnames : Entries.names (stated.map fun w => (w.1, spelledOut w.2)) =
        stated.map Prod.fst := by
      simp [Entries.names]
    rw [hnames]
    apply nodup_legacy_keys hstated
    simpa [Function.comp_def, Entries.names] using m.nodup_names
  · have hwell : ∀ w ∈ stated, WellFormed (w.1, spelledOut w.2) := by
      refine forall_mem_of_forall₂ hstated.flip ?_
      intro w e hstates
      have hrow : (e.1, w.1) ∈ legacyFeatures := KeyVocabulary.mem_of_spells hstates.1
      exact wellFormed_iff.2 ⟨List.mem_map_of_mem hrow, spelledOut_ne_nil w.2,
        allowed_spelledOut hstates.2.2⟩
    exact List.forall_mem_map.2 hwell
  · rw [hvalue, List.map_map]
    simp only [Dialect.grammar, renderEntry_eq]
    rfl

/-- What is in the language is compiled from something: its own features, with no list empty. -/
theorem exists_features_of_mem_language {value : String} (h : value ∈ language) :
    ∃ m : FeatureMap, (∀ e ∈ m.entries, e.2 ≠ []) ∧
      (compile .feature m).outcome = .ok ⟨.feature, value⟩ := by
  obtain ⟨entries, hne, hnames, hentries, rfl⟩ := h
  have hrows : ∀ e ∈ entries, ∃ feature, (feature, e.1) ∈ legacyFeatures := by
    intro e he
    obtain ⟨row, hrow, hkey⟩ := List.mem_map.1 (hentries e he).known
    exact ⟨row.1, by rwa [← hkey]⟩
  choose! feature hrow using hrows
  have hspells : ∀ e ∈ entries, Grammar.feature.keys.Spells (feature e) e.1 := by
    intro e he
    exact spells_of_mem_legacyFeatures (hrow e he)
  -- Two features of one name would be spelled alike.
  have hfeatures : (Entries.names (entries.map fun e => (feature e, e.2))).Nodup := by
    have hkeys : List.Forall₂ (KeyVocabulary.listed legacyFeatures).Spells
        (Entries.names (entries.map fun e => (feature e, e.2))) entries.names := by
      rw [Entries.names, Entries.names, List.map_map, List.forall₂_map_left_iff,
        List.forall₂_map_right_iff, List.forall₂_same]
      exact hspells
    exact (List.rel_nodup biUnique_spells_legacyFeatures hkeys).2 hnames
  refine ⟨⟨entries.map fun e => (feature e, e.2), hfeatures⟩, ?_, ?_⟩
  · exact List.forall_mem_map.2 fun e he => (hentries e he).some_word
  · rw [compile_outcome_eq_ok_iff]
    refine ⟨rfl, by simpa using hne, value_ne_empty hne hentries, _, ?_, rfl⟩
    rw [List.forall₂_map_left_iff, List.forall₂_map_right_iff, List.forall₂_same]
    intro e he
    obtain ⟨-, hsome, hallowed⟩ := wellFormed_iff.1 (hentries e he)
    refine ⟨e.1, hspells e he, hallowed, ?_⟩
    rw [Dialect.grammar, renderEntry_eq, spelledOut_of_ne_nil hsome]

/-- When no list is empty there is nothing to spell out. -/
theorem read?_of_compile_of_ne_nil {m : FeatureMap} {p : CompiledPolicy}
    (h : (compile .feature m).outcome = .ok p) (hsome : ∀ e ∈ m.entries, e.2 ≠ []) :
    read? p.value = some m.entries := by
  have hspelled : ∀ e ∈ m.entries, (e.1, spelledOut e.2) = e := by
    intro e he
    exact congrArg (Prod.mk e.1) (spelledOut_of_ne_nil (hsome e he))
  calc
    read? p.value = some (m.entries.map fun e => (e.1, spelledOut e.2)) := read?_of_compile h
    _ = some (m.entries.map id) := congrArg some (List.map_congr_left hspelled)
    _ = some m.entries := congrArg some (List.map_id _)

/-- The values of compiled headers are exactly the language, and a value of the language is what its
own features compile to. -/
theorem compiled_values_eq_language (value : String) :
    ((∃ m p, (compile .feature m).outcome = .ok p ∧ p.value = value) ↔ value ∈ language) ∧
      (value ∈ language ↔ ∃ m : FeatureMap, read? value = some m.entries ∧
        (compile .feature m).outcome = .ok ⟨.feature, value⟩) := by
  refine ⟨⟨?_, ?_⟩, ⟨?_, ?_⟩⟩
  · intro h
    obtain ⟨m, p, hcompiled, rfl⟩ := h
    exact mem_language_of_compile hcompiled
  · intro h
    obtain ⟨m, -, hcompiled⟩ := exists_features_of_mem_language h
    exact ⟨m, _, hcompiled, rfl⟩
  · intro h
    obtain ⟨m, hsome, hcompiled⟩ := exists_features_of_mem_language h
    exact ⟨m, read?_of_compile_of_ne_nil hcompiled hsome, hcompiled⟩
  · intro h
    obtain ⟨m, -, hcompiled⟩ := h
    exact mem_language_of_compile hcompiled

end BrowserPolicy.Header.Legacy
