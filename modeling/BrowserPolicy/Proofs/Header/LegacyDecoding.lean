import BrowserPolicy.Header.Reading
import BrowserPolicy.Proofs.Compile.Accepted
import BrowserPolicy.Proofs.Grammar.Spelling
import BrowserPolicy.Proofs.Header.Pieces

namespace BrowserPolicy.Header.Legacy

open Compile Grammar

/-- The tokens as the older header lists them: a feature that allows nothing says so. -/
def spelledOut (tokens : List String) : List String :=
  if tokens = [] then ["'none'"] else tokens

def IsWord (text : String) : Prop :=
  ∀ c ∈ text.toList, splitsEntry c = false

theorem IsWord.not_mem {text : String} (h : IsWord text) {c : Char} (hc : splitsEntry c = true) :
    c ∉ text.toList := by
  intro hmem
  rw [h c hmem] at hc
  cases hc

theorem isWord_of_mem_legacyFeatures {row : String × String} (h : row ∈ legacyFeatures) :
    IsWord row.2 := by
  have hall : (legacyFeatures.all fun row => row.2.toList.all fun c => !splitsEntry c) = true := by
    decide
  have hrow := List.all_eq_true.1 hall row h
  simpa [IsWord] using hrow

theorem isWord_of_mem_reserved {token : String} (h : token ∈ Grammar.feature.reserved) :
    IsWord token := by
  have hall : (Grammar.feature.reserved.all fun token =>
      token.toList.all fun c => !splitsEntry c) = true := by
    decide
  have htoken := List.all_eq_true.1 hall token h
  simpa [IsWord] using htoken

/-- Keywords and bare origins are words. -/
theorem isWord_of_accepts {token : String} (h : Grammar.feature.Accepts token) : IsWord token := by
  rcases h.reserved_or_quoted with hreserved | hquoted
  · exact isWord_of_mem_reserved hreserved
  · exact (isBareOrigin_iff.1 hquoted).2

theorem isWord_of_mem_spelledOut {tokens : List String}
    (h : ∀ token ∈ tokens, Grammar.feature.Accepts token) :
    ∀ token ∈ spelledOut tokens, IsWord token := by
  intro token htoken
  unfold spelledOut at htoken
  split at htoken
  · obtain rfl : token = "'none'" := by simpa using htoken
    exact isWord_of_mem_reserved (by decide)
  · exact isWord_of_accepts (h token htoken)

/-- An entry is its key and its tokens with blanks between them. -/
theorem renderEntry_eq (key : String) (tokens : List String) :
    renderEntry Grammar.feature key tokens = " ".intercalate (key :: spelledOut tokens) := by
  by_cases hnil : tokens = []
  · subst hnil
    rfl
  · simp [renderEntry, Grammar.feature, spelledOut, hnil, String.intercalate_cons_of_ne_nil hnil]

theorem words_intercalate {texts : List String} (hne : texts ≠ [])
    (h : ∀ text ∈ texts, IsWord text) : words (" ".intercalate texts).toList = texts := by
  have hblank : ∀ text ∈ texts, ' ' ∉ text.toList := by
    intro text htext
    exact (h text htext).not_mem (by decide)
  rw [words, splitOn_toList_intercalate rfl hne hblank, List.map_map]
  simp

theorem words_renderEntry {key : String} {tokens : List String} (hkey : IsWord key)
    (htokens : ∀ token ∈ spelledOut tokens, IsWord token) :
    ';' ∉ (renderEntry Grammar.feature key tokens).toList ∧
      words (renderEntry Grammar.feature key tokens).toList = key :: spelledOut tokens := by
  have hwords : ∀ word ∈ key :: spelledOut tokens, IsWord word :=
    List.forall_mem_cons.2 ⟨hkey, htokens⟩
  rw [renderEntry_eq]
  refine ⟨?_, words_intercalate (by simp) hwords⟩
  intro hend
  rw [String.toList_intercalate] at hend
  rcases mem_of_mem_intercalate hend with hblank | ⟨word, hword, hmem⟩
  · exact absurd hblank (by decide)
  · obtain ⟨w, hw, rfl⟩ := List.mem_map.1 hword
    exact (hwords w hw).not_mem (by decide) hmem

/-- An entry holds no semicolon and is read back as its feature. -/
theorem readFeature?_of_writes {e : String × List String} {text : String}
    (h : Writes Grammar.feature e text) :
    ';' ∉ text.toList ∧ readFeature? text.toList = some (e.1, spelledOut e.2) := by
  obtain ⟨key, hspells, hallowed, rfl⟩ := h
  have hrow : (e.1, key) ∈ legacyFeatures := KeyVocabulary.mem_of_spells hspells
  obtain ⟨hend, hwords⟩ := words_renderEntry (isWord_of_mem_legacyFeatures hrow)
    (isWord_of_mem_spelledOut hallowed.accepts)
  refine ⟨hend, ?_⟩
  rw [readFeature?, hwords]
  simp [featureOfKey?_of_mem hrow]

/-- A header is read back as its features, with the empty lists spelled out. -/
theorem read?_of_compile {m : FeatureMap} {p : CompiledPolicy}
    (h : (compile .feature m).outcome = .ok p) :
    read? p.value = some (m.entries.map fun e => (e.1, spelledOut e.2)) := by
  obtain ⟨-, hne, -, texts, hall, hvalue⟩ := compile_outcome_eq_ok_iff.1 h
  have hread : List.Forall₂ (fun text value => ';' ∉ text.toList ∧
      readFeature? text.toList = some value) texts
      (m.entries.map fun e => (e.1, spelledOut e.2)) := by
    rw [List.forall₂_map_right_iff]
    apply List.Forall₂.flip
    apply hall.imp
    intro e text hwrites
    exact readFeature?_of_writes hwrites
  obtain ⟨hend, hread⟩ := (List.forall₂_and_left _ _).1 hread
  have htexts : texts ≠ [] := by
    rintro rfl
    exact hne (List.forall₂_nil_right_iff.1 hall)
  rw [read?, hvalue]
  change (((";" : String).intercalate texts).toList.splitOn ';').mapM readFeature? = _
  rw [splitOn_toList_intercalate rfl htexts hend]
  exact mapM_eq_some_iff_forall₂.2 (List.forall₂_map_left_iff.2 hread)

/-- Spelling out confuses the empty list with the none keyword, and nothing else. -/
theorem eq_or_nil_of_spelledOut_eq {a b : List String} (h : spelledOut a = spelledOut b) :
    a = b ∨ a = [] ∧ b = ["'none'"] ∨ a = ["'none'"] ∧ b = [] := by
  unfold spelledOut at h
  split at h <;> split at h <;> simp_all

/-- A compiled header of the older dialect reads back as its features in order, and policies with
one header differ only in how they allow nothing. -/
theorem legacy_header_determines_features {m : FeatureMap} {p : CompiledPolicy}
    (h : (compile .feature m).outcome = .ok p) :
    read? p.value = some (m.entries.map fun e => (e.1, if e.2 = [] then ["'none'"] else e.2)) ∧
      ∀ m' p', (compile .feature m').outcome = .ok p' → p'.value = p.value →
        List.Forall₂ (fun e e' => e.1 = e'.1 ∧ (e.2 = e'.2 ∨
          e.2 = [] ∧ e'.2 = ["'none'"] ∨ e.2 = ["'none'"] ∧ e'.2 = [])) m.entries m'.entries := by
  refine ⟨read?_of_compile h, fun m' p' h' hvalue => ?_⟩
  have hread := read?_of_compile h
  rw [← hvalue, read?_of_compile h', Option.some.injEq, eq_comm, map_eq_map_iff_forall₂] at hread
  apply hread.imp
  intro e e' heq
  obtain ⟨hkey, htokens⟩ := Prod.mk.inj heq
  exact ⟨hkey, eq_or_nil_of_spelledOut_eq htokens⟩

theorem legacy_header_of_camera_and_fullscreen :
    (compile .feature (.ofList
        [("fullscreen", []), ("camera", ["'self'", "https://a.example"])])).outcome =
        .ok ⟨.feature, "fullscreen 'none';camera 'self' https://a.example"⟩ ∧
      read? "fullscreen 'none';camera 'self' https://a.example" =
        some [("fullscreen", ["'none'"]), ("camera", ["'self'", "https://a.example"])] ∧
      List.Forall₂ (fun e e' : String × List String => e.1 = e'.1 ∧ (e.2 = e'.2 ∨
          e.2 = [] ∧ e'.2 = ["'none'"] ∨ e.2 = ["'none'"] ∧ e'.2 = []))
        [("fullscreen", []), ("camera", ["'self'", "https://a.example"])]
        [("fullscreen", ["'none'"]), ("camera", ["'self'", "https://a.example"])] := by
  have h : (compile .feature (.ofList
      [("fullscreen", []), ("camera", ["'self'", "https://a.example"])])).outcome =
      .ok ⟨.feature, "fullscreen 'none';camera 'self' https://a.example"⟩ := by decide +kernel
  have h' : (compile .feature (.ofList
      [("fullscreen", ["'none'"]), ("camera", ["'self'", "https://a.example"])])).outcome =
      .ok ⟨.feature, "fullscreen 'none';camera 'self' https://a.example"⟩ := by decide +kernel
  obtain ⟨hread, hsame⟩ := legacy_header_determines_features h
  exact ⟨h, hread, hsame _ _ h' rfl⟩

end BrowserPolicy.Header.Legacy
