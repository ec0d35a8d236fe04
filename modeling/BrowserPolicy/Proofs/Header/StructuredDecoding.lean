import BrowserPolicy.Proofs.Grammar.CamelCase
import BrowserPolicy.Proofs.Header.TokenStructure

namespace BrowserPolicy.Header.Structured

open Compile Grammar

def QuotesAtEnds (token : String) : Prop :=
  ∀ before after, token.toList = before ++ '"' :: after → before = [] ∨ after = []

theorem quotesAtEnds_iff {token : String} {inner : List Char}
    (htoken : token.toList = '"' :: (inner ++ ['"'])) : QuotesAtEnds token ↔ '"' ∉ inner := by
  constructor
  · intro h hmem
    obtain ⟨before, after, rfl⟩ := List.append_of_mem hmem
    have hends := h ('"' :: before) (after ++ ['"']) (by simp [htoken])
    rcases hends with hbefore | hafter
    · cases hbefore
    · simp at hafter
  · intro h before after hsplit
    rw [htoken] at hsplit
    cases before with
    | nil => exact Or.inl rfl
    | cons c before =>
      right
      -- Were there more behind this double quote, it would stand in front of the last one.
      rcases List.eq_nil_or_concat after with hnil | ⟨more, last, rfl⟩
      · exact hnil
      · have hrest : inner ++ ['"'] = (before ++ '"' :: more) ++ [last] := by
          simpa using (List.cons.inj hsplit).2
        obtain ⟨rfl, -⟩ := List.append_inj' hrest rfl
        exact absurd (List.mem_append_right _ (List.mem_cons_self ..)) h

theorem unbroken_string {inner : List Char} (h : '"' ∉ inner) :
    Unbroken [' '] true (inner ++ ['"']) := by
  induction inner with
  | nil => simp [Unbroken]
  | cons c rest ih =>
    rw [List.mem_cons, not_or] at h
    obtain ⟨hc, hrest⟩ := h
    have hstay : (true != (c == '"')) = true := by simpa using fun heq => hc heq.symm
    refine ⟨fun hinside => absurd hinside (by decide), ?_⟩
    rw [hstay]
    exact ih hrest

/-- A token with double quotes at its ends only is one string. -/
theorem stringsClosed_of_isDoubleQuoted {token : String} (h : isDoubleQuoted token = true)
    (hends : QuotesAtEnds token) : BlanksQuoted token ∧ QuotesPaired token := by
  obtain ⟨inner, htoken, -⟩ := isDoubleQuoted_iff.1 h
  have hinner : '"' ∉ inner := (quotesAtEnds_iff htoken).1 hends
  constructor
  · rw [← unbroken_blank_iff_blanksQuoted, htoken]
    exact ⟨fun _ => by simp, unbroken_string hinner⟩
  · have hcount : token.toList.count '"' = 2 := by
      rw [htoken, List.count_cons_self, List.count_append, List.count_eq_zero_of_not_mem hinner]
      rfl
    rw [QuotesPaired, hcount]
    exact even_two

theorem stringsClosed_of_mem_reserved {token : String}
    (h : token ∈ Grammar.permissions.reserved) : BlanksQuoted token ∧ QuotesPaired token := by
  have hplain : ∀ token ∈ Grammar.permissions.reserved,
      ' ' ∉ token.toList ∧ '"' ∉ token.toList := by
    decide
  obtain ⟨hblank, hquote⟩ := hplain token h
  constructor
  · intro before after htoken
    simp [htoken] at hblank
  · rw [QuotesPaired, List.count_eq_zero_of_not_mem hquote]
    exact Even.zero

theorem stringsClosed_of_accepts {token : String} (h : Grammar.permissions.Accepts token)
    (hends : QuotesAtEnds token) : BlanksQuoted token ∧ QuotesPaired token := by
  rcases h.reserved_or_quoted with hreserved | hquoted
  · exact stringsClosed_of_mem_reserved hreserved
  · exact stringsClosed_of_isDoubleQuoted hquoted hends

theorem splitFeature?_append {key : List Char} (h : '=' ∉ key) (inner : List Char) :
    splitFeature? (key ++ '=' :: '(' :: (inner ++ [')'])) = some (key, inner) := by
  have hkey : ∀ c ∈ key, (c != '=') = true := by
    intro c hc
    have hne : c ≠ '=' := fun heq => h (heq ▸ hc)
    simpa using hne
  have hspan : (key ++ '=' :: '(' :: (inner ++ [')'])).span (· != '=') =
      (key, '=' :: '(' :: (inner ++ [')'])) := by
    rw [List.span_eq_takeWhile_dropWhile, List.takeWhile_append_of_pos hkey,
      List.dropWhile_append_of_pos hkey]
    simp
  rw [splitFeature?, hspan]
  simp

theorem undash_of_isIdentifier {key : String} (h : IsIdentifier key) : undash key = key := by
  apply undash_of_not_mem
  intro hdash
  exact absurd (h.2 '-' hdash) (by decide)

theorem EntryReads.readFeature? {text : List Char} {key : String} {read : List String}
    (hkey : IsIdentifier key) (h : EntryReads text (dashify key) read) :
    readFeature? text = some (key, read) := by
  obtain ⟨inner, rfl, rfl⟩ := h
  have hequals : '=' ∉ (dashify key).toList := not_mem_dashify hkey (by decide) (by decide)
  have hcamel : undash (dashify key) = key := by
    rw [undash_dashify, undash_of_isIdentifier hkey]
  rw [Structured.readFeature?, splitFeature?_append hequals]
  simp only [Option.map_some, String.ofList_toList, hcamel]

/-- A header that reads back under dashed keys reads back under the names of a configuration. -/
theorem ReadsBack.read? {m : FeatureMap} {value : String} (h : ReadsBack m value)
    (hkeys : ∀ e ∈ m.entries, IsIdentifier e.1) : read? value = some m.entries := by
  have hboth : List.Forall₂ (fun e text => IsIdentifier e.1 ∧ EntryReads text (dashify e.1) e.2)
      m.entries (entries value) := (List.forall₂_and_left _ _).2 ⟨hkeys, h.flip⟩
  rw [Structured.read?, mapM_eq_some_iff_forall₂]
  apply hboth.flip.imp
  intro text e hentry
  obtain ⟨hkey, hreads⟩ := hentry
  exact hreads.readFeature? hkey

/-- A policy of plain names and of tokens with double quotes at their ends only reads back from its
header as it was: the same features with the same tokens, in order. -/
theorem header_reads_as_features {m : FeatureMap} {p : CompiledPolicy}
    (hkeys : ∀ e ∈ m.entries, IsIdentifier e.1)
    (hends : ∀ e ∈ m.entries, ∀ token ∈ e.2, QuotesAtEnds token)
    (h : (compile .permissions m).outcome = .ok p) : read? p.value = some m.entries := by
  have hstrings : StringsClosed m := by
    apply StringsClosed.of_compile h
    intro e he token htoken haccepts
    exact stringsClosed_of_accepts haccepts (hends e he token htoken)
  have hreads : ReadsBack m p.value := (readsBack_iff hkeys h).2 hstrings
  exact hreads.read? hkeys

theorem header_reads_as_syncXhr_and_camera :
    (compile .permissions (.ofList
        [("syncXhr", ["self", "\"https://a.example/(b), c=(d)\""]), ("camera", [])])).outcome =
      .ok ⟨.permissions, "sync-xhr=(self \"https://a.example/(b), c=(d)\"), camera=()"⟩ ∧
    read? "sync-xhr=(self \"https://a.example/(b), c=(d)\"), camera=()" =
      some [("syncXhr", ["self", "\"https://a.example/(b), c=(d)\""]), ("camera", [])] := by
  have hcompiled : (compile .permissions (.ofList
      [("syncXhr", ["self", "\"https://a.example/(b), c=(d)\""]), ("camera", [])])).outcome =
      .ok ⟨.permissions, "sync-xhr=(self \"https://a.example/(b), c=(d)\"), camera=()"⟩ := by
    decide +kernel
  have hentries : (FeatureMap.ofList
      [("syncXhr", ["self", "\"https://a.example/(b), c=(d)\""]), ("camera", [])]).entries =
      [("syncXhr", ["self", "\"https://a.example/(b), c=(d)\""]), ("camera", [])] := rfl
  have hkeys : IsIdentifier "syncXhr" ∧ IsIdentifier "camera" :=
    ⟨⟨by decide, by simp⟩, ⟨by decide, by simp⟩⟩
  have hself : QuotesAtEnds "self" := by
    intro before after htoken
    have hmem : '"' ∈ "self".toList := by simp [htoken]
    exact absurd hmem (by decide)
  have horigin : QuotesAtEnds "\"https://a.example/(b), c=(d)\"" :=
    (@quotesAtEnds_iff _ "https://a.example/(b), c=(d)".toList (by decide)).2 (by decide)
  refine ⟨hcompiled, header_reads_as_features ?_ ?_ hcompiled⟩
  · rw [hentries]
    simp [hkeys]
  · rw [hentries]
    simp [hself, horigin]

end BrowserPolicy.Header.Structured
