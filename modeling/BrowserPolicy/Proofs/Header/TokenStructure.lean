import BrowserPolicy.Proofs.Compile.Accepted
import BrowserPolicy.Proofs.Grammar.Spelling
import BrowserPolicy.Proofs.Header.Pieces

/-!
When the tokens of a policy keep the structure of its header. A token that opens and closes its own
strings, with blanks inside them only, stays in its place; every other token can end its list or
swallow what follows it.
-/

namespace BrowserPolicy.Header.Structured

open Compile AllowList Grammar

def IsIdentifier (key : String) : Prop :=
  key ≠ "" ∧ ∀ c ∈ key.toList, c.isAlphanum = true

def EntryReads (text : List Char) (key : String) (read : List String) : Prop :=
  ∃ inner, text = key.toList ++ '=' :: '(' :: (inner ++ [')']) ∧ tokens inner = read

/-- The header has an entry for each feature, and in it as many tokens as the feature has. -/
def KeepsStructure (m : FeatureMap) (value : String) : Prop :=
  List.Forall₂ (fun text e => ∃ read, EntryReads text (dashify e.1) read ∧
    read.length = e.2.length) (entries value) m.entries

/-- No header of tokens of this kind loses the structure of its policy. -/
def Harmless (kind : String → Prop) : Prop :=
  ∀ m p, (∀ e ∈ m.entries, IsIdentifier e.1 ∧ ∀ token ∈ e.2, kind token) →
    (compile .permissions m).outcome = .ok p → KeepsStructure m p.value

/-- The header has an entry for each feature, and in it the tokens of the feature. -/
def ReadsBack (m : FeatureMap) (value : String) : Prop :=
  List.Forall₂ (fun text e => EntryReads text (dashify e.1) e.2) (entries value) m.entries

def BlanksQuoted (token : String) : Prop :=
  ∀ before after, token.toList = before ++ ' ' :: after → Odd (before.count '"')

def QuotesPaired (token : String) : Prop :=
  Even (token.toList.count '"')

/-- No token has a blank outside strings, and none but the last of all leaves a string open. -/
structure StringsClosed (m : FeatureMap) : Prop where
  blanks : ∀ e ∈ m.entries, ∀ token ∈ e.2, BlanksQuoted token
  before_token : ∀ e ∈ m.entries, ∀ token ∈ e.2.dropLast, QuotesPaired token
  before_entry : ∀ e ∈ m.entries.dropLast, ∀ token ∈ e.2, QuotesPaired token

/-- A text is unbroken at its blanks when each of them stands inside a string. -/
theorem unbroken_blank_iff {inside : Bool} {text : List Char} :
    Unbroken [' '] inside text ↔
      ∀ before after, text = before ++ ' ' :: after → insideAfter inside before = true := by
  induction text generalizing inside with
  | nil => simp [Unbroken]
  | cons c rest ih =>
    rw [Unbroken, ih]
    constructor
    · rintro ⟨hfirst, hrest⟩ before after heq
      cases before with
      | nil =>
        obtain ⟨rfl, rfl⟩ := List.cons.inj heq
        cases inside with
        | false => exact absurd ⟨rest, rfl⟩ (hfirst rfl)
        | true => rfl
      | cons d before =>
        obtain ⟨rfl, rfl⟩ := List.cons.inj heq
        exact hrest before after rfl
    · intro h
      refine ⟨fun hinside hstart => ?_,
        fun before after heq => h (c :: before) after (by simp [heq])⟩
      obtain ⟨after, hafter⟩ := hstart
      have := h [] after (by simp [← hafter])
      simp [insideAfter, hinside] at this

theorem unbroken_blank_iff_blanksQuoted {token : String} :
    Unbroken [' '] false token.toList ↔ BlanksQuoted token := by
  simp [unbroken_blank_iff, BlanksQuoted, insideAfter_eq]

theorem insideAfter_eq_false_iff {token : String} :
    insideAfter false token.toList = false ↔ QuotesPaired token := by
  simp [insideAfter_eq, QuotesPaired]

/-- A token ends with a double quote or with the end of a keyword. -/
theorem getLast?_of_accepts {token : String} (h : Grammar.permissions.Accepts token) :
    ∃ c, token.toList.getLast? = some c ∧ c ≠ ',' := by
  rcases h.reserved_or_quoted with hreserved | hquoted
  · have hall : ∀ token ∈ Grammar.permissions.reserved,
        ∃ c, token.toList.getLast? = some c ∧ c ≠ ',' := by
      simp [Grammar.permissions]
    exact hall token hreserved
  · -- A quoted token ends with its second double quote.
    obtain ⟨inner, htoken, -⟩ := isDoubleQuoted_iff.1 hquoted
    refine ⟨'"', ?_, by decide⟩
    rw [htoken, ← List.cons_append, List.getLast?_concat]

theorem ne_empty_of_accepts {token : String} (h : Grammar.permissions.Accepts token) :
    token ≠ "" := by
  rintro rfl
  obtain ⟨c, hlast, -⟩ := getLast?_of_accepts h
  cases hlast

theorem map_ofList_eq_iff {pieces : List (List Char)} {texts : List String} :
    pieces.map String.ofList = texts ↔ pieces = texts.map String.toList := by
  constructor
  · rintro rfl
    simp
  · rintro rfl
    simp

/-- A list is read back when its blanks stand in strings and no token but the last leaves one
open. -/
theorem tokens_intercalate_iff {list : List String} (hne : ∀ token ∈ list, token ≠ "") :
    tokens (" ".intercalate list).toList = list ↔
      (∀ token ∈ list, BlanksQuoted token) ∧ ∀ token ∈ list.dropLast, QuotesPaired token := by
  by_cases hnil : list = []
  · subst hnil
    simp [tokens]
  · have hinner : (" ".intercalate list).toList = [' '].intercalate (list.map String.toList) :=
      String.toList_intercalate
    have hsome : [' '].intercalate (list.map String.toList) ≠ [] := by
      obtain ⟨first, rest, rfl⟩ := List.exists_cons_of_ne_nil hnil
      have hfirst : first ≠ "" := hne first (List.mem_cons_self ..)
      rw [← hinner, ne_eq, String.toList_eq_nil_iff]
      exact intercalate_cons_ne_empty hfirst rest
    rw [tokens, hinner, if_neg (by simpa using hsome), map_ofList_eq_iff,
      splitOutside_intercalate_iff (by simp), pieces_false_iff, ← List.map_dropLast]
    simp only [ne_eq, List.map_eq_nil_iff, hnil, not_false_eq_true, true_and, List.forall_mem_map,
      unbroken_blank_iff_blanksQuoted, insideAfter_eq_false_iff]

theorem intercalate_tokens (inner : List Char) :
    (" ".intercalate (tokens inner)).toList = inner := by
  rw [String.toList_intercalate, tokens]
  split
  · next h => simpa using h.symm
  · rw [List.map_map]
    simpa using intercalate_splitOutside (by simp) false inner

/-- Whether the list leaves a string open is up to its last token. -/
theorem insideAfter_intercalate_iff {list : List String}
    (hpaired : ∀ token ∈ list.dropLast, QuotesPaired token) :
    insideAfter false (" ".intercalate list).toList = false ↔
      ∀ token ∈ list, QuotesPaired token := by
  induction list with
  | nil => simp [insideAfter]
  | cons first rest ih =>
    cases rest with
    | nil => simp [insideAfter_eq_false_iff]
    | cons next more =>
      rw [List.dropLast_cons_cons] at hpaired
      obtain ⟨hfirst, hrest⟩ := List.forall_mem_cons.1 hpaired
      -- The first token leaves no string open, so the rest is read as if it stood alone.
      have hclosed : insideAfter false first.toList = false := insideAfter_eq_false_iff.2 hfirst
      rw [String.intercalate_cons_cons, String.toList_append, String.toList_append,
        insideAfter_append, insideAfter_append, hclosed, List.forall_mem_cons]
      simpa [insideAfter, hfirst] using ih hrest

theorem not_mem_dashify {key : String} (hkey : IsIdentifier key) {c : Char}
    (halphanum : c.isAlphanum = false) (hdash : c ≠ '-') : c ∉ (dashify key).toList := by
  intro hmem
  have hletter : ∀ d : Char, d.isAlpha = true → ¬ d = c := by
    intro d hd heq
    subst heq
    simp [Char.isAlphanum, hd] at halphanum
  obtain ⟨d, hd, rfl⟩ := (exists_mem_dashify_iff (P := (· = c)) (Ne.symm hdash) hletter).1
    ⟨c, hmem, rfl⟩
  rw [hkey.2 d hd] at halphanum
  cases halphanum

theorem unbroken_of_not_mem {x : Char} {r : List Char} {inside : Bool} {text : List Char}
    (h : x ∉ text) : Unbroken (x :: r) inside text := by
  induction text generalizing inside with
  | nil => trivial
  | cons c rest ih =>
    rw [List.mem_cons, not_or] at h
    obtain ⟨hc, hrest⟩ := h
    exact ⟨fun _ hstart => hc (List.cons_prefix_cons.1 hstart).1, ih hrest⟩

theorem unbroken_comma_of_blank {inside : Bool} {text : List Char}
    (h : Unbroken [' '] inside text) : Unbroken [',', ' '] inside text := by
  induction text generalizing inside with
  | nil => trivial
  | cons c rest ih =>
    refine ⟨fun hinside hstart => ?_, ih h.2⟩
    obtain ⟨rfl, hblank⟩ := List.cons_prefix_cons.1 hstart
    subst hinside
    cases rest with
    | nil => simp at hblank
    | cons d more => exact h.2.1 rfl hblank

/-- Two texts are unbroken together when no separator begins at the end of the first. -/
theorem unbroken_append {inside : Bool} {a b : List Char} (ha : Unbroken [',', ' '] inside a)
    (hlast : a.getLast? ≠ some ',') (hb : Unbroken [',', ' '] (insideAfter inside a) b) :
    Unbroken [',', ' '] inside (a ++ b) := by
  induction a generalizing inside with
  | nil => exact hb
  | cons c rest ih =>
    cases rest with
    | nil =>
      refine ⟨fun _ hstart => ?_, hb⟩
      obtain ⟨rfl, -⟩ := List.cons_prefix_cons.1 hstart
      exact hlast rfl
    | cons d more =>
      refine ⟨fun hinside hstart => ?_, ih ha.2 (by simpa using hlast) hb⟩
      obtain ⟨rfl, hblank⟩ := List.cons_prefix_cons.1 hstart
      obtain ⟨rfl, -⟩ := List.cons_prefix_cons.1 hblank
      exact ha.1 hinside (by simp)

theorem toList_renderEntry (key : String) (list : List String) :
    (renderEntry Grammar.permissions key list).toList =
      key.toList ++ '=' :: '(' :: ((" ".intercalate list).toList ++ [')']) := by
  simp [renderEntry, Grammar.permissions]

theorem unbroken_list {list : List String}
    (haccepts : ∀ token ∈ list, Grammar.permissions.Accepts token)
    (hblanks : ∀ token ∈ list, BlanksQuoted token)
    (hpaired : ∀ token ∈ list.dropLast, QuotesPaired token) :
    Unbroken [',', ' '] false ((" ".intercalate list).toList ++ [')']) := by
  induction list with
  | nil => exact unbroken_of_not_mem (by simp)
  | cons first rest ih =>
    obtain ⟨hfirst, haccepts⟩ := List.forall_mem_cons.1 haccepts
    obtain ⟨hblank, hblanks⟩ := List.forall_mem_cons.1 hblanks
    have hunbroken := unbroken_comma_of_blank (unbroken_blank_iff_blanksQuoted.2 hblank)
    have hlast : first.toList.getLast? ≠ some ',' := by
      obtain ⟨c, hc, hne⟩ := getLast?_of_accepts hfirst
      simpa [hc] using hne
    cases rest with
    | nil =>
      rw [String.intercalate_singleton]
      exact unbroken_append hunbroken hlast (unbroken_of_not_mem (by simp))
    | cons next more =>
      rw [List.dropLast_cons_cons] at hpaired
      obtain ⟨hclosed, hpaired⟩ := List.forall_mem_cons.1 hpaired
      have hrest := ih haccepts hblanks hpaired
      rw [String.intercalate_cons_cons, String.toList_append, String.toList_append,
        List.append_assoc, List.append_assoc]
      -- A token ends with no comma, so the blank behind it makes no separator of entries.
      refine unbroken_append hunbroken hlast ?_
      rw [insideAfter_eq_false_iff.2 hclosed]
      change Unbroken [',', ' '] false (' ' :: _)
      exact ⟨fun _ => by simp, hrest⟩

theorem unbroken_renderEntry {key : String} (hkey : IsIdentifier key) {list : List String}
    (hlist : Unbroken [',', ' '] false ((" ".intercalate list).toList ++ [')'])) :
    Unbroken [',', ' '] false (renderEntry Grammar.permissions (dashify key) list).toList := by
  have hcomma : ',' ∉ (dashify key).toList := not_mem_dashify hkey (by decide) (by decide)
  have hquote : '"' ∉ (dashify key).toList := not_mem_dashify hkey (by decide) (by decide)
  rw [toList_renderEntry]
  refine unbroken_append (unbroken_of_not_mem hcomma) ?_ ?_
  · intro hlast
    exact hcomma (List.mem_of_getLast? hlast)
  · rw [insideAfter_of_not_mem hquote]
    exact ⟨fun _ => by simp, fun _ => by simp, hlist⟩

theorem insideAfter_renderEntry {key : String} (hkey : IsIdentifier key) (list : List String) :
    insideAfter false (renderEntry Grammar.permissions (dashify key) list).toList =
      insideAfter false (" ".intercalate list).toList := by
  have hquote : '"' ∉ (dashify key).toList := not_mem_dashify hkey (by decide) (by decide)
  rw [toList_renderEntry, insideAfter_append, insideAfter_of_not_mem hquote]
  simp [insideAfter, insideAfter_append]

/-- An entry reads back when its list does. -/
theorem entryReads_iff {text : List Char} {key : String} {read : List String} :
    EntryReads text key read ↔
      tokens (" ".intercalate read).toList = read ∧
        (renderEntry Grammar.permissions key read).toList = text := by
  rw [toList_renderEntry]
  constructor
  · rintro ⟨inner, rfl, rfl⟩
    rw [intercalate_tokens]
    exact ⟨rfl, rfl⟩
  · rintro ⟨hread, rfl⟩
    exact ⟨_, rfl, hread⟩

-- Unfolding it on the text of an entry would evaluate the text.
attribute [local irreducible] Unbroken

/-- Reading a compiled header back is two things: each list survives on its own, and so do the
entries. -/
theorem readsBack_iff_pieces {m : FeatureMap} {p : CompiledPolicy}
    (h : (compile .permissions m).outcome = .ok p) :
    ReadsBack m p.value ↔ (∀ e ∈ m.entries, tokens (" ".intercalate e.2).toList = e.2) ∧
      Pieces [',', ' '] false (m.entries.map fun e =>
        (renderEntry Grammar.permissions (dashify e.1) e.2).toList) := by
  obtain ⟨-, -, -, -, hvalue⟩ := compile_permissions_outcome_eq_ok_iff.1 h
  have hentries : entries p.value = splitOutside [',', ' '] false ([',', ' '].intercalate
      (m.entries.map fun e => (renderEntry Grammar.permissions (dashify e.1) e.2).toList)) := by
    rw [entries, hvalue, String.toList_intercalate, List.map_map]
    rfl
  have hreads : ReadsBack m p.value ↔
      (∀ e ∈ m.entries, tokens (" ".intercalate e.2).toList = e.2) ∧
        m.entries.map (fun e => (renderEntry Grammar.permissions (dashify e.1) e.2).toList) =
          entries p.value := by
    rw [← forall₂_and_eq_iff]
    simp only [ReadsBack, entryReads_iff]
    exact ⟨List.Forall₂.flip, List.Forall₂.flip⟩
  rw [hreads, hentries, eq_comm, splitOutside_intercalate_iff (by simp)]

/-- A compiled header reads back exactly when the strings of its tokens are closed in place. -/
theorem readsBack_iff {m : FeatureMap} {p : CompiledPolicy}
    (hkeys : ∀ e ∈ m.entries, IsIdentifier e.1) (h : (compile .permissions m).outcome = .ok p) :
    ReadsBack m p.value ↔ StringsClosed m := by
  obtain ⟨-, hne, -, hallowed, -⟩ := compile_permissions_outcome_eq_ok_iff.1 h
  have htokens : ∀ e ∈ m.entries, (tokens (" ".intercalate e.2).toList = e.2 ↔
      (∀ token ∈ e.2, BlanksQuoted token) ∧ ∀ token ∈ e.2.dropLast, QuotesPaired token) := by
    intro e he
    apply tokens_intercalate_iff
    intro token htoken
    exact ne_empty_of_accepts ((hallowed e he).accepts token htoken)
  rw [readsBack_iff_pieces h, pieces_false_iff, ← List.map_dropLast]
  simp only [List.forall_mem_map]
  constructor
  · rintro ⟨hread, -, -, hclosed⟩
    have hlist := fun e he => (htokens e he).1 (hread e he)
    refine ⟨fun e he => (hlist e he).1, fun e he => (hlist e he).2, fun e he => ?_⟩
    have hmem := List.mem_of_mem_dropLast he
    rw [← insideAfter_intercalate_iff (hlist e hmem).2, ← insideAfter_renderEntry (hkeys e hmem)]
    exact hclosed e he
  · intro hstrings
    refine ⟨fun e he => (htokens e he).2 ⟨hstrings.blanks e he, hstrings.before_token e he⟩,
      by simpa using hne, fun e he => ?_, fun e he => ?_⟩
    · exact unbroken_renderEntry (hkeys e he) (unbroken_list (hallowed e he).accepts
        (hstrings.blanks e he) (hstrings.before_token e he))
    · have hmem := List.mem_of_mem_dropLast he
      rw [insideAfter_renderEntry (hkeys e hmem),
        insideAfter_intercalate_iff (hstrings.before_token e hmem)]
      exact hstrings.before_entry e he

/-- To have the tokens is to have as many. -/
theorem ReadsBack.keepsStructure {m : FeatureMap} {value : String} (h : ReadsBack m value) :
    KeepsStructure m value := by
  apply h.imp
  intro text e hreads
  exact ⟨e.2, hreads, rfl⟩

/-- A policy in which another feature follows the one with the token. -/
def followed (token : String) : FeatureMap :=
  .ofList [("a", [token]), ("b", [])]

theorem entries_followed (token : String) :
    (followed token).entries = [("a", [token]), ("b", [])] := rfl

theorem isIdentifier_of_mem_followed {token : String} :
    ∀ e ∈ (followed token).entries, IsIdentifier e.1 := by
  have ha : IsIdentifier "a" := ⟨by decide, by simp⟩
  have hb : IsIdentifier "b" := ⟨by decide, by simp⟩
  simp [entries_followed, ha, hb]

theorem compile_followed {token : String} (h : Grammar.permissions.Accepts token) :
    (compile .permissions (followed token)).outcome =
      .ok ⟨.permissions, "a=(" ++ token ++ "), b=()"⟩ := by
  rw [compile_permissions_outcome_eq_ok_iff, entries_followed]
  refine ⟨rfl, by simp, ?_, ?_, ?_⟩
  · intro hempty
    simpa using congrArg String.toList hempty
  · intro e he
    rcases List.mem_cons.1 he with rfl | he
    · exact ⟨by simp, by simpa using h, by simp⟩
    · obtain rfl : e = ("b", []) := by simpa using he
      exact ⟨by simp, by simp, by simp⟩
  · have ha : dashChar 'a' = ['a'] := rfl
    have hb : dashChar 'b' = ['b'] := rfl
    apply String.toList_injective
    simp [toList_renderEntry, ha, hb]

/-- In this header the number of tokens is enough to know them. -/
theorem readsBack_followed {token : String}
    (h : KeepsStructure (followed token) ("a=(" ++ token ++ "), b=()")) :
    ReadsBack (followed token) ("a=(" ++ token ++ "), b=()") := by
  have hjoined := @intercalate_splitOutside [',', ' '] (by simp) false
    ("a=(" ++ token ++ "), b=()").toList
  unfold KeepsStructure entries at h
  unfold ReadsBack entries
  rw [entries_followed] at h ⊢
  generalize splitOutside [',', ' '] false ("a=(" ++ token ++ "), b=()").toList = texts
    at hjoined h ⊢
  obtain ⟨first, _, ⟨list, hfirst, hone⟩, hrest, rfl⟩ := List.forall₂_cons_right_iff.1 h
  obtain ⟨second, _, ⟨list', hsecond, hnone⟩, hnil, rfl⟩ := List.forall₂_cons_right_iff.1 hrest
  obtain rfl := List.forall₂_nil_right_iff.1 hnil
  obtain ⟨read, rfl⟩ := List.length_eq_one_iff.1 hone
  obtain rfl : list' = [] := List.length_eq_zero_iff.1 hnone
  -- The keys around it leave the token no other place to end.
  have htoken : read.toList = token.toList := by
    have ha : dashChar 'a' = ['a'] := rfl
    have hb : dashChar 'b' = ['b'] := rfl
    rw [← (entryReads_iff.1 hfirst).2, ← (entryReads_iff.1 hsecond).2] at hjoined
    simpa [toList_renderEntry, ha, hb, List.intercalate_cons_cons] using hjoined
  obtain rfl : read = token := String.toList_inj.1 htoken
  exact .cons hfirst (.cons hsecond .nil)

/-- A token that is open or has a bare blank loses the structure of this header. -/
theorem not_keepsStructure_followed {token : String} (h : Grammar.permissions.Accepts token)
    (hopen : ¬ (BlanksQuoted token ∧ QuotesPaired token)) :
    ¬ KeepsStructure (followed token) ("a=(" ++ token ++ "), b=()") := by
  intro hkeeps
  have hstrings := (readsBack_iff isIdentifier_of_mem_followed (compile_followed h)).1
    (readsBack_followed hkeeps)
  exact hopen ⟨hstrings.blanks ("a", [token]) (by simp [entries_followed]) token (by simp),
    hstrings.before_entry ("a", [token]) (by simp [entries_followed]) token (by simp)⟩

/-- In a policy that compiles the tokens are accepted ones, and those that close their strings each
on its own do so together. -/
theorem StringsClosed.of_compile {m : FeatureMap} {p : CompiledPolicy}
    (h : (compile .permissions m).outcome = .ok p)
    (hclosed : ∀ e ∈ m.entries, ∀ token ∈ e.2, Grammar.permissions.Accepts token →
      BlanksQuoted token ∧ QuotesPaired token) : StringsClosed m := by
  obtain ⟨-, -, -, hallowed, -⟩ := compile_permissions_outcome_eq_ok_iff.1 h
  have htokens : ∀ e ∈ m.entries, ∀ token ∈ e.2, BlanksQuoted token ∧ QuotesPaired token := by
    intro e he token htoken
    exact hclosed e he token htoken ((hallowed e he).accepts token htoken)
  constructor
  · intro e he token htoken
    exact (htokens e he token htoken).1
  · intro e he token htoken
    exact (htokens e he token (List.mem_of_mem_dropLast htoken)).2
  · intro e he token htoken
    exact (htokens e (List.mem_of_mem_dropLast he) token htoken).2

theorem harmless_iff {kind : String → Prop} :
    Harmless kind ↔ ∀ token, kind token → Grammar.permissions.Accepts token →
      BlanksQuoted token ∧ QuotesPaired token := by
  constructor
  · intro hharmless token hkind haccepts
    by_contra hopen
    apply not_keepsStructure_followed haccepts hopen
    apply hharmless _ _ _ (compile_followed haccepts)
    intro e he
    refine ⟨isIdentifier_of_mem_followed e he, ?_⟩
    rw [entries_followed] at he
    rcases List.mem_cons.1 he with rfl | he
    · simpa using hkind
    · obtain rfl : e = ("b", []) := by simpa using he
      simp
  · intro hclosed m p hm h
    have hstrings : StringsClosed m := by
      apply StringsClosed.of_compile h
      intro e he token htoken
      exact hclosed token ((hm e he).2 token htoken)
    have hkeys : ∀ e ∈ m.entries, IsIdentifier e.1 := fun e he => (hm e he).1
    exact ((readsBack_iff hkeys h).2 hstrings).keepsStructure

/-- Tokens of a kind keep the structure of every header exactly when those that are accepted close
their strings and have blanks inside them only. A single header reads back as its policy exactly
when the strings of its tokens are closed in place, and then it has the structure of the policy; the
structure alone is no exact test there, since what one token adds another can swallow. -/
theorem header_structure_iff_strings_closed (kind : String → Prop) :
    (Harmless kind ↔ ∀ token, kind token → Grammar.permissions.Accepts token →
      BlanksQuoted token ∧ QuotesPaired token) ∧
    ∀ m p, (∀ e ∈ m.entries, IsIdentifier e.1) → (compile .permissions m).outcome = .ok p →
      (ReadsBack m p.value ↔ StringsClosed m) ∧ (StringsClosed m → KeepsStructure m p.value) := by
  refine ⟨harmless_iff, fun m p hkeys h => ?_⟩
  have hreads := readsBack_iff hkeys h
  exact ⟨hreads, fun hstrings => (hreads.2 hstrings).keepsStructure⟩

/-- A blank inside a string separates nothing. -/
theorem header_structure_of_quoted_blank :
    (compile .permissions (.ofList
        [("geolocation", ["self", "\"https://a.example b\""]), ("camera", [])])).outcome =
      .ok ⟨.permissions, "geolocation=(self \"https://a.example b\"), camera=()"⟩ ∧
    ReadsBack (.ofList [("geolocation", ["self", "\"https://a.example b\""]), ("camera", [])])
      "geolocation=(self \"https://a.example b\"), camera=()" := by
  have hcompiled : (compile .permissions (.ofList
      [("geolocation", ["self", "\"https://a.example b\""]), ("camera", [])])).outcome =
      .ok ⟨.permissions, "geolocation=(self \"https://a.example b\"), camera=()"⟩ := by
    decide +kernel
  have hentries : (FeatureMap.ofList
      [("geolocation", ["self", "\"https://a.example b\""]), ("camera", [])]).entries =
      [("geolocation", ["self", "\"https://a.example b\""]), ("camera", [])] := rfl
  have hkeys : IsIdentifier "geolocation" ∧ IsIdentifier "camera" :=
    ⟨⟨by decide, by simp⟩, ⟨by decide, by simp⟩⟩
  have hself : BlanksQuoted "self" ∧ QuotesPaired "self" := by
    rw [← unbroken_blank_iff_blanksQuoted, ← insideAfter_eq_false_iff]
    simp [Unbroken, insideAfter]
  have horigin : BlanksQuoted "\"https://a.example b\"" ∧
      QuotesPaired "\"https://a.example b\"" := by
    rw [← unbroken_blank_iff_blanksQuoted, ← insideAfter_eq_false_iff]
    simp [Unbroken, insideAfter]
  have hclosed : StringsClosed (.ofList
      [("geolocation", ["self", "\"https://a.example b\""]), ("camera", [])]) := by
    constructor <;> rw [hentries] <;> simp [hself, horigin]
  obtain ⟨hreads, -⟩ := (header_structure_iff_strings_closed fun _ => True).2 _ _
    (by rw [hentries]; simp [hkeys]) hcompiled
  exact ⟨hcompiled, hreads.2 hclosed⟩

/-- One token of one feature is read as three features. -/
theorem header_token_read_as_features :
    (compile .permissions (.ofList [("geolocation", ["\"\"), camera=(*), usb=(\"\""])])).outcome =
        .ok ⟨.permissions, "geolocation=(\"\"), camera=(*), usb=(\"\")"⟩ ∧
      ¬ Harmless fun _ => True := by
  have hcompiled : (compile .permissions
      (.ofList [("geolocation", ["\"\"), camera=(*), usb=(\"\""])])).outcome =
      .ok ⟨.permissions, "geolocation=(\"\"), camera=(*), usb=(\"\")"⟩ := by
    decide +kernel
  have hkeys : ∀ e ∈ (FeatureMap.ofList
      [("geolocation", ["\"\"), camera=(*), usb=(\"\""])]).entries,
      IsIdentifier e.1 ∧ ∀ token ∈ e.2, True := by
    intro e he
    obtain rfl := List.mem_singleton.1 he
    exact ⟨⟨by decide, by simp⟩, by simp⟩
  have hread : (entries "geolocation=(\"\"), camera=(*), usb=(\"\")").length = 3 := by
    cbv
  refine ⟨hcompiled, fun hharmless => ?_⟩
  have hone := (hharmless _ _ hkeys hcompiled).length_eq
  rw [hread] at hone
  cases hone

end BrowserPolicy.Header.Structured
