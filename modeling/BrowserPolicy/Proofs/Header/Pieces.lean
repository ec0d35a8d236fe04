import BrowserPolicy.Header.Reading
import Mathlib

/-!
Texts that are pieces with separators between them. Splitting outside strings undoes joining exactly
for the lists of pieces that `Pieces` describes: no separator outside the strings of a piece, and no
string left open before the last piece ends.
-/

namespace BrowserPolicy.Header

theorem mem_of_mem_intercalate {separator : List Char} {c : Char} {pieces : List (List Char)}
    (h : c ∈ separator.intercalate pieces) : c ∈ separator ∨ ∃ piece ∈ pieces, c ∈ piece := by
  induction pieces with
  | nil => simp at h
  | cons first rest ih =>
    by_cases hne : rest = []
    · subst hne
      exact .inr ⟨first, by simp, by simpa using h⟩
    · rw [List.intercalate_cons_of_ne_nil hne, List.mem_append, List.mem_append] at h
      rcases h with (h | h) | h
      · exact .inr ⟨first, by simp, h⟩
      · exact .inl h
      · rcases ih h with h | ⟨piece, hpiece, hc⟩
        · exact .inl h
        · exact .inr ⟨piece, List.mem_cons_of_mem _ hpiece, hc⟩

/-- Splitting at a character undoes joining with it when no text has the character. -/
theorem splitOn_toList_intercalate {separator : String} {c : Char} (hc : separator.toList = [c])
    {texts : List String} (hne : texts ≠ []) (h : ∀ text ∈ texts, c ∉ text.toList) :
    (separator.intercalate texts).toList.splitOn c = texts.map String.toList := by
  rw [String.toList_intercalate, hc]
  exact List.splitOn_intercalate c (by simpa using h) (by simpa using hne)

theorem prefix_intercalate (separator text : List Char) (rest : List (List Char)) :
    text <+: separator.intercalate (text :: rest) := by
  cases rest <;> simp [List.intercalate_cons_cons]

theorem intercalate_eq_empty_iff {separator : String} {texts : List String} :
    separator.intercalate texts = "" ↔
      (∀ text ∈ texts, text = "") ∧ (texts.length ≤ 1 ∨ separator = "") := by
  induction texts with
  | nil => simp
  | cons first rest ih =>
    by_cases hrest : rest = []
    · simp [hrest]
    · have hlength : ¬ rest.length + 1 ≤ 1 := by
        have := List.length_pos_iff.2 hrest
        omega
      rw [String.intercalate_cons_of_ne_nil hrest, String.append_eq_empty_iff,
        String.append_eq_empty_iff, ih, List.forall_mem_cons, List.length_cons]
      -- A separator stands behind the first text, so it must be empty whatever follows.
      tauto

theorem intercalate_cons_ne_empty {separator first : String} (h : first ≠ "")
    (rest : List String) : separator.intercalate (first :: rest) ≠ "" := by
  intro hempty
  obtain ⟨hall, -⟩ := intercalate_eq_empty_iff.1 hempty
  exact h (hall first (List.mem_cons_self ..))

namespace Structured

def insideAfter (inside : Bool) : List Char → Bool
  | [] => inside
  | c :: rest => insideAfter (inside != (c == '"')) rest

/-- The separator stands nowhere in the text outside strings. -/
def Unbroken (separator : List Char) (inside : Bool) : List Char → Prop
  | [] => True
  | c :: rest =>
    (inside = false → ¬ separator <+: c :: rest) ∧ Unbroken separator (inside != (c == '"')) rest

/-- The texts are what splitting can give: none holds a separator outside strings, and a string can
stay open at the end of the last one only. -/
inductive Pieces (separator : List Char) : Bool → List (List Char) → Prop where
  | last {inside : Bool} {text : List Char} (unbroken : Unbroken separator inside text) :
      Pieces separator inside [text]
  | more {inside : Bool} {text : List Char} {rest : List (List Char)}
      (unbroken : Unbroken separator inside text) (closed : insideAfter inside text = false)
      (pieces : Pieces separator false rest) : Pieces separator inside (text :: rest)

theorem Pieces.ne_nil {separator : List Char} {inside : Bool} {texts : List (List Char)}
    (h : Pieces separator inside texts) : texts ≠ [] := by
  cases h <;> simp

/-- Pieces that begin outside strings: only the last may leave one open, so each can be looked at
alone. -/
theorem pieces_false_iff {separator : List Char} {texts : List (List Char)} :
    Pieces separator false texts ↔
      texts ≠ [] ∧ (∀ text ∈ texts, Unbroken separator false text) ∧
        ∀ text ∈ texts.dropLast, insideAfter false text = false := by
  induction texts with
  | nil => simpa using fun h : Pieces separator false [] => h.ne_nil rfl
  | cons first rest ih =>
    cases rest with
    | nil =>
      constructor
      · intro h
        cases h with
        | last unbroken => simpa using unbroken
        | more _ _ pieces => exact absurd rfl pieces.ne_nil
      · intro h
        exact .last (h.2.1 first (List.mem_cons_self ..))
    | cons next more =>
      rw [List.dropLast_cons_cons]
      constructor
      · intro h
        cases h with
        | more unbroken closed pieces =>
          obtain ⟨-, hunbroken, hclosed⟩ := ih.1 pieces
          exact ⟨by simp, List.forall_mem_cons.2 ⟨unbroken, hunbroken⟩,
            List.forall_mem_cons.2 ⟨closed, hclosed⟩⟩
      · rintro ⟨-, hunbroken, hclosed⟩
        obtain ⟨unbroken, hunbroken⟩ := List.forall_mem_cons.1 hunbroken
        obtain ⟨closed, hclosed⟩ := List.forall_mem_cons.1 hclosed
        exact .more unbroken closed (ih.2 ⟨by simp, hunbroken, hclosed⟩)

theorem insideAfter_append (inside : Bool) (a b : List Char) :
    insideAfter inside (a ++ b) = insideAfter (insideAfter inside a) b := by
  induction a generalizing inside with
  | nil => rfl
  | cons c rest ih => exact ih _

/-- Each double quote opens or closes a string, so only whether their number is odd counts. -/
theorem insideAfter_eq (inside : Bool) (text : List Char) :
    insideAfter inside text = (inside != decide (Odd (text.count '"'))) := by
  induction text generalizing inside with
  | nil => simp [insideAfter]
  | cons c rest ih =>
    rw [insideAfter, ih, List.count_cons]
    by_cases hc : c = '"'
    · subst hc
      by_cases hodd : Odd (rest.count '"') <;> cases inside <;> simp [hodd, Nat.odd_add_one]
    · have hbeq : (c == '"') = false := by simpa using hc
      simp [hbeq]

theorem insideAfter_of_not_mem {inside : Bool} {text : List Char} (h : '"' ∉ text) :
    insideAfter inside text = inside := by
  simp [insideAfter_eq, List.count_eq_zero_of_not_mem h]

theorem splitOutside_of_isPrefix {separator rest : List Char} (hne : separator ≠ []) :
    splitOutside separator false (separator ++ rest) = [] :: splitOutside separator false rest := by
  cases separator with
  | nil => exact absurd rfl hne
  | cons x r => simp [splitOutside, List.isPrefixOf_iff_prefix]

theorem splitOutside_cons {separator : List Char} {inside : Bool} {c : Char} {rest : List Char}
    (h : inside = false → ¬ separator <+: c :: rest) :
    splitOutside separator inside (c :: rest) =
      consFirst c (splitOutside separator (inside != (c == '"')) rest) := by
  rw [splitOutside, if_neg]
  cases inside <;> simp_all [List.isPrefixOf_iff_prefix]

theorem consFirst_ne_nil (c : Char) (pieces : List (List Char)) : consFirst c pieces ≠ [] := by
  cases pieces <;> simp [consFirst]

theorem splitOutside_ne_nil (separator : List Char) (inside : Bool) (text : List Char) :
    splitOutside separator inside text ≠ [] := by
  cases text with
  | nil => simp [splitOutside]
  | cons c rest =>
    rw [splitOutside]
    split
    · simp
    · exact consFirst_ne_nil _ _

theorem intercalate_consFirst (separator : List Char) (c : Char) {pieces : List (List Char)}
    (hne : pieces ≠ []) :
    separator.intercalate (consFirst c pieces) = c :: separator.intercalate pieces := by
  match pieces, hne with
  | [first], _ => rfl
  | first :: next :: more, _ => simp [consFirst]

/-- Joining undoes splitting, whatever the text. -/
theorem intercalate_splitOutside {separator : List Char} (hne : separator ≠ []) (inside : Bool)
    (text : List Char) : separator.intercalate (splitOutside separator inside text) = text := by
  fun_induction splitOutside separator inside text with
  | case1 => rfl
  | case2 inside c rest h ih =>
    obtain ⟨more, hmore⟩ := List.isPrefixOf_iff_prefix.1 (Bool.and_eq_true_iff.1 h).2
    have hdrop : rest.drop (separator.length - 1) = more := by
      have hlength : separator.length - 1 + 1 = separator.length := by
        have := List.length_pos_iff.2 hne
        omega
      rw [← List.drop_succ_cons (a := c), hlength, ← hmore, List.drop_left]
    rw [List.intercalate_cons_of_ne_nil (splitOutside_ne_nil _ _ _), ih, hdrop, ← hmore]
    rfl
  | case3 inside c rest h ih => rw [intercalate_consFirst _ _ (splitOutside_ne_nil _ _ _), ih]

/-- One more character in front keeps the pieces what they are, unless it makes a separator. -/
theorem Pieces.consFirst {separator : List Char} {inside : Bool} {c : Char}
    {pieces : List (List Char)} (h : Pieces separator (inside != (c == '"')) pieces)
    (hstep : inside = false → ¬ separator <+: c :: separator.intercalate pieces) :
    Pieces separator inside (consFirst c pieces) := by
  have hfirst : ∀ text rest, pieces = text :: rest → inside = false →
      ¬ separator <+: c :: text := by
    rintro text rest rfl hinside hstart
    exact hstep hinside
      (hstart.trans (List.cons_prefix_cons.2 ⟨rfl, prefix_intercalate separator text rest⟩))
  cases h with
  | last unbroken => exact .last ⟨hfirst _ _ rfl, unbroken⟩
  | more unbroken closed rest => exact .more ⟨hfirst _ _ rfl, unbroken⟩ closed rest

/-- Splitting gives such pieces only. -/
theorem pieces_splitOutside {separator : List Char} (hne : separator ≠ []) (inside : Bool)
    (text : List Char) : Pieces separator inside (splitOutside separator inside text) := by
  fun_induction splitOutside separator inside text with
  | case1 => exact .last trivial
  | case2 inside c rest h ih =>
    have hinside : inside = false := by simpa using (Bool.and_eq_true_iff.1 h).1
    exact .more trivial hinside ih
  | case3 inside c rest h ih =>
    -- A separator at the head of the first piece would be one at the head of the text.
    apply ih.consFirst
    intro hinside hstart
    rw [intercalate_splitOutside hne] at hstart
    exact h (by simpa [hinside, List.isPrefixOf_iff_prefix] using hstart)

/-- A separator whose first character does not come again in it cannot begin in a text and end
behind it. -/
theorem not_isPrefix_append {x : Char} {r a b : List Char} (hx : x ∉ r) (ha : a ≠ [])
    (h : ¬ x :: r <+: a) : ¬ x :: r <+: a ++ (x :: r ++ b) := by
  -- A separator that begins in `a` and ends behind it would overlap the one that follows `a`.
  intro hstart
  rcases List.prefix_or_prefix_of_prefix hstart (List.prefix_append a _) with hlong | hshort
  · exact h hlong
  · obtain ⟨t, ht⟩ := hshort
    rw [← ht] at hstart
    have hrest : t <+: x :: r ++ b := by
      have := (List.prefix_append_right_inj a).1 hstart
      rwa [ht] at this
    cases a with
    | nil => exact ha rfl
    | cons y a =>
      obtain ⟨rfl, rfl⟩ := List.cons.inj ht
      cases t with
      | nil => exact h (by simp)
      | cons z t =>
        obtain ⟨rfl, -⟩ := List.cons_prefix_cons.1 hrest
        exact hx (by simp)

/-- A first piece that closes its strings is split off whole. -/
theorem splitOutside_append {x : Char} {r a b : List Char} (hx : x ∉ r) {inside : Bool}
    (hunbroken : Unbroken (x :: r) inside a) (hclosed : insideAfter inside a = false) :
    splitOutside (x :: r) inside (a ++ (x :: r ++ b)) =
      a :: splitOutside (x :: r) false b := by
  induction a generalizing inside with
  | nil =>
    obtain rfl : inside = false := hclosed
    exact splitOutside_of_isPrefix (by simp)
  | cons c rest ih =>
    have hstep : inside = false → ¬ x :: r <+: c :: (rest ++ (x :: r ++ b)) :=
      fun hinside => not_isPrefix_append hx (by simp) (hunbroken.1 hinside)
    rw [List.cons_append, splitOutside_cons hstep, ih hunbroken.2 hclosed]
    rfl

theorem splitOutside_of_unbroken {separator : List Char} {inside : Bool} {text : List Char}
    (h : Unbroken separator inside text) : splitOutside separator inside text = [text] := by
  induction text generalizing inside with
  | nil => simp [splitOutside]
  | cons c rest ih =>
    rw [splitOutside_cons h.1, ih h.2]
    rfl

/-- Splitting gives back what was joined exactly when it is made of such pieces. -/
theorem splitOutside_intercalate_iff {x : Char} {r : List Char} (hx : x ∉ r) {inside : Bool}
    {texts : List (List Char)} :
    splitOutside (x :: r) inside ((x :: r).intercalate texts) = texts ↔
      Pieces (x :: r) inside texts := by
  constructor
  · intro h
    rw [← h]
    exact pieces_splitOutside (by simp) _ _
  · intro h
    induction h with
    | last unbroken =>
      rw [List.intercalate_singleton]
      exact splitOutside_of_unbroken unbroken
    | more unbroken closed pieces ih =>
      rw [List.intercalate_cons_of_ne_nil pieces.ne_nil, List.append_assoc,
        splitOutside_append hx unbroken closed, ih]

end Structured

end BrowserPolicy.Header
