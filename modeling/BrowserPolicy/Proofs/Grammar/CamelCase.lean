import BrowserPolicy.Proofs.Grammar.Spelling

/-!
Keys in camel case. `undash` joins each dash that stands before a lower-case letter to the letter
and keeps the rest. A key with nothing to join reads as itself, so no two of these keys share a
spelling in the header; every other key shares it with the key that it reads as.
-/

namespace BrowserPolicy.Grammar

def Apart (c d : Char) : Prop := ¬ (c = '-' ∧ d.isLower = true)

/-- No dash of the key stands directly before a lower-case ASCII letter. -/
def Undashed (key : String) : Prop := key.toList.IsChain Apart

def KeyVocabulary.Collide (vocabulary : KeyVocabulary) (a b : String) : Prop :=
  ∃ dashed, vocabulary.normalize a = .ok dashed ∧ vocabulary.normalize b = .ok dashed

theorem apart_of_ne {c : Char} (h : c ≠ '-') (d : Char) : Apart c d := by
  rintro ⟨rfl, -⟩
  exact h rfl

theorem apart_of_not_isLower {d : Char} (h : ¬ d.isLower = true) (c : Char) : Apart c d := by
  rintro ⟨-, hd⟩
  exact h hd

theorem undashChars_cons_of_apart {c d : Char} (h : Apart c d) (rest : List Char) :
    undashChars (c :: d :: rest) = c :: undashChars (d :: rest) := by
  rw [undashChars, if_neg h]

theorem undashChars_append_dash (before : List Char) {d : Char} (hd : d.isLower = true)
    (after : List Char) :
    undashChars (before ++ '-' :: d :: after) =
      undashChars before ++ d.toUpper :: undashChars after := by
  fun_induction undashChars before with
  | case1 => exact undashChars_dash_cons hd after
  | case2 c =>
    -- Even when this character is a dash, what follows it is the next dash and no letter.
    have hdash : Apart c '-' := apart_of_not_isLower (by decide) c
    rw [List.cons_append, List.nil_append, undashChars_cons_of_apart hdash,
      undashChars_dash_cons hd, List.cons_append, List.nil_append]
  | case3 c e rest hjoined ih =>
    obtain ⟨rfl, he⟩ := hjoined
    rw [List.cons_append, List.cons_append, undashChars_dash_cons he, ih, List.cons_append]
  | case4 c e rest hapart ih =>
    rw [List.cons_append, List.cons_append, undashChars_cons_of_apart hapart,
      ← List.cons_append, ih, List.cons_append]

/-- Each dash before a lower-case letter is joined to it. -/
theorem undash_append_dash (before after : String) {d : Char} (hd : d.isLower = true) :
    undash (before ++ String.ofList ['-', d] ++ after) =
      undash before ++ String.singleton d.toUpper ++ undash after := by
  apply String.toList_injective
  simpa using undashChars_append_dash before.toList hd after.toList

-- A dash before a dash, before a capital or at the end joins to nothing.
example : undash "-ab--c-D-" = "Ab-C-D-" := by decide +kernel

/-- The reading begins with the first character of the key or with an upper-case letter. -/
theorem apart_head_undashChars {c d : Char} (h : Apart c d) (rest : List Char) :
    ∀ e ∈ (undashChars (d :: rest)).head?, Apart c e := by
  intro e he
  cases rest with
  | nil =>
    obtain rfl : d = e := by simpa [undashChars] using he
    exact h
  | cons f rest =>
    by_cases hjoined : d = '-' ∧ f.isLower = true
    · obtain ⟨rfl, hf⟩ := hjoined
      rw [undashChars_dash_cons hf] at he
      obtain rfl : f.toUpper = e := by simpa using he
      have hlower : ¬ f.toUpper.isLower = true :=
        fun hl => not_isUpper_of_isLower hl (isUpper_toUpper hf)
      exact apart_of_not_isLower hlower c
    · rw [undashChars_cons_of_apart hjoined] at he
      obtain rfl : d = e := by simpa using he
      exact h

/-- Nothing is left to join in what has been joined. -/
theorem isChain_undashChars (s : List Char) : (undashChars s).IsChain Apart := by
  fun_induction undashChars s with
  | case1 => exact .nil
  | case2 c => exact .singleton c
  | case3 c d rest hjoined ih =>
    have hne : d.toUpper ≠ '-' := by
      intro heq
      have hupper := isUpper_toUpper hjoined.2
      rw [heq] at hupper
      cases hupper
    rw [List.isChain_cons]
    exact ⟨fun e _ => apart_of_ne hne e, ih⟩
  | case4 c d rest hapart ih =>
    rw [List.isChain_cons]
    exact ⟨apart_head_undashChars hapart rest, ih⟩

/-- Without a dash to join all characters stay. -/
theorem undashChars_of_isChain {s : List Char} (h : s.IsChain Apart) : undashChars s = s := by
  induction h with
  | nil => rfl
  | singleton c => rfl
  | cons_cons hapart _ ih => rw [undashChars_cons_of_apart hapart, ih]

theorem undash_eq_self_iff {key : String} : undash key = key ↔ Undashed key := by
  constructor
  · intro h
    have hchain := isChain_undashChars key.toList
    rwa [← toList_undash, h] at hchain
  · intro h
    rw [undash, undashChars_of_isChain h, String.ofList_toList]

theorem undashed_of_not_mem {key : String} (h : '-' ∉ key.toList) : Undashed key := by
  apply List.isChain_iff_forall_rel_of_append_cons_cons.2
  intro c d before after hkey
  apply apart_of_ne
  rintro rfl
  exact h (by simp [hkey])

theorem undash_of_not_mem {key : String} (h : '-' ∉ key.toList) : undash key = key :=
  undash_eq_self_iff.2 (undashed_of_not_mem h)

/-- Of the keys that share a spelling, only their reading has no dash to join. -/
theorem Undashed.dashify_eq_iff {camel : String} (h : Undashed camel) {key : String} :
    dashify camel = dashify key ↔ camel = undash key := by
  rw [dashify_eq_dashify_iff, undash_eq_self_iff.2 h]

/-- Keys without a dash to join never share a spelling. -/
theorem injOn_dashify_undashed : Set.InjOn dashify {key | Undashed key} := by
  intro a ha b hb h
  calc
    a = undash b := ha.dashify_eq_iff.1 h
    _ = b := undash_eq_self_iff.2 hb

theorem KeyVocabulary.unrestricted_collide_iff {a b : String} :
    unrestricted.Collide a b ↔ dashify a = dashify b := by
  simp [Collide, normalize_eq_ok_iff, spells_unrestricted_iff]

/-- Reading a key in camel case joins its dashes to the lower-case letters behind them, and keeps
exactly the keys that have no such dash. Dashing does not change what a key reads as, nor reading how
it is spelled, so two keys of the unrestricted vocabulary collide exactly when they read alike, and
keys without dashes never do. -/
theorem keys_collide_iff_read_alike :
    (∀ (before after : String) (d : Char), d.isLower = true →
      undash (before ++ String.ofList ['-', d] ++ after) =
        undash before ++ String.singleton d.toUpper ++ undash after) ∧
    (∀ key, undash key = key ↔ Undashed key) ∧
    (∀ key, undash (dashify key) = undash key ∧ dashify (undash key) = dashify key) ∧
    (∀ a b, (KeyVocabulary.unrestricted.Collide a b ↔ dashify a = dashify b) ∧
      (dashify a = dashify b ↔ undash a = undash b)) ∧
    Set.InjOn dashify {key | '-' ∉ key.toList} := by
  refine ⟨?_, fun _ => undash_eq_self_iff, ?_, ?_, ?_⟩
  · intro before after d hd
    exact undash_append_dash before after hd
  · intro key
    exact ⟨undash_dashify key, dashify_undash key⟩
  · intro a b
    exact ⟨KeyVocabulary.unrestricted_collide_iff, dashify_eq_dashify_iff⟩
  · apply injOn_dashify_undashed.mono
    intro key hkey
    exact undashed_of_not_mem hkey

theorem capital_behind_dash_collides_with_two_dashes :
    'b'.isLower = true ∧ undash ("a-" ++ String.ofList ['-', 'b'] ++ "") = "a-B" ∧
    KeyVocabulary.unrestricted.Collide "a-B" "a--b" ∧
    '-' ∉ "aB".toList ∧ '-' ∉ "AB".toList ∧ dashify "aB" ≠ dashify "AB" := by
  obtain ⟨hjoin, -, -, hcollide, hinjOn⟩ := keys_collide_iff_read_alike
  have hb : 'b'.isLower = true := by decide
  have haB : '-' ∉ "aB".toList := by decide
  have hAB : '-' ∉ "AB".toList := by decide
  refine ⟨hb, ?_, ?_, haB, hAB, ?_⟩
  · rw [hjoin "a-" "" 'b' hb]
    decide +kernel
  · obtain ⟨hspelling, hreading⟩ := hcollide "a-B" "a--b"
    exact hspelling.2 (hreading.2 (by decide +kernel))
  · intro heq
    exact absurd (hinjOn haB hAB heq) (by decide)

end BrowserPolicy.Grammar
