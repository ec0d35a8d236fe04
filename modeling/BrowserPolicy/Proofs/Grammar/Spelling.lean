import BrowserPolicy.Grammar.Basic
import Mathlib

namespace BrowserPolicy.Grammar

inductive KeyVocabulary.Spells : KeyVocabulary → String → String → Prop where
  | unrestricted (key : String) : Spells .unrestricted key (dashify key)
  | listed {key dashed : String} (before after : List (String × String))
      (first : ∀ row ∈ before, row.1 ≠ key) :
      Spells (.listed (before ++ (key, dashed) :: after)) key dashed

theorem KeyVocabulary.normalize_eq_ok_iff {vocabulary : KeyVocabulary} {key dashed : String} :
    vocabulary.normalize key = .ok dashed ↔ vocabulary.Spells key dashed := by
  have hkey : vocabulary.normalize key = .ok dashed ↔ vocabulary.headerKey? key = some dashed := by
    unfold normalize
    split <;> simp_all
  rw [hkey]
  constructor
  · intro h
    cases vocabulary with
    | unrestricted =>
      cases h
      exact .unrestricted key
    | listed table =>
      obtain ⟨row, hrow, rfl⟩ := Option.map_eq_some_iff.1 h
      obtain ⟨hname, before, after, rfl, hfirst⟩ := List.find?_eq_some_iff_append.1 hrow
      obtain rfl : row.1 = key := by simpa using hname
      exact .listed before after fun r hr => by simpa using hfirst r hr
  · intro h
    cases h with
    | unrestricted => rfl
    | listed before after first =>
      have hnone : before.find? (fun row => row.1 == key) = none := by simpa using first
      simp [headerKey?, List.find?_append, hnone]

theorem KeyVocabulary.normalize_eq_error_iff {vocabulary : KeyVocabulary} {key : String}
    {error : PolicyError} :
    vocabulary.normalize key = .error error ↔
      (∀ dashed, ¬ vocabulary.Spells key dashed) ∧ error = .unsupportedFeature key := by
  simp only [← normalize_eq_ok_iff]
  unfold normalize
  cases vocabulary.headerKey? key <;> simp [eq_comm]

theorem KeyVocabulary.spells_unrestricted_iff {key dashed : String} :
    unrestricted.Spells key dashed ↔ dashed = dashify key := by
  constructor
  · intro h
    cases h
    rfl
  · rintro rfl
    exact .unrestricted key

theorem KeyVocabulary.mem_of_spells {table : List (String × String)} {key dashed : String}
    (h : (listed table).Spells key dashed) : (key, dashed) ∈ table := by
  cases h
  simp

/-- In a table without repeated names every row counts. -/
theorem KeyVocabulary.spells_of_mem {table : List (String × String)}
    (hnames : (table.map Prod.fst).Nodup) {key dashed : String} (h : (key, dashed) ∈ table) :
    (listed table).Spells key dashed := by
  obtain ⟨before, after, rfl⟩ := List.append_of_mem h
  apply Spells.listed before after
  intro row hrow heq
  rw [List.map_append, List.nodup_append] at hnames
  obtain ⟨-, -, hdisjoint⟩ := hnames
  exact hdisjoint row.1 (List.mem_map_of_mem hrow) key (by simp) heq

theorem dashChar_of_isUpper {c : Char} (h : c.isUpper = true) : dashChar c = ['-', c.toLower] := by
  simp [dashChar, h]

theorem dashChar_of_not_isUpper {c : Char} (h : ¬ c.isUpper = true) : dashChar c = [c] := by
  simp [dashChar, h]

theorem toNat_of_isAlpha {c : Char} (h : c.isAlpha = true) : 65 ≤ c.toNat ∧ c.toNat ≤ 122 := by
  simp only [Char.isAlpha, Char.isUpper, Char.isLower, Bool.or_eq_true, Bool.and_eq_true,
    decide_eq_true_eq, ge_iff_le, UInt32.le_iff_toNat_le] at h
  have hA : 'A'.val.toNat = 65 := rfl
  have hZ : 'Z'.val.toNat = 90 := rfl
  have ha : 'a'.val.toNat = 97 := rfl
  have hz : 'z'.val.toNat = 122 := rfl
  have hc : c.toNat = c.val.toNat := rfl
  omega

/-- No character is lost in dashing. -/
theorem dashify_eq_empty_iff {key : String} : dashify key = "" ↔ key = "" := by
  have hchar (c : Char) : dashChar c ≠ [] := by
    unfold dashChar
    split <;> simp
  rw [← String.toList_eq_nil_iff, ← String.toList_eq_nil_iff, toList_dashify,
    List.flatMap_eq_nil_iff, List.eq_nil_iff_forall_not_mem]
  simp [hchar]

/-- Of what is neither the dash nor a letter, the dashed spelling of a key has what the key has. -/
theorem exists_mem_dashify_iff {P : Char → Prop} (hdash : ¬ P '-')
    (hletter : ∀ c, c.isAlpha = true → ¬ P c) {key : String} :
    (∃ c ∈ (dashify key).toList, P c) ↔ ∃ c ∈ key.toList, P c := by
  have hchar (c : Char) : (∃ d ∈ dashChar c, P d) ↔ P c := by
    by_cases hupper : c.isUpper = true
    · have hupper' : c.isAlpha = true := by simp [Char.isAlpha, hupper]
      have hlower : c.toLower.isAlpha = true := by simpa using hupper'
      rw [dashChar_of_isUpper hupper]
      simp [hdash, hletter c hupper', hletter c.toLower hlower]
    · rw [dashChar_of_not_isUpper hupper]
      simp
  rw [toList_dashify]
  simp only [List.mem_flatMap]
  constructor
  · intro h
    obtain ⟨d, ⟨c, hc, hd⟩, hP⟩ := h
    exact ⟨c, hc, (hchar c).1 ⟨d, hd, hP⟩⟩
  · intro h
    obtain ⟨c, hc, hP⟩ := h
    obtain ⟨d, hd, hP⟩ := (hchar c).2 hP
    exact ⟨d, ⟨c, hc, hd⟩, hP⟩

theorem undashChars_cons {c : Char} (h : c ≠ '-') (rest : List Char) :
    undashChars (c :: rest) = c :: undashChars rest := by
  cases rest <;> simp [undashChars, h]

theorem undashChars_dash_cons {d : Char} (h : d.isLower = true) (rest : List Char) :
    undashChars ('-' :: d :: rest) = d.toUpper :: undashChars rest := by
  simp [undashChars, h]

theorem undashChars_dash_cons_of_not {d : Char} (h : ¬ d.isLower = true) (rest : List Char) :
    undashChars ('-' :: d :: rest) = '-' :: undashChars (d :: rest) := by
  simp [undashChars, h]

theorem not_isUpper_of_isLower {c : Char} (h : c.isLower = true) : ¬ c.isUpper = true := by
  simp only [Char.isLower, Char.isUpper, Bool.and_eq_true, decide_eq_true_eq, ge_iff_le,
    UInt32.le_iff_toNat_le] at h ⊢
  have hz : 'Z'.val.toNat = 90 := rfl
  have ha : 'a'.val.toNat = 97 := rfl
  omega

theorem toUpper_toLower_of_isUpper {c : Char} (h : c.isUpper = true) : c.toLower.toUpper = c := by
  rw [Char.toUpper_toLower_eq_toUpper]
  exact Char.toUpper_eq_of_not_isLower fun hl => not_isUpper_of_isLower hl h

theorem isUpper_toUpper {c : Char} (h : c.isLower = true) : c.toUpper.isUpper = true := by
  simp [Char.isUpper_toUpper_eq_isAlpha, Char.isAlpha, h]

theorem dashChar_toUpper {c : Char} (h : c.isLower = true) : dashChar c.toUpper = ['-', c] := by
  rw [dashChar_of_isUpper (isUpper_toUpper h), Char.toLower_toUpper_eq_toLower,
    Char.toLower_eq_of_not_isUpper (not_isUpper_of_isLower h)]

/-- Reading undoes the dashing of an upper-case letter. -/
theorem undashChars_dashChar_append {c : Char} (h : c.isUpper = true) (rest : List Char) :
    undashChars (dashChar c ++ rest) = c :: undashChars rest := by
  have hlower : c.toLower.isLower = true := by
    simp [Char.isLower_toLower_eq_isAlpha, Char.isAlpha, h]
  rw [dashChar_of_isUpper h, List.cons_append, List.cons_append, List.nil_append,
    undashChars_dash_cons hlower, toUpper_toLower_of_isUpper h]

theorem undashChars_dash_flatMap {d : Char} (h : ¬ d.isLower = true) (rest : List Char) :
    undashChars ('-' :: (d :: rest).flatMap dashChar) =
      '-' :: undashChars ((d :: rest).flatMap dashChar) := by
  -- An upper-case letter puts a second dash behind the first, every other character stays.
  rw [List.flatMap_cons]
  by_cases hd : d.isUpper = true
  · rw [dashChar_of_isUpper hd]
    exact undashChars_dash_cons_of_not (by decide) _
  · rw [dashChar_of_not_isUpper hd]
    exact undashChars_dash_cons_of_not h _

theorem flatMap_dashChar_dash_cons {d : Char} (h : d.isLower = true) (rest : List Char) :
    ('-' :: d :: rest).flatMap dashChar = '-' :: d :: rest.flatMap dashChar := by
  have hdash : dashChar '-' = ['-'] := rfl
  have hletter : dashChar d = [d] := dashChar_of_not_isUpper (not_isUpper_of_isLower h)
  rw [List.flatMap_cons, List.flatMap_cons, hdash, hletter]
  rfl

/-- Dashing keeps the camel-case reading. -/
theorem undashChars_flatMap_dashChar (s : List Char) :
    undashChars (s.flatMap dashChar) = undashChars s := by
  fun_induction undashChars s with
  | case1 => rfl
  | case2 c =>
    by_cases hc : c.isUpper = true
    · simpa [undashChars] using undashChars_dashChar_append hc []
    · simp [dashChar_of_not_isUpper hc, undashChars]
  | case3 c d rest hdash ih =>
    obtain ⟨rfl, hd⟩ := hdash
    rw [flatMap_dashChar_dash_cons hd, undashChars_dash_cons hd, ih]
  | case4 c d rest hdash ih =>
    rw [List.flatMap_cons, ← ih]
    by_cases hc : c.isUpper = true
    · exact undashChars_dashChar_append hc _
    · rw [dashChar_of_not_isUpper hc]
      by_cases heq : c = '-'
      · subst heq
        exact undashChars_dash_flatMap (fun hd => hdash ⟨rfl, hd⟩) rest
      · exact undashChars_cons heq _

/-- Reading keeps the dashed spelling. -/
theorem flatMap_dashChar_undashChars (s : List Char) :
    (undashChars s).flatMap dashChar = s.flatMap dashChar := by
  fun_induction undashChars s with
  | case1 => rfl
  | case2 => rfl
  | case3 c d rest hdash ih =>
    obtain ⟨rfl, hd⟩ := hdash
    rw [flatMap_dashChar_dash_cons hd, List.flatMap_cons, dashChar_toUpper hd, ih]
    rfl
  | case4 c d rest hdash ih => rw [List.flatMap_cons, List.flatMap_cons, ih]

theorem undash_dashify (key : String) : undash (dashify key) = undash key := by
  rw [undash, toList_dashify, undashChars_flatMap_dashChar, undash]

theorem dashify_undash (key : String) : dashify (undash key) = dashify key := by
  rw [dashify, toList_undash, flatMap_dashChar_undashChars, dashify]

/-- Two keys are spelled alike exactly when they read alike in camel case. -/
theorem dashify_eq_dashify_iff {a b : String} : dashify a = dashify b ↔ undash a = undash b := by
  constructor
  · intro h
    calc
      undash a = undash (dashify a) := (undash_dashify a).symm
      _ = undash (dashify b) := by rw [h]
      _ = undash b := undash_dashify b
  · intro h
    calc
      dashify a = dashify (undash a) := (dashify_undash a).symm
      _ = dashify (undash b) := by rw [h]
      _ = dashify b := dashify_undash b

/-- The rule looks at the ends and for line breaks only, so more quotes may stand inside. -/
theorem isDoubleQuoted_iff {token : String} :
    isDoubleQuoted token = true ↔
      ∃ inner, token.toList = '"' :: (inner ++ ['"']) ∧ ∀ c ∈ inner, isLineEnd c = false := by
  unfold isDoubleQuoted
  constructor
  · intro h
    split at h
    · next first rest htoken =>
      simp only [Bool.and_eq_true, beq_iff_eq, Bool.not_eq_true', List.any_eq_false,
        Bool.not_eq_true] at h
      obtain ⟨⟨rfl, hlast⟩, hline⟩ := h
      obtain ⟨inner, rfl⟩ := List.getLast?_eq_some_iff.1 hlast
      refine ⟨inner, htoken, ?_⟩
      intro c hc
      exact hline c (List.mem_append_left _ hc)
    · cases h
  · intro h
    obtain ⟨inner, htoken, hline⟩ := h
    have hquote : isLineEnd '"' = false := by decide
    rw [htoken]
    simpa [hquote] using hline

theorem isBareOrigin_iff {token : String} :
    isBareOrigin token = true ↔ token ≠ "" ∧ ∀ c ∈ token.toList, splitsEntry c = false := by
  simp [isBareOrigin]

end BrowserPolicy.Grammar
