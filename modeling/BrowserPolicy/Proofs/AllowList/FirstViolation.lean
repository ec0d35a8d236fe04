import BrowserPolicy.Grammar.Builtin
import BrowserPolicy.Proofs.AllowList.Allowed
import BrowserPolicy.Proofs.Ranked
import Mathlib.Data.List.Induction

/-!
Why a list of tokens is refused. The first token that breaks a rule decides the error, and of the
rules that it breaks the first; what comes behind it is not looked at. Only a list in which no token
breaks a rule can be refused for a keyword that should stand alone.
-/

namespace BrowserPolicy

/-- Of several rows for one form the first is found. -/
theorem Grammar.misquoted?_eq_some_iff {g : Grammar} {token : String} {row : Misquoted} :
    g.misquoted? token = some row ↔
      row.form = token ∧ ∃ before after, g.misquoted = before ++ row :: after ∧
        ∀ r ∈ before, r.form ≠ token := by
  simp [Grammar.misquoted?, List.find?_eq_some_iff_append]

namespace AllowList

/-- A token behind `earlier` ones breaks a rule, and this is the error for it. The rules are ranked:
a token is a text, it is new, it is no keyword in the wrong form, it is a keyword or quoted. -/
inductive Breaks (g : Grammar) (feature : String) (earlier : List RawToken) :
    RawToken → Nat → PolicyError → Prop where
  | notText : Breaks g feature earlier .notText 0 (.nonString feature)
  | repeated {token : RawToken} (known : token ∈ earlier) :
      Breaks g feature earlier token 1 (.duplicate feature)
  | misquoted {token : String} {row : Misquoted} (form : row.form = token)
      (before after : List Misquoted) (rows : g.misquoted = before ++ row :: after)
      (first : ∀ r ∈ before, r.form ≠ token) :
      Breaks g feature earlier (.text token) 2 (.misquotedKeyword row.keyword row.required)
  | unquoted {token : String} (not_reserved : token ∉ g.reserved)
      (not_quoted : g.quoteRule token = false) :
      Breaks g feature earlier (.text token) 3 (.unquoted token)

def Flawless (g : Grammar) (feature : String) (raw : List RawToken) : Prop :=
  ∀ before token after, raw = before ++ token :: after →
    ∀ rank error, ¬ Breaks g feature before token rank error

def FirstViolation (g : Grammar) (feature : String) (raw : List RawToken) (error : PolicyError) :
    Prop :=
  ∃ before token after, raw = before ++ token :: after ∧ Flawless g feature before ∧
    FirstBroken (Breaks g feature before token) error

/-- What is said of a list: the error of the first violation; without one, that a keyword is mixed
with other tokens, the wildcard before the none keyword; else the tokens as they are. -/
inductive Verdict (g : Grammar) (feature : String) (raw : List RawToken) :
    Except PolicyError (List String) → Prop where
  | violation {error : PolicyError} (first : FirstViolation g feature raw error) :
      Verdict g feature raw (.error error)
  | wildcard (flawless : Flawless g feature raw) (company : 2 ≤ raw.length)
      (mem : .text g.wildcard ∈ raw) : Verdict g feature raw (.error (.mixed feature g.wildcard))
  | noneKeyword (flawless : Flawless g feature raw) (company : 2 ≤ raw.length)
      (not_mem : .text g.wildcard ∉ raw) (mem : .text g.noneKeyword ∈ raw) :
      Verdict g feature raw (.error (.mixed feature g.noneKeyword))
  | passes {tokens : List String} (flawless : Flawless g feature raw)
      (texts : raw = tokens.map .text)
      (alone : 2 ≤ raw.length → .text g.wildcard ∉ raw ∧ .text g.noneKeyword ∉ raw) :
      Verdict g feature raw (.ok tokens)

variable {g : Grammar} {feature : String}

theorem Breaks.unique {earlier : List RawToken} {token : RawToken} (rank : Nat)
    (error error' : PolicyError) (h : Breaks g feature earlier token rank error)
    (h' : Breaks g feature earlier token rank error') : error = error' := by
  cases h with
  | notText =>
    cases h'
    rfl
  | repeated =>
    cases h'
    rfl
  | misquoted form before after rows first =>
    cases h' with
    | misquoted form' before' after' rows' first' =>
      -- Both errors come from the first row of the form.
      have hrow := Grammar.misquoted?_eq_some_iff.2 ⟨form, before, after, rows, first⟩
      have hrow' := Grammar.misquoted?_eq_some_iff.2 ⟨form', before', after', rows', first'⟩
      cases hrow.symm.trans hrow'
      rfl
  | unquoted =>
    cases h'
    rfl

theorem not_breaks_of_accepts {earlier : List RawToken} {token : String}
    (hfresh : .text token ∉ earlier) (haccepts : g.Accepts token) {rank : Nat}
    {error : PolicyError} : ¬ Breaks g feature earlier (.text token) rank error := by
  obtain ⟨hforms, htaken⟩ := haccepts
  intro h
  cases h with
  | repeated known => exact hfresh known
  | misquoted form before after rows => exact hforms _ (by simp [rows]) form
  | unquoted not_reserved not_quoted => simp [not_reserved, not_quoted] at htaken

/-- The check looks at the rules in their rank, so its error is that of the first one broken. -/
theorem firstBroken_of_check {seen : List String} {earlier : List RawToken}
    (hseen : ∀ t, t ∈ seen ↔ .text t ∈ earlier) {token : RawToken} {error : PolicyError}
    (h : check g feature seen token = .error error) :
    FirstBroken (Breaks g feature earlier token) error := by
  cases token with
  | notText =>
    cases h
    exact ⟨0, .notText, fun _ _ _ => Nat.zero_le _⟩
  | text t =>
    simp only [check] at h
    split at h
    · next hmem =>
      cases h
      refine ⟨1, .repeated ((hseen t).1 hmem), ?_⟩
      intro rank' error' h'
      cases h' <;> omega
    · next hmem =>
      have hfresh : .text t ∉ earlier := fun hknown => hmem ((hseen t).2 hknown)
      split at h
      · next row hrow =>
        cases h
        obtain ⟨hform, before, after, hrows, hfirst⟩ := Grammar.misquoted?_eq_some_iff.1 hrow
        refine ⟨2, .misquoted hform before after hrows hfirst, ?_⟩
        intro rank' error' h'
        cases h' with
        | repeated known => exact absurd known hfresh
        | _ => omega
      · next hnone =>
        split at h
        · cases h
        · next hquoted =>
          cases h
          have hrefused : t ∉ g.reserved ∧ g.quoteRule t = false := by
            simpa [Grammar.isReserved] using hquoted
          refine ⟨3, .unquoted hrefused.1 hrefused.2, ?_⟩
          intro rank' error' h'
          cases h' with
          | repeated known => exact absurd known hfresh
          | misquoted form before after rows =>
            exact absurd form (Grammar.misquoted?_eq_none_iff.1 hnone _ (by simp [rows]))
          | unquoted => omega

/-- One step of the check: it gives the error of the first rule that the token breaks. -/
theorem check_eq_error_iff {seen : List String} {earlier : List RawToken}
    (hseen : ∀ t, t ∈ seen ↔ .text t ∈ earlier) {token : RawToken} {error : PolicyError} :
    check g feature seen token = .error error ↔
      FirstBroken (Breaks g feature earlier token) error := by
  apply FirstBroken.iff_of_answers Breaks.unique fun _ => firstBroken_of_check hseen
  intro rank broken hbreaks
  cases hcheck : check g feature seen token with
  | error error' => exact ⟨error', rfl⟩
  | ok t =>
    obtain ⟨rfl, hfresh, haccepts⟩ := check_eq_ok_iff.1 hcheck
    exact absurd hbreaks (not_breaks_of_accepts (mt (hseen t).2 hfresh) haccepts)

theorem checkAll_append_of_error {seen : List String} {before : List RawToken} {error : PolicyError}
    (h : checkAll g feature seen before = .error error) (after : List RawToken) :
    checkAll g feature seen (before ++ after) = .error error := by
  induction before generalizing seen with
  | nil => cases h
  | cons first rest ih =>
    simp only [checkAll, List.cons_append] at h ⊢
    split at h
    · exact h
    · split at h
      · next hrest =>
        cases h
        rw [ih hrest]
      · cases h

/-- Tokens that pass count as seen for those behind them. -/
theorem checkAll_append_of_ok {seen passed : List String} {before : List RawToken}
    (h : checkAll g feature seen before = .ok passed) (after : List RawToken) :
    checkAll g feature seen (before ++ after) =
      (checkAll g feature (passed.reverse ++ seen) after).map (passed ++ ·) := by
  induction before generalizing seen passed with
  | nil =>
    cases h
    cases hafter : checkAll g feature seen after <;> simp [hafter, Except.map]
  | cons first rest ih =>
    simp only [checkAll, List.cons_append] at h ⊢
    split at h
    · cases h
    · next t _ =>
      split at h
      · cases h
      · next ts hrest =>
        cases h
        rw [ih hrest, List.reverse_cons, List.append_assoc, List.singleton_append]
        cases checkAll g feature (ts.reverse ++ t :: seen) after <;> rfl

theorem mem_passed_iff {before : List RawToken} {passed : List String}
    (h : checkAll g feature [] before = .ok passed) (t : String) :
    t ∈ passed.reverse ++ [] ↔ .text t ∈ before := by
  obtain ⟨rfl, -⟩ := checkAll_eq_ok_iff.1 h
  simp

theorem checkAll_append_cons_of_error {before : List RawToken} {passed : List String}
    (h : checkAll g feature [] before = .ok passed) {token : RawToken} {error : PolicyError}
    (hcheck : check g feature (passed.reverse ++ []) token = .error error)
    (after : List RawToken) :
    checkAll g feature [] (before ++ token :: after) = .error error := by
  rw [checkAll_append_of_ok h]
  simp only [checkAll, hcheck]
  rfl

theorem flawless_concat_iff {raw : List RawToken} {token : RawToken} :
    Flawless g feature (raw ++ [token]) ↔
      Flawless g feature raw ∧ ∀ rank error, ¬ Breaks g feature raw token rank error := by
  constructor
  · intro h
    refine ⟨?_, h raw token [] rfl⟩
    rintro before t after rfl
    exact h before t (after ++ [token]) (by simp)
  · rintro ⟨hraw, htoken⟩ before t after hsplit
    rcases List.eq_nil_or_concat after with rfl | ⟨after, last, rfl⟩
    · obtain ⟨rfl, hlast⟩ := List.append_inj' hsplit rfl
      cases hlast
      exact htoken
    · have hfront : raw ++ [token] = (before ++ t :: after) ++ [last] := by simpa using hsplit
      obtain ⟨rfl, -⟩ := List.append_inj' hfront rfl
      exact hraw before t after rfl

/-- Up to its first violation a list passes; the check tells which of the two it has come to. -/
theorem flawless_or_firstViolation (g : Grammar) (feature : String) (raw : List RawToken) :
    (Flawless g feature raw ∧ ∃ tokens, checkAll g feature [] raw = .ok tokens) ∨
      ∃ error, FirstViolation g feature raw error ∧ checkAll g feature [] raw = .error error := by
  -- One token more at the end of the list is looked at when all before it have passed.
  induction raw using List.reverseRecOn with
  | nil => exact Or.inl ⟨by simp [Flawless], [], rfl⟩
  | append_singleton raw token ih =>
    rcases ih with ⟨hflawless, tokens, hall⟩ | ⟨error, hfirst, hall⟩
    · have hseen := mem_passed_iff hall
      cases hcheck : check g feature (tokens.reverse ++ []) token with
      | error error =>
        have hbreaks := (check_eq_error_iff hseen).1 hcheck
        exact Or.inr ⟨error, ⟨raw, token, [], rfl, hflawless, hbreaks⟩,
          checkAll_append_cons_of_error hall hcheck []⟩
      | ok t =>
        obtain ⟨rfl, hfresh, haccepts⟩ := check_eq_ok_iff.1 hcheck
        have hpasses (rank : Nat) (error : PolicyError) :
            ¬ Breaks g feature raw (.text t) rank error :=
          not_breaks_of_accepts (mt (hseen t).2 hfresh) haccepts
        refine Or.inl ⟨flawless_concat_iff.2 ⟨hflawless, hpasses⟩, tokens ++ [t], ?_⟩
        rw [checkAll_append_of_ok hall]
        simp only [checkAll, hcheck]
        rfl
    · obtain ⟨before, t, after, rfl, hbefore, hbreaks⟩ := hfirst
      refine Or.inr ⟨error, ⟨before, t, after ++ [token], by simp, hbefore, hbreaks⟩, ?_⟩
      exact checkAll_append_of_error hall [token]

theorem FirstViolation.not_flawless {raw : List RawToken} {error : PolicyError}
    (h : FirstViolation g feature raw error) : ¬ Flawless g feature raw := by
  obtain ⟨before, token, after, hsplit, -, rank, hbreaks, -⟩ := h
  intro hflawless
  exact hflawless before token after hsplit rank error hbreaks

/-- A run of the check: it is the first violation in the list that gives the error. -/
theorem checkAll_eq_error_iff {raw : List RawToken} {error : PolicyError} :
    checkAll g feature [] raw = .error error ↔ FirstViolation g feature raw error := by
  constructor
  · intro h
    rcases flawless_or_firstViolation g feature raw with ⟨-, _, hall⟩ | ⟨error', hfirst, hall⟩
    · rw [hall] at h
      cases h
    · rw [hall] at h
      cases h
      exact hfirst
  · intro h
    obtain ⟨before, token, after, rfl, hbefore, hbreaks⟩ := h
    rcases flawless_or_firstViolation g feature before with ⟨-, tokens, hall⟩ | ⟨_, hfirst, -⟩
    · have hcheck := (check_eq_error_iff (mem_passed_iff hall)).2 hbreaks
      exact checkAll_append_cons_of_error hall hcheck after
    · exact absurd hbefore hfirst.not_flawless

theorem flawless_iff {raw : List RawToken} :
    Flawless g feature raw ↔ ∃ tokens, checkAll g feature [] raw = .ok tokens := by
  rcases flawless_or_firstViolation g feature raw with ⟨hflawless, hall⟩ | ⟨error, hfirst, hall⟩
  · simp only [hflawless, hall]
  · simp [hfirst.not_flawless, hall]

/-- Of two keywords in one list the wildcard is named. -/
theorem mixedKeyword?_eq_some_iff {tokens : List String} {keyword : String} :
    mixedKeyword? g tokens = some keyword ↔
      2 ≤ tokens.length ∧
        (g.wildcard ∈ tokens ∧ keyword = g.wildcard ∨
          g.wildcard ∉ tokens ∧ g.noneKeyword ∈ tokens ∧ keyword = g.noneKeyword) := by
  unfold mixedKeyword?
  split
  · next hle =>
    have hlt : ¬ 2 ≤ tokens.length := by omega
    simp [hlt]
  · next hgt =>
    have hle : 2 ≤ tokens.length := by omega
    by_cases hwild : g.wildcard ∈ tokens <;> by_cases hnone : g.noneKeyword ∈ tokens <;>
      simp [hle, hwild, hnone, eq_comm]

/-- The result of the whole check is the documented verdict. -/
theorem validate_eq_iff {raw : List RawToken} {result : Except PolicyError (List String)} :
    validate g feature raw = result ↔ Verdict g feature raw result := by
  constructor
  · rintro rfl
    unfold validate
    split
    · next hall => exact .violation (checkAll_eq_error_iff.1 hall)
    · next tokens hall =>
      have hflawless : Flawless g feature raw := flawless_iff.2 ⟨tokens, hall⟩
      obtain ⟨rfl, -⟩ := checkAll_eq_ok_iff.1 hall
      split
      · next hmixed =>
        obtain ⟨hcompany, ⟨hmem, rfl⟩ | ⟨hnot, hmem, rfl⟩⟩ := mixedKeyword?_eq_some_iff.1 hmixed
        · exact .wildcard hflawless (by simpa using hcompany) (by simpa using hmem)
        · exact .noneKeyword hflawless (by simpa using hcompany) (by simpa using hnot)
            (by simpa using hmem)
      · next hmixed =>
        exact .passes hflawless rfl (by simpa using mixedKeyword?_eq_none_iff.1 hmixed)
  · intro h
    cases h with
    | violation first => simp only [validate, checkAll_eq_error_iff.2 first]
    | wildcard flawless company mem =>
      obtain ⟨tokens, hall⟩ := flawless_iff.1 flawless
      obtain ⟨rfl, -⟩ := checkAll_eq_ok_iff.1 hall
      have hmixed : mixedKeyword? g tokens = some g.wildcard :=
        mixedKeyword?_eq_some_iff.2
          ⟨by simpa using company, Or.inl ⟨by simpa using mem, rfl⟩⟩
      simp only [validate, hall, hmixed]
    | noneKeyword flawless company not_mem mem =>
      obtain ⟨tokens, hall⟩ := flawless_iff.1 flawless
      obtain ⟨rfl, -⟩ := checkAll_eq_ok_iff.1 hall
      have hmixed : mixedKeyword? g tokens = some g.noneKeyword :=
        mixedKeyword?_eq_some_iff.2
          ⟨by simpa using company, Or.inr ⟨by simpa using not_mem, by simpa using mem, rfl⟩⟩
      simp only [validate, hall, hmixed]
    | @passes tokens flawless texts alone =>
      obtain ⟨tokens', hall⟩ := flawless_iff.1 flawless
      obtain ⟨htexts, -⟩ := checkAll_eq_ok_iff.1 hall
      obtain rfl : tokens' = tokens :=
        (List.map_inj_right fun _ _ => RawToken.text.inj).1 (htexts.symm.trans texts)
      have hmixed : mixedKeyword? g tokens' = none := by
        rw [mixedKeyword?_eq_none_iff]
        simpa [texts] using alone
      simp only [validate, hall, hmixed]

theorem validate_append_of_breaks {before : List RawToken} {token : RawToken} {rank : Nat}
    {error : PolicyError} (h : Breaks g feature before token rank error)
    (after after' : List RawToken) :
    validate g feature (before ++ token :: after) =
      validate g feature (before ++ token :: after') := by
  rcases flawless_or_firstViolation g feature (before ++ [token]) with
    ⟨hflawless, -⟩ | ⟨error', -, hall⟩
  · exact absurd h ((flawless_concat_iff.1 hflawless).2 rank error)
  · have hrefused (rest : List RawToken) :
        checkAll g feature [] (before ++ token :: rest) = .error error' := by
      simpa using checkAll_append_of_error hall rest
    simp only [validate, hrefused]

/-- The check of a list is what is documented: the error of its first violation, or that a keyword
is mixed with other tokens, or the tokens as they are. What comes behind a token that breaks a rule
does not matter. -/
theorem list_refused_for_first_violation (g : Grammar) (feature : String) :
    (∀ raw result, validate g feature raw = result ↔ Verdict g feature raw result) ∧
      ∀ before token rank error, Breaks g feature before token rank error → ∀ after after',
        validate g feature (before ++ token :: after) =
          validate g feature (before ++ token :: after') := by
  refine ⟨fun raw result => validate_eq_iff, ?_⟩
  intro before token rank error h after after'
  exact validate_append_of_breaks h after after'

/-- The second `self` decides the error, whether a bad token or no token comes behind it. -/
theorem list_refused_for_second_self :
    Breaks Grammar.permissions "vibrate" [.text "self"] (.text "self") 1 (.duplicate "vibrate") ∧
    validate Grammar.permissions "vibrate" [.text "self", .text "self", .notText] =
      validate Grammar.permissions "vibrate" [.text "self", .text "self"] ∧
    Verdict Grammar.permissions "vibrate" [.text "self", .text "self", .notText]
      (.error (.duplicate "vibrate")) := by
  obtain ⟨hverdict, hafter⟩ := list_refused_for_first_violation Grammar.permissions "vibrate"
  have hbreaks : Breaks Grammar.permissions "vibrate" [.text "self"] (.text "self") 1
      (.duplicate "vibrate") := .repeated (by simp)
  have hsame := hafter _ _ _ _ hbreaks [.notText] []
  exact ⟨hbreaks, hsame, (hverdict _ _).1 (hsame.trans (by decide))⟩

end AllowList

end BrowserPolicy
