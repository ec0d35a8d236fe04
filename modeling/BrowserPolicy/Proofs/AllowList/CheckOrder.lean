import BrowserPolicy.Grammar.Builtin
import BrowserPolicy.Proofs.AllowList.Allowed

namespace BrowserPolicy.AllowList

variable {g : Grammar} {feature : String}

abbrev TokenCheck := List String → RawToken → Except PolicyError String

def checkEach (check : TokenCheck) (seen : List String) :
    List RawToken → Except PolicyError (List String)
  | [] => .ok []
  | raw :: rest =>
    match check seen raw with
    | .error e => .error e
    | .ok token =>
      match checkEach check (token :: seen) rest with
      | .error e => .error e
      | .ok tokens => .ok (token :: tokens)

def validateWith (check : TokenCheck) (g : Grammar) (feature : String) (raw : List RawToken) :
    Except PolicyError (List String) :=
  match checkEach check [] raw with
  | .error e => .error e
  | .ok tokens =>
    match mixedKeyword? g tokens with
    | some keyword => .error (.mixed feature keyword)
    | none => .ok tokens

/-- The check of a token with the repetition looked for last. -/
def checkRepeatedLast (g : Grammar) (feature : String) : TokenCheck
  | _, .notText => .error (.nonString feature)
  | seen, .text token =>
    match g.misquoted? token with
    | some row => .error (.misquotedKeyword row.keyword row.required)
    | none =>
      if g.isReserved token || g.quoteRule token then
        if token ∈ seen then .error (.duplicate feature) else .ok token
      else .error (.unquoted token)

theorem checkEach_check (seen : List String) (raw : List RawToken) :
    checkEach (check g feature) seen raw = checkAll g feature seen raw := by
  induction raw generalizing seen with
  | nil => rfl
  | cons first rest ih =>
    cases hfirst : check g feature seen first with
    | error error => simp only [checkEach, checkAll, hfirst]
    | ok token =>
      cases hrest : checkAll g feature (token :: seen) rest with
      | error error => simp only [checkEach, checkAll, hfirst, ih, hrest]
      | ok tokens => simp only [checkEach, checkAll, hfirst, ih, hrest]

/-- The check of the program is one of these. -/
theorem validateWith_check (raw : List RawToken) :
    validateWith (check g feature) g feature raw = validate g feature raw := by
  cases hall : checkAll g feature [] raw with
  | error error => simp only [validateWith, validate, checkEach_check, hall]
  | ok tokens =>
    cases hmixed : mixedKeyword? g tokens with
    | none => simp only [validateWith, validate, checkEach_check, hall, hmixed]
    | some keyword => simp only [validateWith, validate, checkEach_check, hall, hmixed]

/-- Two checks come to the same when they agree behind all tokens that one of them can have let
through. -/
theorem checkEach_congr {one other : TokenCheck} (Reached : List String → Prop)
    (hagree : ∀ seen token, Reached seen → one seen token = other seen token)
    (hkept : ∀ seen raw token, Reached seen → other seen raw = .ok token → Reached (token :: seen))
    {seen : List String} (hseen : Reached seen) (raw : List RawToken) :
    checkEach one seen raw = checkEach other seen raw := by
  induction raw generalizing seen with
  | nil => rfl
  | cons first rest ih =>
    simp only [checkEach]
    rw [hagree seen first hseen]
    cases hfirst : other seen first with
    | error error => rfl
    | ok token =>
      have hreached : Reached (token :: seen) := hkept seen first token hseen hfirst
      simp only [ih hreached]

/-- Behind accepted tokens the place of the repetition is no matter: a repeated token is accepted
too, so no other check can refuse it. -/
theorem checkRepeatedLast_eq_check {seen : List String} (hseen : ∀ t ∈ seen, g.Accepts t)
    (raw : RawToken) : checkRepeatedLast g feature seen raw = check g feature seen raw := by
  cases raw with
  | notText => rfl
  | text token =>
    by_cases hknown : token ∈ seen
    · -- The other checks have let the token through before and do so again.
      obtain ⟨hforms, htaken⟩ := hseen token hknown
      have hnone : g.misquoted? token = none := Grammar.misquoted?_eq_none_iff.2 hforms
      have hquoted : (g.isReserved token || g.quoteRule token) = true := by
        simpa [Grammar.isReserved] using htaken
      simp [checkRepeatedLast, check, hknown, hnone, hquoted]
    · -- What is new is looked at in the same way on both sides.
      cases hform : g.misquoted? token with
      | none => simp only [checkRepeatedLast, check, hknown, hform, if_false]
      | some row => simp only [checkRepeatedLast, check, hknown, hform, if_false]

/-- A list comes to the same result, with the same error, whether a repetition is looked for before
the other checks of a token or behind them. -/
theorem repetition_refused_at_any_place (g : Grammar) (feature : String) (raw : List RawToken) :
    validateWith (checkRepeatedLast g feature) g feature raw = validate g feature raw := by
  have hagree (seen : List String) (token : RawToken) (hseen : ∀ t ∈ seen, g.Accepts t) :
      checkRepeatedLast g feature seen token = check g feature seen token :=
    checkRepeatedLast_eq_check hseen token
  -- What passes is accepted on its own, so every list of tokens seen holds accepted ones only.
  have hkept (seen : List String) (token : RawToken) (passed : String)
      (hseen : ∀ t ∈ seen, g.Accepts t) (hpassed : check g feature seen token = .ok passed) :
      ∀ t ∈ passed :: seen, g.Accepts t := by
    obtain ⟨-, -, haccepts⟩ := check_eq_ok_iff.1 hpassed
    exact List.forall_mem_cons.2 ⟨haccepts, hseen⟩
  have hall : checkEach (checkRepeatedLast g feature) [] raw =
      checkEach (check g feature) [] raw :=
    checkEach_congr (fun seen => ∀ t ∈ seen, g.Accepts t) hagree hkept (by simp) raw
  calc
    validateWith (checkRepeatedLast g feature) g feature raw =
        validateWith (check g feature) g feature raw := by simp only [validateWith, hall]
    _ = validate g feature raw := validateWith_check raw

/-- The checks of one token differ behind a token that could not have passed. -/
example :
    check Grammar.permissions "usb" ["'self'"] (.text "'self'") = .error (.duplicate "usb") ∧
    checkRepeatedLast Grammar.permissions "usb" ["'self'"] (.text "'self'") =
      .error (.misquotedKeyword "self" .bare) :=
  ⟨rfl, rfl⟩

end BrowserPolicy.AllowList
