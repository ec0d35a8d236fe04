namespace BrowserPolicy

inductive Dialect where
  | permissions
  | feature
  deriving DecidableEq, Repr

namespace Dialect

def name : Dialect → String
  | permissions => "permissions"
  | feature => "feature"

def headerName : Dialect → String
  | permissions => "Permissions-Policy"
  | feature => "Feature-Policy"

def fieldName : Dialect → String
  | permissions => "permissions-policy"
  | feature => "feature-policy"

def ofName? (s : String) : Option Dialect :=
  if s = "permissions" then some permissions
  else if s = "feature" then some feature
  else none

theorem ofName?_name (d : Dialect) : ofName? d.name = some d := by
  cases d <;> decide

theorem name_of_ofName? {s : String} {d : Dialect} (h : ofName? s = some d) : s = d.name := by
  unfold ofName? at h
  split at h
  · next hs => cases h; exact hs
  · split at h
    · next hs => cases h; exact hs
    · cases h

theorem fieldName_eq_toLower (d : Dialect) : d.fieldName = d.headerName.toLower := by
  cases d <;> decide +kernel

/-- Two dialects never write the same header. -/
theorem fieldName_injective : ∀ {a b : Dialect}, a.fieldName = b.fieldName → a = b
  | permissions, permissions, _ | feature, feature, _ => rfl
  | permissions, feature, h | feature, permissions, h => absurd h (by decide)

end Dialect

end BrowserPolicy
