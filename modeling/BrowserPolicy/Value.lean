import BrowserPolicy.Entries
import BrowserPolicy.Number

namespace BrowserPolicy

inductive Value where
  | null
  | bool (b : Bool)
  | int (i : Int)
  | float (x : Binary64)
  | string (s : String)
  | array (items : List Value)
  | object (members : List (String × Value))
  deriving Repr

namespace Value

def ofMembers (given : List (String × Value)) : Value :=
  object (Entries.ofList given)

mutual

/-- No object, at any depth, has two members of one name. -/
def KeysDistinct : Value → Prop
  | array items => itemsDistinct items
  | object members => (members.map Prod.fst).Nodup ∧ membersDistinct members
  | null | bool _ | int _ | float _ | string _ => True

def itemsDistinct : List Value → Prop
  | [] => True
  | v :: rest => KeysDistinct v ∧ itemsDistinct rest

def membersDistinct : List (String × Value) → Prop
  | [] => True
  | (_, v) :: rest => KeysDistinct v ∧ membersDistinct rest

end

end Value

structure FeatureMap where
  entries : Entries (List String)
  nodup_names : entries.names.Nodup

namespace FeatureMap

def ofList (given : List (String × List String)) : FeatureMap :=
  ⟨Entries.ofList given, Entries.nodup_names_ofList given⟩

def size (m : FeatureMap) : Nat :=
  m.entries.length

def toValue (m : FeatureMap) : Value :=
  .object (m.entries.map fun e => (e.1, .array (e.2.map .string)))

end FeatureMap

end BrowserPolicy
