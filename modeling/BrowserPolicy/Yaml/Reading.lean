import BrowserPolicy.Yaml.Document
import BrowserPolicy.Yaml.Scalar.Value

namespace BrowserPolicy.Yaml

abbrev Reading := StateT Nat (Except Fault)

namespace Document

def follow (d : Document) : Node Nat → Reading (Node Nat)
  | .aliasTo i => do
    let followed ← get
    if d.aliasLimit ≤ followed then throw .tooManyAliases
    set (followed + 1)
    match d.target? i with
    | some n => return n
    | none => throw .unknownAnchor
  | n => return n

def readText (d : Document) (n : Node Nat) : Reading String := do
  match ← d.follow n with
  | .scalar _ _ _ text => return text
  | _ => throw .unexpectedKind

def refuseLocal (tag : Option Tag) : Reading Unit :=
  if (tag.bind Tag.localName?).isSome then throw .unknownTag else return ()

/-- The value of a node under which collections are nested no deeper than `depth`. A key that comes
again replaces the value of the first. -/
def readValue (d : Document) : Nat → Node Nat → Reading Value
  | 0, n => do
    match ← d.follow n with
    | .scalar _ tag style text => Scalar.value tag style text
    | _ => throw .tooDeep
  | depth + 1, n => do
    match ← d.follow n with
    | .scalar _ tag style text => Scalar.value tag style text
    | .sequence _ tag items =>
      refuseLocal tag
      return .array (← items.mapM (readValue d depth))
    | .mapping _ tag entries =>
      refuseLocal tag
      let members ← entries.mapM fun (k, v) => do
        return (← d.readText k, ← readValue d depth v)
      return .ofMembers members
    | .aliasTo _ => throw .unknownAnchor

def readFields (d : Document) (names : List String) (n : Node Nat) :
    Reading (Entries (Node Nat)) := do
  match ← d.follow n with
  | .mapping _ _ entries =>
    let fields ← entries.mapM fun (k, v) => do return (← d.readText k, v)
    if !fields.all fun f => names.contains f.1 then throw .unknownField
    if !decide (fields.map Prod.fst).Nodup then throw .repeatedField
    return fields
  | .scalar _ _ .plain "" => return []
  | _ => throw .unexpectedKind

def need (fields : Entries (Node Nat)) (name : String) : Reading (Node Nat) :=
  match fields.get? name with
  | some n => return n
  | none => throw .missingField

def readItems (d : Document) (n : Node Nat) : Reading (List (Node Nat)) := do
  match ← d.follow n with
  | .sequence _ _ items => return items
  | .scalar _ _ .plain "" => return []
  | _ => throw .unexpectedKind

def readUInt32 (d : Document) (n : Node Nat) : Reading UInt32 := do
  match ← d.follow n with
  | .scalar _ tag style text =>
    if style ≠ .plain && !(style = .literal && tag = some Scalar.intTag) then
      throw .unexpectedKind
    match Scalar.unsigned? text.toList with
    | some i => if i < UInt32.size then return i.toUInt32 else throw .unresolvableScalar
    | none => throw .unresolvableScalar
  | _ => throw .unexpectedKind

def readChoice {α : Type} (d : Document) (ofName? : String → Option α) (n : Node Nat) :
    Reading α := do
  match ← d.follow n with
  | .scalar _ tag style text =>
    let chosen ← match tag.bind Tag.localName? with
      | none => pure text
      | some name =>
        if style = .plain && Scalar.isNull text.toList then pure name else throw .unexpectedKind
    match ofName? chosen with
    | some a => return a
    | none => throw .unresolvableScalar
  | _ => throw .unexpectedKind

end Document

end BrowserPolicy.Yaml
