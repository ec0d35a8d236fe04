import BrowserPolicy.Yaml.Token

namespace BrowserPolicy.Yaml

structure Tag where
  octets : List UInt8
  deriving DecidableEq, Repr

namespace Tag

def ofText (s : String) : Tag :=
  ⟨s.toUTF8.toList⟩

/-- What a tag of one's own says, that is one that begins with the mark. The mark alone says
itself, and a tag that is no text says nothing. -/
def localName? (t : Tag) : Option String :=
  match t.octets with
  | 0x21 :: [] => some "!"
  | 0x21 :: rest => String.fromUTF8? rest.toByteArray
  | _ => none

end Tag

inductive Node (Ref : Type) where
  | aliasTo (target : Ref)
  | scalar (anchor : Option Ref) (tag : Option Tag) (style : ScalarStyle) (text : String)
  | sequence (anchor : Option Ref) (tag : Option Tag) (items : List (Node Ref))
  | mapping (anchor : Option Ref) (tag : Option Tag) (entries : List (Node Ref × Node Ref))

namespace Node

variable {Ref : Type}

def empty : Node Ref := scalar none none .plain ""

mutual

def size : Node Ref → Nat
  | .aliasTo _ | scalar _ _ _ _ => 1
  | sequence _ _ items => 2 + itemsSize items
  | mapping _ _ entries => 2 + entriesSize entries

def itemsSize : List (Node Ref) → Nat
  | [] => 0
  | n :: rest => size n + itemsSize rest

def entriesSize : List (Node Ref × Node Ref) → Nat
  | [] => 0
  | (k, v) :: rest => size k + size v + entriesSize rest

end

mutual

def anchored : Node Ref → List (Ref × Node Ref)
  | .aliasTo _ => []
  | scalar a t style text => (a.map fun a => (a, scalar (some a) t style text)).toList
  | sequence a t items =>
    (a.map fun a => (a, sequence (some a) t items)).toList ++ itemsAnchored items
  | mapping a t entries =>
    (a.map fun a => (a, mapping (some a) t entries)).toList ++ entriesAnchored entries

def itemsAnchored : List (Node Ref) → List (Ref × Node Ref)
  | [] => []
  | n :: rest => anchored n ++ itemsAnchored rest

def entriesAnchored : List (Node Ref × Node Ref) → List (Ref × Node Ref)
  | [] => []
  | (k, v) :: rest => anchored k ++ anchored v ++ entriesAnchored rest

end

end Node

end BrowserPolicy.Yaml
