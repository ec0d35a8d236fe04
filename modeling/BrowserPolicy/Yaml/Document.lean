import BrowserPolicy.Entries
import BrowserPolicy.Yaml.Token.Stream
import BrowserPolicy.Yaml.Tree

namespace BrowserPolicy.Yaml

abbrev AnchorNumbers := Entries Nat

namespace Node

def numberAnchor (known : AnchorNumbers) : Option String → Option Nat × AnchorNumbers
  | some name => (some known.length, known.put name known.length)
  | none => (none, known)

mutual

def number (known : AnchorNumbers) : Node String → Except Fault (Node Nat × AnchorNumbers)
  | .aliasTo name =>
    match known.get? name with
    | some i => .ok (.aliasTo i, known)
    | none => .error .unknownAnchor
  | .scalar a tag style text =>
    let (a, known) := numberAnchor known a
    .ok (.scalar a tag style text, known)
  | .sequence a tag items =>
    let (a, known) := numberAnchor known a
    match numberItems known items with
    | .ok (items, known) => .ok (.sequence a tag items, known)
    | .error fault => .error fault
  | .mapping a tag entries =>
    let (a, known) := numberAnchor known a
    match numberEntries known entries with
    | .ok (entries, known) => .ok (.mapping a tag entries, known)
    | .error fault => .error fault

def numberItems (known : AnchorNumbers) :
    List (Node String) → Except Fault (List (Node Nat) × AnchorNumbers)
  | [] => .ok ([], known)
  | n :: rest =>
    match number known n with
    | .error fault => .error fault
    | .ok (n, known) =>
      match numberItems known rest with
      | .error fault => .error fault
      | .ok (rest, known) => .ok (n :: rest, known)

def numberEntries (known : AnchorNumbers) :
    List (Node String × Node String) → Except Fault (List (Node Nat × Node Nat) × AnchorNumbers)
  | [] => .ok ([], known)
  | (k, v) :: rest =>
    match number known k with
    | .error fault => .error fault
    | .ok (k, known) =>
      match number known v with
      | .error fault => .error fault
      | .ok (v, known) =>
        match numberEntries known rest with
        | .error fault => .error fault
        | .ok (rest, known) => .ok ((k, v) :: rest, known)

end

end Node

structure Document where
  root : Node Nat

namespace Document

def ofText (text : String) : Except Fault Document := do
  let words ← Token.ofText text.toList
  let tree ← Tree.ofTokens words
  let (root, _) ← tree.number []
  .ok ⟨root⟩

def target? (d : Document) (i : Nat) : Option (Node Nat) :=
  (d.root.anchored.reverse.find? fun a => a.1 == i).map Prod.snd

/-- How often aliases may be followed: a hundred times for every node. -/
def aliasLimit (d : Document) : Nat :=
  100 * d.root.size

def maxDepth : Nat := 128

end Document

end BrowserPolicy.Yaml
