import BrowserPolicy.Yaml.Fault
import BrowserPolicy.Yaml.Node

/-!
From the words of a text to its tree. Each function takes the words that belong to it from the
head of a list and gives the rest. `depth` bounds the number of calls inside one another; no call
goes without a word for long, so a multiple of the number of words is enough.
-/

namespace BrowserPolicy.Yaml

abbrev TagHandles := List (List Char × List UInt8)

namespace TagHandles

def default : TagHandles :=
  [(['!'], "!".toUTF8.toList), (['!', '!'], "tag:yaml.org,2002:".toUTF8.toList)]

def resolve (handles : TagHandles) (handle : List Char) (suffix : List UInt8) : Except Fault Tag :=
  if handle.isEmpty then .ok ⟨suffix⟩
  else match handles.find? fun h => h.1 == handle with
    | some (_, expansion) => .ok ⟨expansion ++ suffix⟩
    | none => .error .undefinedTagHandle

end TagHandles

namespace Tree

structure Properties where
  anchor : Option String
  tag : Option Tag

namespace Properties

def read (handles : TagHandles) : List Token → Except Fault (Properties × List Token)
  | .anchor name :: .tag handle suffix :: rest | .tag handle suffix :: .anchor name :: rest =>
    (handles.resolve handle suffix).map fun tag => (⟨some (String.ofList name), some tag⟩, rest)
  | .anchor name :: rest => .ok (⟨some (String.ofList name), none⟩, rest)
  | .tag handle suffix :: rest =>
    (handles.resolve handle suffix).map fun tag => (⟨none, some tag⟩, rest)
  | words => .ok (⟨none, none⟩, words)

def scalar (p : Properties) (style : ScalarStyle) (text : List Char) : Node String :=
  .scalar p.anchor p.tag style (String.ofList text)

def emptyNode (p : Properties) : Except Fault (Node String) :=
  if p.anchor.isSome || p.tag.isSome then .ok (.scalar p.anchor p.tag .plain "")
  else .error .expectedNode

end Properties

/-- Where a node stands: inside brackets, in a block, or in a mapping of a block, where a sequence
needs no indentation. -/
inductive Place where
  | flow
  | block
  | mapping
  deriving DecidableEq

def endsPart : List Token → Bool
  | .key :: _ | .value :: _ | .blockEnd :: _ => true
  | _ => false

def endsItem : List Token → Bool
  | .blockEntry :: _ | .blockEnd :: _ => true
  | _ => false

def endsFlow : List Token → Bool
  | .flowEntry :: _ | .flowSequenceEnd :: _ | .flowMappingEnd :: _ => true
  | _ => false

def afterSeparator (first : Bool) (words : List Token) : Except Fault (List Token) :=
  if first then .ok words
  else match words with
    | .flowEntry :: rest => .ok rest
    | _ => .error .expectedFlowSeparator

mutual

def node (handles : TagHandles) (depth : Nat) (place : Place) (words : List Token) :
    Except Fault (Node String × List Token) :=
  match depth with
  | 0 => .error .tooDeep
  | depth + 1 => do
    if let .aliasTo name :: rest := words then return (.aliasTo (String.ofList name), rest)
    let (p, words) ← Properties.read handles words
    match words with
    | .scalar style text :: rest => return (p.scalar style text, rest)
    | .flowSequenceStart :: rest =>
      let (items, rest) ← flowItems handles depth true rest
      return (.sequence p.anchor p.tag items, rest)
    | .flowMappingStart :: rest =>
      let (entries, rest) ← flowEntries handles depth true rest
      return (.mapping p.anchor p.tag entries, rest)
    | _ =>
      match place, words with
      | .mapping, .blockEntry :: _ =>
        let (items, rest) ← plainItems handles depth words
        return (.sequence p.anchor p.tag items, rest)
      | .block, .blockSequenceStart :: rest | .mapping, .blockSequenceStart :: rest =>
        let (items, rest) ← items handles depth rest
        return (.sequence p.anchor p.tag items, rest)
      | .block, .blockMappingStart :: rest | .mapping, .blockMappingStart :: rest =>
        let (entries, rest) ← entries handles depth rest
        return (.mapping p.anchor p.tag entries, rest)
      | _, _ =>
        let empty ← p.emptyNode
        return (empty, words)

def items (handles : TagHandles) (depth : Nat) (words : List Token) :
    Except Fault (List (Node String) × List Token) :=
  match depth with
  | 0 => .error .tooDeep
  | depth + 1 => do
    match words with
    | .blockEnd :: rest => return ([], rest)
    | .blockEntry :: rest =>
      let (item, rest) ←
        if endsItem rest then .ok (.empty, rest) else node handles depth .block rest
      let (more, rest) ← items handles depth rest
      return (item :: more, rest)
    | _ => throw .expectedEntry

def plainItems (handles : TagHandles) (depth : Nat) (words : List Token) :
    Except Fault (List (Node String) × List Token) :=
  match depth with
  | 0 => .error .tooDeep
  | depth + 1 => do
    match words with
    | .blockEntry :: rest =>
      let (item, rest) ←
        if endsItem rest || endsPart rest then .ok (.empty, rest)
        else node handles depth .block rest
      let (more, rest) ← plainItems handles depth rest
      return (item :: more, rest)
    | _ => return ([], words)

def entries (handles : TagHandles) (depth : Nat) (words : List Token) :
    Except Fault (List (Node String × Node String) × List Token) :=
  match depth with
  | 0 => .error .tooDeep
  | depth + 1 => do
    match words with
    | .blockEnd :: rest => return ([], rest)
    | .key :: rest =>
      let (key, rest) ←
        if endsPart rest then .ok (.empty, rest) else node handles depth .mapping rest
      let (value, rest) ← match rest with
        | .value :: rest =>
          if endsPart rest then .ok (.empty, rest) else node handles depth .mapping rest
        | _ => .ok (.empty, rest)
      let (more, rest) ← entries handles depth rest
      return ((key, value) :: more, rest)
    | _ => throw .expectedKey

def flowValue (handles : TagHandles) (depth : Nat) (words : List Token) :
    Except Fault (Node String × List Token) :=
  match depth with
  | 0 => .error .tooDeep
  | depth + 1 =>
    match words with
    | .value :: rest => if endsFlow rest then .ok (.empty, rest) else node handles depth .flow rest
    | _ => .ok (.empty, words)

/-- The items of a sequence in brackets, up to its end. An item with a key is a mapping with one
entry; if the key is not written, the word in its place is lost. -/
def flowItems (handles : TagHandles) (depth : Nat) (first : Bool) (words : List Token) :
    Except Fault (List (Node String) × List Token) :=
  match depth with
  | 0 => .error .tooDeep
  | depth + 1 => do
    if let .flowSequenceEnd :: rest := words then return ([], rest)
    match ← afterSeparator first words with
    | .flowSequenceEnd :: rest => return ([], rest)
    | .key :: rest =>
      let (key, rest) ← match rest with
        | .value :: rest | .flowEntry :: rest | .flowSequenceEnd :: rest => .ok (.empty, rest)
        | _ => node handles depth .flow rest
      let (value, rest) ← flowValue handles depth rest
      let (more, rest) ← flowItems handles depth false rest
      return (.mapping none none [(key, value)] :: more, rest)
    | words =>
      let (item, rest) ← node handles depth .flow words
      let (more, rest) ← flowItems handles depth false rest
      return (item :: more, rest)

def flowEntries (handles : TagHandles) (depth : Nat) (first : Bool) (words : List Token) :
    Except Fault (List (Node String × Node String) × List Token) :=
  match depth with
  | 0 => .error .tooDeep
  | depth + 1 => do
    if let .flowMappingEnd :: rest := words then return ([], rest)
    match ← afterSeparator first words with
    | .flowMappingEnd :: rest => return ([], rest)
    | .key :: rest =>
      let (key, rest) ← match rest with
        | .value :: _ | .flowEntry :: _ | .flowMappingEnd :: _ => .ok (.empty, rest)
        | _ => node handles depth .flow rest
      let (value, rest) ← flowValue handles depth rest
      let (more, rest) ← flowEntries handles depth false rest
      return ((key, value) :: more, rest)
    | words =>
      let (key, rest) ← node handles depth .flow words
      let (more, rest) ← flowEntries handles depth false rest
      return ((key, .empty) :: more, rest)

end

def readDirectives (version : Bool) (handles : TagHandles) :
    List Token → Except Fault (TagHandles × List Token)
  | .versionDirective major minor :: rest =>
    if version || major ≠ 1 || (minor ≠ 1 && minor ≠ 2) then .error .badVersion
    else readDirectives true handles rest
  | .tagDirective handle expansion :: rest =>
    if handles.any fun h => h.1 == handle then .error .badDirective
    else readDirectives version (handles ++ [(handle, expansion)]) rest
  | rest => .ok (handles, rest)

def endsDocument : List Token → Bool
  | [] | .versionDirective _ _ :: _ | .tagDirective _ _ :: _ | .documentStart :: _
  | .documentEnd :: _ => true
  | _ => false

def ofTokens (words : List Token) : Except Fault (Node String) := do
  -- No more than three calls go by without a word that is read.
  let depth := 4 * (words.length + 1)
  let (root, rest) ← match words with
    | [] => .ok (.empty, [])
    | .versionDirective _ _ :: _ | .tagDirective _ _ :: _ | .documentStart :: _ =>
      let (handles, rest) ← readDirectives false [] words
      match rest with
      | .documentStart :: rest =>
        if endsDocument rest then .ok (.empty, rest)
        else node (handles ++ TagHandles.default) depth .block rest
      | _ => .error .expectedDocumentStart
    | _ => node TagHandles.default depth .block words
  if rest.all (· == .documentEnd) then return root else throw .secondDocument

end Tree

end BrowserPolicy.Yaml
