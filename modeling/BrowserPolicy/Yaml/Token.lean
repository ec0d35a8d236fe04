import BrowserPolicy.Number
import BrowserPolicy.Yaml.Character
import BrowserPolicy.Yaml.Fault
import BrowserPolicy.Yaml.Scalar.Block

namespace BrowserPolicy.Yaml

inductive ScalarStyle where
  | plain
  | quoted
  | literal
  | folded
  deriving DecidableEq, Repr

/-- A word of a YAML text. Some words are not written: where a block collection starts and ends is
told by indentation, and that a key comes is told by the colon after it. -/
inductive Token where
  | versionDirective (major minor : Nat)
  | tagDirective (handle : List Char) (expansion : List UInt8)
  | documentStart
  | documentEnd
  | blockSequenceStart
  | blockMappingStart
  | blockEnd
  | flowSequenceStart
  | flowSequenceEnd
  | flowMappingStart
  | flowMappingEnd
  | flowEntry
  | blockEntry
  | key
  | value
  | aliasTo (name : List Char)
  | anchor (name : List Char)
  | tag (handle : List Char) (suffix : List UInt8)
  | scalar (style : ScalarStyle) (text : List Char)
  deriving DecidableEq, Repr

end BrowserPolicy.Yaml

namespace BrowserPolicy.Yaml.Token

def isUriChar (verbatim : Bool) (c : Char) : Bool :=
  isNameChar c || ";/?:@&=+$.!~*'()".toList.contains c ||
    (verbatim && (c == ',' || c == '[' || c == ']'))

def octetsOwed? (octet : Nat) : Option Nat :=
  if octet < 0x80 then some 0
  else if 0xC0 ≤ octet && octet < 0xE0 then some 1
  else if 0xE0 ≤ octet && octet < 0xF0 then some 2
  else if 0xF0 ≤ octet && octet < 0xF8 then some 3
  else none

def readUri (verbatim : Bool) (owed : Nat) : List Char → Except Fault (List UInt8 × List Char)
  | [] => if owed = 0 then .ok ([], []) else .error .badTag
  | '%' :: a :: b :: rest =>
    match Number.hexDigit? a, Number.hexDigit? b with
    | some high, some low =>
      -- Inside a character an octet must be one that goes on with it.
      let octet := 16 * high + low
      let next := if owed = 0 then octetsOwed? octet
        else if 0x80 ≤ octet && octet < 0xC0 then some (owed - 1) else none
      match next with
      | some next =>
        (readUri verbatim next rest).map fun (more, rest) => (octet.toUInt8 :: more, rest)
      | none => .error .badTag
    | _, _ => .error .badTag
  | c :: rest =>
    if 0 < owed || c == '%' then .error .badTag
    else if isUriChar verbatim c then
      (readUri verbatim 0 rest).map fun (more, rest) => (c.toNat.toUInt8 :: more, rest)
    else .ok ([], c :: rest)

def readUri1 (verbatim : Bool) (s : List Char) : Except Fault (List UInt8 × List Char) :=
  match readUri verbatim 0 s with
  | .ok ([], _) => .error .badTag
  | r => r

def beforeZero (octets : List UInt8) : List UInt8 :=
  octets.takeWhile (· != 0)

def readHandle (s : List Char) : List Char × Bool × List Char :=
  let (name, rest) := s.span isNameChar
  match rest with
  | '!' :: rest => (name, true, rest)
  | rest => (name, false, rest)

/-- Reads a tag after its first mark, without looking at what follows it: in angle brackets, with a
handle between two marks, or with the single mark as its handle. The mark alone is a tag too. -/
def readTagBody : List Char → Except Fault (Token × List Char)
  | '<' :: s =>
    match readUri1 true s with
    | .ok (uri, '>' :: rest) => .ok (.tag [] (beforeZero uri), rest)
    | .ok _ => .error .badTag
    | .error fault => .error fault
  | s =>
    let (name, closed, rest) := readHandle s
    if closed then
      (readUri1 false rest).map fun (suffix, rest) =>
        (.tag ('!' :: name ++ ['!']) (beforeZero suffix), rest)
    else
      (readUri false 0 rest).map fun (more, rest) =>
        match name.map (fun c => c.toNat.toUInt8) ++ beforeZero more with
        | [] => (.tag [] ['!'.toNat.toUInt8], rest)
        | suffix => (.tag ['!'] suffix, rest)

def readTag (inFlow : Bool) (s : List Char) : Except Fault (Token × List Char) :=
  match readTagBody s with
  | .error fault => .error fault
  | .ok (token, rest) =>
    if (inFlow && rest.head? == some ',') || atSpacing rest then .ok (token, rest)
    else .error .badTag

def readName (make : List Char → Token) (s : List Char) : Except Fault (Token × List Char) :=
  let (name, rest) := s.span isNameChar
  let ends := atSpacing rest || rest.head?.any fun c => "?:,]\x7d%@\x60".toList.contains c
  if name.isEmpty || !ends then .error .badAnchor else .ok (make name, rest)

def maxVersionDigits : Nat := 9

def readVersionNumber (s : List Char) : Except Fault (Nat × List Char) :=
  let (digits, rest) := s.span Char.isDigit
  match Number.read? 10 digits with
  | some n => if digits.length ≤ maxVersionDigits then .ok (n, rest) else .error .badDirective
  | none => .error .badDirective

def readVersion (s : List Char) : Except Fault (Token × List Char) :=
  match readVersionNumber (s.dropWhile isBlank) with
  | .ok (major, '.' :: rest) =>
    (readVersionNumber rest).map fun (minor, rest) => (.versionDirective major minor, rest)
  | .ok _ => .error .badDirective
  | .error fault => .error fault

def readTagDirective (s : List Char) : Except Fault (Token × List Char) :=
  match s.dropWhile isBlank with
  | '!' :: s =>
    let (name, closed, rest) := readHandle s
    let handle := '!' :: name ++ (if closed then ['!'] else [])
    if (!closed && !name.isEmpty) || !(rest.head?.any isBlank) then .error .badDirective
    else match readUri1 true (rest.dropWhile isBlank) with
      | .ok (expansion, rest) =>
        if atSpacing rest then .ok (.tagDirective handle (beforeZero expansion), rest)
        else .error .badDirective
      | .error fault => .error fault
  | _ => .error .badDirective

def readDirective (s : List Char) : Except Fault (Token × List Char) := do
  let (name, rest) := s.span isNameChar
  if !atSpacing rest then throw .badDirective
  let (token, rest) ← match String.ofList name with
    | "YAML" => readVersion rest
    | "TAG" => readTagDirective rest
    | _ => throw .badDirective
  let rest := Block.skipComment rest
  if atLineEnd rest then .ok (token, afterBreak rest) else .error .badDirective

end BrowserPolicy.Yaml.Token
