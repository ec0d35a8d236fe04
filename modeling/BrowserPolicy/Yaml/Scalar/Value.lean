import BrowserPolicy.Number
import BrowserPolicy.Value
import BrowserPolicy.Yaml.Fault
import BrowserPolicy.Yaml.Node

namespace BrowserPolicy.Yaml.Scalar

def isNull (s : List Char) : Bool :=
  s.isEmpty || ["null", "Null", "NULL", "~"].contains (String.ofList s)

def bool? (s : List Char) : Option Bool :=
  if ["true", "True", "TRUE"].contains (String.ofList s) then some true
  else if ["false", "False", "FALSE"].contains (String.ofList s) then some false
  else none

def hasSign (s : List Char) : Bool :=
  s.head? == some '+' || s.head? == some '-'

def isPaddedDigits (s : List Char) : Bool :=
  match if hasSign s then s.drop 1 else s with
  | '0' :: d :: rest => (d :: rest).all Char.isDigit
  | _ => false

def radixDigits? : List Char → Option Nat
  | '0' :: 'x' :: digits => Number.read? 16 digits
  | '0' :: 'o' :: digits => Number.read? 8 digits
  | '0' :: 'b' :: digits => Number.read? 2 digits
  | _ => none

def magnitude? (s : List Char) : Option Nat :=
  (radixDigits? s).or (if isPaddedDigits s then none else Number.read? 10 s)

def unsigned? : List Char → Option Nat
  | '+' :: s => magnitude? s
  | s => magnitude? s

def int? : List Char → Option Int
  | '-' :: s => (magnitude? s).map fun n => -(n : Int)
  | s => (unsigned? s).map fun n => (n : Int)

def float? (s : List Char) : Option (Option Binary64) :=
  let unsigned := match s with
    | '+' :: rest => rest
    | s => s
  if s.head? == some '+' && hasSign unsigned then none
  else if [".inf", ".Inf", ".INF"].contains (String.ofList unsigned) ||
      ["-.inf", "-.Inf", "-.INF", ".nan", ".NaN", ".NAN"].contains (String.ofList s) then some none
  else ((Number.Decimal.parse? unsigned).bind Number.Decimal.toBinary64?).map some

def floatValue : Option Binary64 → Value
  | some x => .float x
  | none => .null

def intValue? (i : Int) : Option Value :=
  if -(1 <<< 63) ≤ i ∧ i < 1 <<< 64 then some (.int i) else none

def int128? (s : List Char) : Option Int :=
  (int? s).filter fun i => -(1 <<< 127) ≤ i && i < 1 <<< 128

/-- The value that a plain text stands for. A longer integer is an error, and a still longer one
may be a number that is no integer. -/
def plainValue (s : List Char) : Except Fault Value :=
  if isNull s then .ok .null
  else match bool? s with
    | some b => .ok (.bool b)
    | none =>
      match int128? s with
      | some i =>
        match intValue? i with
        | some v => .ok v
        | none => .error .unresolvableScalar
      -- What is no integer of that size may still be a number, and else it is a text.
      | none =>
        match if isPaddedDigits s then none else float? s with
        | some x => .ok (floatValue x)
        | none => .ok (.string (String.ofList s))

def boolTag : Tag := .ofText "tag:yaml.org,2002:bool"

def intTag : Tag := .ofText "tag:yaml.org,2002:int"

def floatTag : Tag := .ofText "tag:yaml.org,2002:float"

def nullTag : Tag := .ofText "tag:yaml.org,2002:null"

def need (v : Option Value) : Except Fault Value :=
  match v with
  | some v => .ok v
  | none => .error .unresolvableScalar

def value (tag : Option Tag) (style : ScalarStyle) (text : String) : Except Fault Value :=
  let s := text.toList
  match tag with
  | none => if style = .plain then plainValue s else .ok (.string text)
  | some t =>
    if t = boolTag then need ((bool? s).map .bool)
    else if t = intTag then need ((int128? s).bind intValue?)
    else if t = floatTag then need ((float? s).map floatValue)
    else if t = nullTag then need (if !s.isEmpty && isNull s then some .null else none)
    -- A tag of one's own names a choice, and values know no choices.
    else if t.octets.head? == some 0x21 then
      if t.localName?.isSome then .error .unknownTag
      else if style = .plain then plainValue s
      else .ok (.string text)
    else .ok (.string text)

end BrowserPolicy.Yaml.Scalar
