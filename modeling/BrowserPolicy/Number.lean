namespace BrowserPolicy.Number

def hex (n : Nat) : List Char :=
  Nat.toDigits 16 n

def decimalDigit? (c : Char) : Option Nat :=
  if c.isDigit then some (c.toNat - '0'.toNat) else none

def hexDigit? (c : Char) : Option Nat :=
  if c.isDigit then some (c.toNat - '0'.toNat)
  else if 'a' ≤ c ∧ c ≤ 'f' then some (c.toNat - 'a'.toNat + 10)
  else if 'A' ≤ c ∧ c ≤ 'F' then some (c.toNat - 'A'.toNat + 10)
  else none

def digit? (radix : Nat) (c : Char) : Option Nat :=
  (hexDigit? c).filter (· < radix)

def ofDigits (radix : Nat) (digits : List Nat) : Nat :=
  digits.foldl (fun n d => n * radix + d) 0

def read? (radix : Nat) (s : List Char) : Option Nat :=
  if s.isEmpty then none
  else (s.mapM (digit? radix)).map (ofDigits radix)

def roundHalfEven (num den : Nat) : Nat :=
  let q := num / den
  let r := num % den
  if 2 * r < den then q
  else if den < 2 * r then q + 1
  else if q % 2 = 0 then q
  else q + 1

/-- The bits of the magnitude nearest to `num / den`. The number is `m * 2 ^ e` where `m` is below
`2 ^ 53` and `e` is at least -1074, so that bits count up evenly from one number to the next. -/
def magnitudeBits (num den : Nat) : Nat :=
  if num = 0 then 0
  else
    -- The binary logarithm of the quotient, rounded down, or one more than that.
    let estimate : Int := (num.log2 : Int) - (den.log2 : Int)
    let below := if 0 ≤ estimate then num < den <<< estimate.toNat
      else num <<< (-estimate).toNat < den
    let top := if below then estimate - 1 else estimate
    -- Below the normal numbers the exponent stays where it is and `m` gets shorter.
    let e := max (top - 52) (-1074)
    let m := if 0 ≤ e then roundHalfEven num (den <<< e.toNat)
      else roundHalfEven (num <<< (-e).toNat) den
    -- The first bit of `m` adds one to the exponent, and a carry from rounding one more.
    ((e + 1074).toNat <<< 52) + m

def infinityBits : Nat := 2047 <<< 52

end BrowserPolicy.Number

namespace BrowserPolicy

structure Binary64 where
  bits : UInt64
  deriving DecidableEq, Repr

namespace Binary64

def ofRatio? (negative : Bool) (num den : Nat) : Option Binary64 :=
  let magnitude := Number.magnitudeBits num den
  if magnitude < Number.infinityBits then
    some ⟨(if negative then (1 <<< 63) + magnitude else magnitude).toUInt64⟩
  else none

end Binary64

end BrowserPolicy

namespace BrowserPolicy.Number

structure Decimal where
  negative : Bool
  mantissa : Nat
  exponent : Int
  deriving DecidableEq, Repr

def takeSign : List Char → Bool × List Char
  | '-' :: rest => (true, rest)
  | '+' :: rest => (false, rest)
  | s => (false, s)

def takeDigits (s : List Char) : List Char × List Char :=
  s.span Char.isDigit

namespace Decimal

def readExponent? : List Char → Option Int
  | [] => some 0
  | c :: rest =>
    if c = 'e' ∨ c = 'E' then
      let (negative, digits) := takeSign rest
      (read? 10 digits).map fun n => if negative then -(n : Int) else n
    else none

def parse? (s : List Char) : Option Decimal :=
  let (negative, s) := takeSign s
  let (whole, s) := takeDigits s
  let (fraction, s) := match s with
    | '.' :: rest => takeDigits rest
    | s => ([], s)
  match read? 10 (whole ++ fraction), readExponent? s with
  | some mantissa, some exponent => some ⟨negative, mantissa, exponent - fraction.length⟩
  | _, _ => none

/-- The finite binary number nearest to the decimal, if there is one. An exponent that is far out of
range decides alone. -/
def toBinary64? (d : Decimal) : Option Binary64 :=
  -- The decimal lies below `10 ^ size` and, if it is not zero, not below a tenth of that.
  let size : Int := (Nat.repr d.mantissa).length + d.exponent
  if d.mantissa = 0 ∨ size < -330 then Binary64.ofRatio? d.negative 0 1
  else if 310 < size then none
  else if 0 ≤ d.exponent then
    Binary64.ofRatio? d.negative (d.mantissa * Nat.pow 10 d.exponent.toNat) 1
  else Binary64.ofRatio? d.negative d.mantissa (Nat.pow 10 (-d.exponent).toNat)

end Decimal

end BrowserPolicy.Number
