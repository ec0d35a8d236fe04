import BrowserPolicy.Net.Address

namespace BrowserPolicy.Net

abbrev Reader (α : Type) := List Char → Option (α × List Char)

def readChar (c : Char) : Reader Unit
  | [] => none
  | d :: rest => if d = c then some ((), rest) else none

def separated {α : Type} (separator : Char) (first : Bool) (item : Reader α) : Reader α := fun s =>
  if first then item s
  else do
    let ((), rest) ← readChar separator s
    item rest

structure NumberForm where
  radix : Nat
  digit? : Char → Option Nat
  -- The most digits it may have, if there is a limit.
  maxDigits : Option Nat
  -- More than one digit may begin with zero.
  leadingZero : Bool
  -- The value lies below this bound.
  bound : Nat

def NumberForm.octet : NumberForm := ⟨10, Number.decimalDigit?, some 3, false, UInt8.size⟩

def NumberForm.group : NumberForm := ⟨16, Number.hexDigit?, some 4, true, UInt16.size⟩

def NumberForm.port : NumberForm := ⟨10, Number.decimalDigit?, none, true, UInt16.size⟩

def NumberForm.zone : NumberForm := ⟨10, Number.decimalDigit?, none, true, UInt32.size⟩

def readNumber (form : NumberForm) : Reader Nat := fun s =>
  let digits := s.takeWhile fun c => (form.digit? c).isSome
  let n := Number.ofDigits form.radix (digits.filterMap form.digit?)
  let fits := match form.maxDigits with
    | some most => digits.length ≤ most
    | none => true
  let zeroOk := form.leadingZero || digits.length ≤ 1 || digits.head? != some '0'
  if !digits.isEmpty && fits && zeroOk && n < form.bound then some (n, s.drop digits.length)
  else none

def readIpv4 : Reader Ipv4 := fun s => do
  let (a, s) ← readNumber .octet s
  let (b, s) ← separated '.' false (readNumber .octet) s
  let (c, s) ← separated '.' false (readNumber .octet) s
  let (d, s) ← separated '.' false (readNumber .octet) s
  some (⟨a.toUInt8, b.toUInt8, c.toUInt8, d.toUInt8⟩, s)

/-- Up to `room` groups with colons. A short address may stand for the last two; the flag tells that
it does. -/
def readGroups (room : Nat) (first : Bool) (s : List Char) : List UInt16 × Bool × List Char :=
  match room with
  | 0 => ([], false, s)
  | room + 1 =>
    -- A short address takes the room of two groups.
    let embedded := if room = 0 then none else separated ':' first readIpv4 s
    match embedded with
    | some (ip, rest) =>
      ([ip.a.toUInt16 <<< 8 ||| ip.b.toUInt16, ip.c.toUInt16 <<< 8 ||| ip.d.toUInt16], true, rest)
    | none =>
      match separated ':' first (readNumber .group) s with
      | some (g, rest) =>
        let (groups, short, rest) := readGroups room false rest
        (g.toUInt16 :: groups, short, rest)
      | none => ([], false, s)

def readIpv6 : Reader Ipv6 := fun s => do
  let (head, short, rest) := readGroups 8 true s
  if h : head.length = 8 then some (⟨head, h⟩, rest)
  -- Nothing may come after a short address.
  else if short then none
  else
    let ((), rest) ← readChar ':' rest
    let ((), rest) ← readChar ':' rest
    -- The double colon stands for one group at least.
    let (tail, _, rest) := readGroups (7 - head.length) true rest
    let groups := head ++ List.replicate (8 - head.length - tail.length) 0 ++ tail
    if h : groups.length = 8 then some (⟨groups, h⟩, rest) else none

def readPort : Reader UInt16 := fun s => do
  let (port, rest) ← separated ':' false (readNumber .port) s
  some (port.toUInt16, rest)

def readZone : Reader UInt32 := fun s =>
  match separated '%' false (readNumber .zone) s with
  | some (zone, rest) => some (zone.toUInt32, rest)
  | none => some (0, s)

def readSocketV4 : Reader SocketAddress := fun s => do
  let (ip, s) ← readIpv4 s
  let (port, s) ← readPort s
  some (.v4 ip port, s)

def readSocketV6 : Reader SocketAddress := fun s => do
  let ((), s) ← readChar '[' s
  let (ip, s) ← readIpv6 s
  let (scope, s) ← readZone s
  let ((), s) ← readChar ']' s
  let (port, s) ← readPort s
  some (.v6 ip scope port, s)

def whole? {α : Type} : Option (α × List Char) → Option α
  | some (a, []) => some a
  | _ => none

def SocketAddress.parse? (s : String) : Option SocketAddress :=
  whole? ((readSocketV4 s.toList).or (readSocketV6 s.toList))

end BrowserPolicy.Net
