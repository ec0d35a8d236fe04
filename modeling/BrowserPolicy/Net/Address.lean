import BrowserPolicy.Number

namespace BrowserPolicy.Net

structure Ipv4 where
  a : UInt8
  b : UInt8
  c : UInt8
  d : UInt8
  deriving DecidableEq, Repr

structure Ipv6 where
  groups : List UInt16
  length_groups : groups.length = 8
  deriving DecidableEq, Repr

inductive SocketAddress where
  | v4 (ip : Ipv4) (port : UInt16)
  | v6 (ip : Ipv6) (scope : UInt32) (port : UInt16)
  deriving DecidableEq, Repr

namespace Ipv4

def text (ip : Ipv4) : String :=
  ".".intercalate ([ip.a, ip.b, ip.c, ip.d].map fun n => Nat.repr n.toNat)

end Ipv4

namespace Ipv6

def groupsText (groups : List UInt16) : String :=
  ":".intercalate (groups.map fun g => String.ofList (Number.hex g.toNat))

def leadingZeros (groups : List UInt16) : Nat :=
  (groups.takeWhile (· == 0)).length

def longestZeroRun (groups : List UInt16) : Nat × Nat :=
  (List.range groups.length).foldl (fun best i =>
    let n := leadingZeros (groups.drop i)
    if best.2 < n then (i, n) else best) (0, 0)

def mapped? (ip : Ipv6) : Option Ipv4 :=
  match ip.groups with
  | [0, 0, 0, 0, 0, 0xFFFF, hi, lo] =>
    some ⟨(hi >>> 8).toUInt8, hi.toUInt8, (lo >>> 8).toUInt8, lo.toUInt8⟩
  | _ => none

/-- The groups, the first longest run of two or more zeros left out; a mapped address ends in its
short form. -/
def text (ip : Ipv6) : String :=
  match ip.mapped? with
  | some v4 => "::ffff:" ++ v4.text
  | none =>
    -- A single zero is written out, since two colons are no shorter.
    let run := longestZeroRun ip.groups
    if run.2 ≤ 1 then groupsText ip.groups
    else groupsText (ip.groups.take run.1) ++ "::" ++ groupsText (ip.groups.drop (run.1 + run.2))

end Ipv6

namespace SocketAddress

def port : SocketAddress → UInt16
  | v4 _ port => port
  | v6 _ _ port => port

def isV6 : SocketAddress → Bool
  | v4 _ _ => false
  | v6 _ _ _ => true

def text : SocketAddress → String
  | v4 ip port => ip.text ++ ":" ++ Nat.repr port.toNat
  | v6 ip scope port =>
    let zone := if scope = 0 then "" else "%" ++ Nat.repr scope.toNat
    "[" ++ ip.text ++ zone ++ "]:" ++ Nat.repr port.toNat

end SocketAddress

end BrowserPolicy.Net
