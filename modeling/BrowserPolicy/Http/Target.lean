namespace BrowserPolicy.Http.Target

def maxOctets : Nat := 65534

def isPathChar (c : Char) : Bool :=
  let n := c.toNat
  n == 0x21 || n == 0x22 || (0x24 ≤ n && n ≤ 0x3B) || n == 0x3D || (0x40 ≤ n && n ≤ 0x5F) ||
    0x61 ≤ n

def isQueryChar (c : Char) : Bool :=
  let n := c.toNat
  n == 0x21 || (0x24 ≤ n && n ≤ 0x3B) || n == 0x3D || 0x3F ≤ n

def isAuthorityChar (c : Char) : Bool :=
  c.isAlphanum || "!$&'()*+,-.;=_~".toList.contains c

def isSchemeChar (c : Char) : Bool :=
  c.isAlphanum || "+-.~".toList.contains c

def path? (s : List Char) : Option (List Char) :=
  let (path, rest) := s.span fun c => c != '?' && c != '#'
  if !path.all isPathChar then none
  else match rest with
    | '?' :: query =>
      if (query.takeWhile (· != '#')).all isQueryChar then some path else none
    | _ => some path

/-- What has been seen of an authority: colons since the last at sign or bracket, brackets, and
whether a percent sign stands in the host. -/
structure AuthorityScan where
  colons : Nat := 0
  opened : Bool := false
  closed : Bool := false
  percent : Bool := false
  endsInAt : Bool := false

namespace AuthorityScan

def step (a : AuthorityScan) (c : Char) : Option AuthorityScan :=
  let a := { a with endsInAt := false }
  -- A long address in brackets has at most eight colons.
  if c = ':' then if 8 ≤ a.colons then none else some { a with colons := a.colons + 1 }
  else if c = '[' then if a.percent || a.opened then none else some { a with opened := true }
  else if c = ']' then
    if !a.opened || a.closed then none
    else some { a with closed := true, colons := 0, percent := false }
  else if c = '@' then some { a with endsInAt := true, colons := 0, percent := false }
  else if c = '%' then some { a with percent := true }
  else if isAuthorityChar c then some a
  else none

def isComplete (a : AuthorityScan) : Bool :=
  a.opened == a.closed && a.colons ≤ 1 && !a.endsInAt && !a.percent

end AuthorityScan

def isAuthority (s : List Char) : Bool :=
  match s.foldlM AuthorityScan.step {} with
  | some a => a.isComplete
  | none => false

def maxScheme : Nat := 64

def splitScheme? (s : List Char) : Option (List Char × List Char) :=
  match s.span isSchemeChar with
  | (scheme, ':' :: '/' :: '/' :: rest) => if 3 < s.length then some (scheme, rest) else none
  | _ => none

/-- The path that a target names: its own for a path or for a full address, none for the name of a
host alone. -/
def pathOf? (target : String) : Option String :=
  let s := target.toList
  if maxOctets < target.utf8ByteSize then none
  else match s with
    | [] => none
    | ['*'] => some "*"
    | '/' :: _ => (path? s).map String.ofList
    | _ =>
      match splitScheme? s with
      -- A host alone has no path at all, an address without one has the root.
      | none => if isAuthority s then some "" else none
      | some (scheme, rest) =>
        let (authority, rest) := rest.span fun c => c != '/' && c != '?' && c != '#'
        if maxScheme < scheme.length || authority.isEmpty || !isAuthority authority then none
        else (path? rest).map fun path => if path.isEmpty then "/" else String.ofList path

end BrowserPolicy.Http.Target
