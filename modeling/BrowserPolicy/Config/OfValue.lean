import BrowserPolicy.Config.Basic

/-!
The configuration that a value holds. The shape is strict: an unknown member, a missing one that
has no default, or one of another type refuse the whole value. A record may also be written as the
array of its members in order; trailing members with a default may then be left out.
-/

namespace BrowserPolicy.Config

def membersAmong? (names : List String) : Value → Option (Entries Value)
  | .object members =>
    if members.all fun m => names.contains m.1 then some members else none
  | _ => none

def versionOfValue? : Value → Option UInt32
  | .int i => if 0 ≤ i ∧ i < UInt32.size then some i.toNat.toUInt32 else none
  | _ => none

def textOfValue? : Value → Option String
  | .string s => some s
  | _ => none

/-- A dialect's name, or an object with the name alone and nothing under it. -/
def dialectOfValue? : Value → Option Dialect
  | .string s => Dialect.ofName? s
  | .object [(name, .null)] => Dialect.ofName? name
  | _ => none

def policyOfValue? : Value → Option PolicyConfig
  | .array [dialect, features] => do some ⟨← dialectOfValue? dialect, features⟩
  | .array _ => none
  | v => do
    let members ← membersAmong? ["dialect", "features"] v
    some ⟨← dialectOfValue? (← members.get? "dialect"), ← members.get? "features"⟩

def listenOfValue? : Value → Option String
  | .array [] => some defaultListen
  | .array [listen] => textOfValue? listen
  | .array _ => none
  | v => do
    let members ← membersAmong? ["listen"] v
    match members.get? "listen" with
    | some listen => textOfValue? listen
    | none => some defaultListen

def policiesOfValue? : Value → Option (List PolicyConfig)
  | .array items => items.mapM policyOfValue?
  | _ => none

def ofParts? (version gateway policies : Option Value) : Option Config := do
  let version ← versionOfValue? (← version)
  let listen ← match gateway with
    | some gateway => listenOfValue? gateway
    | none => some defaultListen
  let policies ← match policies with
    | some policies => policiesOfValue? policies
    | none => some []
  some ⟨version, listen, policies⟩

def ofValue? : Value → Option Config
  | .array [version] => ofParts? version none none
  | .array [version, gateway] => ofParts? version gateway none
  | .array [version, gateway, policies] => ofParts? version gateway policies
  | .array _ => none
  | v => do
    let members ← membersAmong? ["version", "gateway", "policies"] v
    ofParts? (members.get? "version") (members.get? "gateway") (members.get? "policies")

end BrowserPolicy.Config
