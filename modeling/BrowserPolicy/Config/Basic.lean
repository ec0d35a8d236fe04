import BrowserPolicy.Net.AddressReader
import BrowserPolicy.PolicyError
import BrowserPolicy.Value

namespace BrowserPolicy

/-- One header to install. The features stay as they were given, so that the compiler tells what is
wrong with them. -/
structure PolicyConfig where
  dialect : Dialect
  features : Value
  deriving Repr

structure Config where
  version : UInt32
  listen : String
  policies : List PolicyConfig
  deriving Repr

namespace Config

def defaultListen : String := "0.0.0.0:8080"

def listenAddress (c : Config) : Except ConfigFault Net.SocketAddress :=
  (Net.SocketAddress.parse? c.listen).elim (.error .badListenAddress) .ok

def repeated? (seen : List Dialect) : List Dialect → Option Dialect
  | [] => none
  | d :: rest => if d ∈ seen then some d else repeated? (d :: seen) rest

/-- The first fault: the version, then a list without policies, then a dialect with two of them,
then the address. -/
def fault? (c : Config) : Option ConfigFault :=
  if c.version ≠ 1 then some (.unsupportedVersion c.version)
  else if c.policies.isEmpty then some .noPolicies
  else match repeated? [] (c.policies.map PolicyConfig.dialect) with
    | some d => some (.repeatedDialect d)
    | none =>
      match c.listenAddress with
      | .ok _ => none
      | .error fault => some fault

def validate (c : Config) : Except PolicyError Config :=
  match c.fault? with
  | none => .ok c
  | some fault => .error (.config fault)

end Config

end BrowserPolicy
