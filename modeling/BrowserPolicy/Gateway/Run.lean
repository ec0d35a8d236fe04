import BrowserPolicy.Config.File
import BrowserPolicy.Gateway.Service

/-!
A run of the gateway: read the configuration, install its policies, bind the address, serve. It ends
where the first step fails, and nothing is served without all policies.
-/

namespace BrowserPolicy.Gateway

inductive Ending where
  | serving (fields : List Http.HeaderField)
  | failed (fault : StartupFault)
  deriving DecidableEq

structure Run where
  events : List Event
  ending : Ending

namespace Run

def giveUp (events : List Event) (fault : StartupFault) : Run :=
  ⟨events ++ [.failed fault], .failed fault⟩

def exitCode : Run → Option UInt8
  | ⟨_, .serving _⟩ => none
  | ⟨_, .failed _⟩ => some 1

/-- Runs the gateway on the contents of its configuration file. `bind` is the answer of the system
to the wish to listen on an address. -/
def start (contents : Except ReadFault String)
    (bind : Net.SocketAddress → Except SystemError Unit) : Run :=
  match Config.ofFile contents with
  | .error e => giveUp [] (.policy e)
  | .ok config =>
    -- A sound configuration has an address, so this step cannot fail.
    match config.listenAddress with
    | .error fault => giveUp [] (.policy (.config fault))
    | .ok listen =>
      let installation := Installation.ofPolicies config.policies
      match installation.outcome with
      | .error e => giveUp installation.events (.policy e)
      | .ok fields =>
        -- The start is reported before the address is bound.
        let events := installation.events ++ [.starting listen]
        match bind listen with
        | .error e => giveUp events (.bind e)
        | .ok () => ⟨events, .serving fields⟩

end Run

end BrowserPolicy.Gateway
