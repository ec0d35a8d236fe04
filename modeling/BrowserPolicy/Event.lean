import BrowserPolicy.Http.HeaderValue
import BrowserPolicy.Net.Address
import BrowserPolicy.PolicyError

namespace BrowserPolicy

inductive StartupFault where
  | policy (cause : PolicyError)
  | bind (cause : SystemError)
  deriving DecidableEq, Repr

def StartupFault.text : StartupFault → String
  | .policy cause => cause.message
  | .bind cause => cause.text

inductive Level where
  | error
  | warn
  | info
  | debug
  | trace
  deriving DecidableEq, Repr

namespace Level

def name : Level → String
  | error => "ERROR"
  | warn => "WARN"
  | info => "INFO"
  | debug => "DEBUG"
  | trace => "TRACE"

def rank : Level → Nat
  | error => 1
  | warn => 2
  | info => 3
  | debug => 4
  | trace => 5

end Level

inductive Event where
  | compiled (dialect : Dialect) (features : Nat)
  | rejected (dialect : Dialect) (features : Nat) (error : PolicyError)
  | installed (field : Http.HeaderField)
  | compileFailed (dialect : Dialect) (error : PolicyError)
  | starting (listen : Net.SocketAddress)
  | failed (fault : StartupFault)
  deriving DecidableEq

structure EventField where
  name : String
  text : String
  quoted : Bool
  deriving DecidableEq, Repr

namespace Event

def level : Event → Level
  | compiled _ _ | rejected _ _ _ => .debug
  | installed _ | starting _ => .info
  | compileFailed _ _ => .warn
  | failed _ => .error

def target : Event → String
  | compiled _ _ | rejected _ _ _ => "fpolicy_core::compiler"
  | installed _ | compileFailed _ _ => "fpolicy_gateway::app_state"
  | starting _ | failed _ => "fpolicy_gateway"

def message : Event → String
  | compiled _ _ => "policy compiled"
  | rejected _ _ _ => "policy rejected"
  | installed _ => "policy header installed"
  | compileFailed _ _ => "policy compile failed"
  | starting _ => "fpolicy-gateway starting"
  | failed _ => "fpolicy-gateway failed"

/-- The details, in the order in which they are reported. No text of a policy is among those of a
successful compilation. -/
def fields : Event → List EventField
  | compiled dialect features =>
    [⟨"dialect", dialect.name, false⟩, ⟨"header", dialect.headerName, true⟩,
      ⟨"features", Nat.repr features, false⟩]
  | rejected dialect features error =>
    [⟨"dialect", dialect.name, false⟩, ⟨"features", Nat.repr features, false⟩,
      ⟨"code", error.code.name, true⟩, ⟨"error", error.message, false⟩]
  | installed field =>
    [⟨"header", field.name, false⟩, ⟨"value", field.value.quoted, false⟩]
  | compileFailed dialect error =>
    [⟨"dialect", dialect.name, false⟩, ⟨"code", error.code.name, true⟩,
      ⟨"error", error.message, false⟩]
  | starting listen => [⟨"listen", listen.text, false⟩]
  | failed fault => [⟨"error", fault.text, false⟩]

def fieldNames (e : Event) : List String :=
  "message" :: e.fields.map EventField.name

end Event

end BrowserPolicy
