import BrowserPolicy.Compile
import BrowserPolicy.Config.Basic
import BrowserPolicy.Http.Router

namespace BrowserPolicy

def CompiledPolicy.toField (p : CompiledPolicy) : Except PolicyError Http.HeaderField :=
  match Http.HeaderValue.ofText? p.value with
  | some value => .ok ⟨p.dialect.fieldName, value⟩
  | none => .error (.invalidHeader (p.value ++ ": failed to parse header value"))

def Compilation.toField (c : Compilation) : Except PolicyError Http.HeaderField :=
  match c.outcome with
  | .ok policy => policy.toField
  | .error e => .error e

structure Installation where
  outcome : Except PolicyError (List Http.HeaderField)
  events : List Event

namespace Installation

def ofPolicies : List PolicyConfig → Installation
  | [] => ⟨.ok [], []⟩
  | p :: rest =>
    let compilation := compileFeatures p.dialect p.features
    match compilation.toField with
    | .error e => ⟨.error e, [compilation.event, .compileFailed p.dialect e]⟩
    | .ok field =>
      let later := ofPolicies rest
      ⟨match later.outcome with
        | .ok fields => .ok (field :: fields)
        | .error e => .error e,
        compilation.event :: .installed field :: later.events⟩

end Installation

end BrowserPolicy

namespace BrowserPolicy.Gateway

open Http

def plainText (body : String) : Response :=
  ⟨200, [⟨"content-type", ⟨"text/plain; charset=utf-8", by decide +kernel⟩⟩], body⟩

def routes : List Route :=
  [⟨"/", .get, plainText "Hello world!"⟩, ⟨"/healthz", .get, plainText "ok"⟩]

def service (fields : List HeaderField) : Request → Response :=
  layer (answer routes) fields

end BrowserPolicy.Gateway
