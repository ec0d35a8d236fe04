import BrowserPolicy.Http.HeaderValue
import BrowserPolicy.Http.Target

namespace BrowserPolicy.Http

structure Request where
  method : String
  path : String
  headers : List HeaderField
  body : String

def isTokenChar (c : Char) : Bool :=
  c.isAlphanum || "!#$%&'*+-.^_\x60|~".toList.contains c

def isMethod (s : String) : Bool :=
  !s.toList.isEmpty && s.toList.all isTokenChar

def Request.ofLine? (method target body : String) : Option Request :=
  if isMethod method then
    (Target.pathOf? target).map fun path => ⟨method, path, [], body⟩
  else none

structure Response where
  status : Nat
  headers : List HeaderField
  body : String
  deriving DecidableEq

namespace Response

def values (r : Response) (name : String) : List HeaderValue :=
  (r.headers.filter fun f => f.name == name).map HeaderField.value

def set (r : Response) (field : HeaderField) : Response :=
  { r with headers := (r.headers.filter fun f => f.name != field.name) ++ [field] }

/-- Sets fields one after the other, so that of two with one name the later counts. -/
def setAll (r : Response) (fields : List HeaderField) : Response :=
  fields.foldl set r

def sortedHeaders (r : Response) : List HeaderField :=
  r.headers.mergeSort fun f g => decide (f.name ≤ g.name)

end Response

inductive Methods where
  | any
  -- Only `GET`, and `HEAD` without the body.
  | get
  deriving DecidableEq, Repr

structure Route where
  path : String
  methods : Methods
  response : Response

namespace Response

def withLength (r : Response) : Response :=
  if r.headers.any fun f => f.name == "content-length" then r
  else { r with headers := r.headers ++ [⟨"content-length", .ofNat r.body.utf8ByteSize⟩] }

def notFound : Response :=
  ⟨404, [], ""⟩

def methodNotAllowed : Response :=
  ⟨405, [⟨"allow", ⟨"GET,HEAD", by decide +kernel⟩⟩], ""⟩

end Response

def Route.answer (route : Route) (method : String) : Response :=
  match route.methods with
  | .any => route.response.withLength
  | .get =>
    if method = "GET" then route.response.withLength
    else if method = "HEAD" then { route.response.withLength with body := "" }
    else Response.methodNotAllowed.withLength

def answer (routes : List Route) (request : Request) : Response :=
  match routes.find? fun route => route.path == request.path with
  | some route => route.answer request.method
  | none => Response.notFound.withLength

def layer (service : Request → Response) (fields : List HeaderField) : Request → Response :=
  fun request => (service request).setAll fields

end BrowserPolicy.Http
