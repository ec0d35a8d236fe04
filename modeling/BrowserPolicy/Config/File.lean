import BrowserPolicy.Config.Basic
import BrowserPolicy.Yaml.Reading

namespace BrowserPolicy.Config

open Yaml

def featuresDepth : Nat := 3

def readPolicy (d : Document) (n : Node Nat) : Reading PolicyConfig := do
  let fields ← d.readFields ["dialect", "features"] n
  let dialect ← d.readChoice Dialect.ofName? (← Document.need fields "dialect")
  -- The root, the list of policies and the policy are open here.
  let features ← d.readValue (Document.maxDepth - featuresDepth) (← Document.need fields "features")
  return ⟨dialect, features⟩

def readListen (d : Document) (n : Node Nat) : Reading String := do
  let fields ← d.readFields ["listen"] n
  match fields.get? "listen" with
  | some listen => d.readText listen
  | none => return defaultListen

def readConfig (d : Document) : Reading Config := do
  let fields ← d.readFields ["version", "gateway", "policies"] d.root
  let version ← d.readUInt32 (← Document.need fields "version")
  let listen ← match fields.get? "gateway" with
    | some gateway => readListen d gateway
    | none => pure defaultListen
  let policies ← match fields.get? "policies" with
    | some policies => do (← d.readItems policies).mapM (readPolicy d)
    | none => pure []
  return ⟨version, listen, policies⟩

def ofYaml (text : String) : Except Fault Config := do
  let document ← Document.ofText text
  let (config, _) ← (readConfig document).run 0
  return config

def ofText (text : String) : Except PolicyError Config :=
  match ofYaml text with
  | .ok config => config.validate
  | .error fault => .error (.config (.invalidYaml fault))

def ofFile (contents : Except ReadFault String) : Except PolicyError Config :=
  match contents with
  | .ok text => ofText text
  | .error fault => .error (.config (.unreadable fault))

def textOfOctets (octets : ByteArray) : Except ReadFault String :=
  match String.fromUTF8? octets with
  | some text => .ok text
  | none => .error .notText

end BrowserPolicy.Config
