import BrowserPolicy.Dialect
import BrowserPolicy.Yaml.Fault

namespace BrowserPolicy

inductive SystemError where
  | noSuchFile
  | permissionDenied
  | isDirectory
  | addressInUse
  | addressNotAvailable
  | other (text : String)
  deriving DecidableEq, Repr

def SystemError.text : SystemError → String
  | .noSuchFile => "No such file or directory (os error 2)"
  | .permissionDenied => "Permission denied (os error 13)"
  | .isDirectory => "Is a directory (os error 21)"
  | .addressInUse => "Address already in use (os error 98)"
  | .addressNotAvailable => "Cannot assign requested address (os error 99)"
  | .other text => text

inductive ReadFault where
  | system (cause : SystemError)
  | notText
  deriving DecidableEq, Repr

def ReadFault.text : ReadFault → String
  | .system cause => cause.text
  | .notText => "stream did not contain valid UTF-8"

inductive KeywordForm where
  | bare
  | singleQuoted
  deriving DecidableEq, Repr

def KeywordForm.demand : KeywordForm → String
  | .bare => "not be quoted"
  | .singleQuoted => "be quoted"

inductive ConfigFault where
  | unreadable (cause : ReadFault)
  | invalidYaml (cause : Yaml.Fault)
  | unsupportedVersion (version : UInt32)
  | noPolicies
  | repeatedDialect (dialect : Dialect)
  | badListenAddress
  | other (detail : String)
  deriving DecidableEq, Repr

def ConfigFault.pieces : ConfigFault → List String
  | .unreadable cause => ["read config failed: ", cause.text]
  | .invalidYaml cause => ["invalid yaml: ", cause.text]
  | .unsupportedVersion version => ["unsupported config version: ", Nat.repr version.toNat]
  | .noPolicies => ["policies must not be empty"]
  | .repeatedDialect dialect => ["duplicate policy for dialect: ", dialect.name]
  | .badListenAddress =>
    ["gateway.listen must be a socket address: invalid socket address syntax"]
  | .other detail => [detail]

def ConfigFault.detail (fault : ConfigFault) : String := String.join fault.pieces

inductive ErrorCode where
  | invalidShape
  | noFeatures
  | unsupportedFeature
  | invalidValueType
  | duplicateValue
  | keywordQuoting
  | unquotedValue
  | exclusiveValueMixed
  | emptyHeader
  | invalidHeader
  | config
  deriving DecidableEq, Repr

def ErrorCode.name : ErrorCode → String
  | .invalidShape => "INVALID_SHAPE"
  | .noFeatures => "NO_FEATURES"
  | .unsupportedFeature => "UNSUPPORTED_FEATURE"
  | .invalidValueType => "INVALID_VALUE_TYPE"
  | .duplicateValue => "DUPLICATE_VALUE"
  | .keywordQuoting => "KEYWORD_QUOTING"
  | .unquotedValue => "UNQUOTED_VALUE"
  | .exclusiveValueMixed => "EXCLUSIVE_VALUE_MIXED"
  | .emptyHeader => "EMPTY_HEADER"
  | .invalidHeader => "INVALID_HEADER"
  | .config => "CONFIG"

inductive PolicyError where
  | notAnObject
  | featuresNotAnObject
  | noFeatures
  | unsupportedFeature (feature : String)
  | notAnArray (feature : String)
  | nonString (feature : String)
  | duplicate (feature : String)
  | misquotedKeyword (keyword : String) (required : KeywordForm)
  | unquoted (token : String)
  | mixed (feature keyword : String)
  | emptyHeader
  | invalidHeader (detail : String)
  | config (fault : ConfigFault)
  deriving DecidableEq, Repr

namespace PolicyError

def code : PolicyError → ErrorCode
  | notAnObject | featuresNotAnObject => .invalidShape
  | noFeatures => .noFeatures
  | unsupportedFeature _ => .unsupportedFeature
  | notAnArray _ | nonString _ => .invalidValueType
  | duplicate _ => .duplicateValue
  | misquotedKeyword _ _ => .keywordQuoting
  | unquoted _ => .unquotedValue
  | mixed _ _ => .exclusiveValueMixed
  | emptyHeader => .emptyHeader
  | invalidHeader _ => .invalidHeader
  | config _ => .config

def aboutValue (feature : String) (fault : List String) : List String :=
  "the value of the \"" :: feature :: "\" feature " :: fault

def pieces : PolicyError → List String
  | notAnObject => ["policy options must be an object"]
  | featuresNotAnObject =>
    ["policy options must have a single key, \"features\", which is an object of features"]
  | noFeatures => ["at least one feature is required"]
  | unsupportedFeature feature => ["the \"", feature, "\" feature is not supported"]
  | notAnArray feature => aboutValue feature ["must be an array of strings"]
  | nonString feature => aboutValue feature ["contains a non-string, which is not supported"]
  | duplicate feature => aboutValue feature ["contains duplicates"]
  | misquotedKeyword keyword required => [keyword, " must ", required.demand]
  | unquoted token => ["values beside reserved keywords must be quoted: ", token]
  | mixed feature keyword =>
    aboutValue feature ["cannot contain ", keyword, " and other values"]
  | emptyHeader => ["no features produced output"]
  | invalidHeader detail => ["invalid header value: ", detail]
  | config fault => ["config: ", fault.detail]

def message (e : PolicyError) : String := String.join e.pieces

end PolicyError

end BrowserPolicy
