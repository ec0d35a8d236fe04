namespace BrowserPolicy.Yaml

inductive Fault where
  | forbiddenCharacter
  | missingColon
  | entryNotAllowed
  | keyNotAllowed
  | valueNotAllowed
  | unexpectedCharacter
  | badDirective
  | badVersion
  | badAnchor
  | badTag
  | undefinedTagHandle
  | badBlockHeader
  | tabInIndentation
  | unexpectedColon
  | unterminatedQuote
  | markerInQuote
  | badEscape
  | expectedDocumentStart
  | expectedNode
  | expectedEntry
  | expectedKey
  | expectedFlowSeparator
  | unknownAnchor
  | secondDocument
  | tooDeep
  | tooManyAliases
  | unresolvableScalar
  | unknownTag
  | unexpectedKind
  | unknownField
  | repeatedField
  | missingField
  deriving DecidableEq, Repr

def Fault.text : Fault → String
  | .forbiddenCharacter => "control characters are not allowed"
  | .missingColon => "could not find expected ':'"
  | .entryNotAllowed => "block sequence entries are not allowed in this context"
  | .keyNotAllowed => "mapping keys are not allowed in this context"
  | .valueNotAllowed => "mapping values are not allowed in this context"
  | .unexpectedCharacter => "found character that cannot start any token"
  | .badDirective => "found a malformed directive"
  | .badVersion => "found incompatible document version"
  | .badAnchor => "did not find expected alphabetic or numeric character"
  | .badTag => "found a malformed tag"
  | .undefinedTagHandle => "found undefined tag handle"
  | .badBlockHeader => "found a malformed block scalar header"
  | .tabInIndentation => "found a tab character that violates indentation"
  | .unexpectedColon => "found unexpected ':'"
  | .unterminatedQuote => "found unexpected end of stream"
  | .markerInQuote => "found unexpected document indicator"
  | .badEscape => "found a malformed escape sequence"
  | .expectedDocumentStart => "did not find expected document start"
  | .expectedNode => "did not find expected node content"
  | .expectedEntry => "did not find expected '-' indicator"
  | .expectedKey => "did not find expected key"
  | .expectedFlowSeparator => "did not find expected ',' or closing bracket"
  | .unknownAnchor => "unknown anchor"
  | .secondDocument => "more than one document"
  | .tooDeep => "recursion limit exceeded"
  | .tooManyAliases => "repetition limit exceeded"
  | .unresolvableScalar => "scalar does not fit its type"
  | .unknownTag => "tag is not supported here"
  | .unexpectedKind => "unexpected kind of node"
  | .unknownField => "unknown field"
  | .repeatedField => "repeated field"
  | .missingField => "missing field"

end BrowserPolicy.Yaml
