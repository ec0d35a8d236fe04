import BrowserPolicy.PolicyError
import BrowserPolicy.Text.CharClass

/-!
The grammar of a header dialect as a record: its keywords, how other tokens are quoted, which feature
names it has and how an entry is put together. The compiler takes any such record.
-/

namespace BrowserPolicy.Grammar

def dashChar (c : Char) : List Char :=
  if c.isUpper then ['-', c.toLower] else [c]

def dashify (key : String) : String :=
  String.ofList (key.toList.flatMap dashChar)

/-- Joins each dash to the lower-case ASCII letter after it. -/
def undashChars : List Char → List Char
  | [] => []
  | [c] => [c]
  | c :: d :: rest =>
    if c = '-' ∧ d.isLower then d.toUpper :: undashChars rest else c :: undashChars (d :: rest)

def undash (key : String) : String :=
  String.ofList (undashChars key.toList)

inductive KeyVocabulary where
  -- Every name, written with dashes.
  | unrestricted
  -- The names of a table of camel-case and dashed spellings; the first row of a name counts.
  | listed (table : List (String × String))
  deriving DecidableEq, Repr

namespace KeyVocabulary

def headerKey? (vocabulary : KeyVocabulary) (key : String) : Option String :=
  match vocabulary with
  | unrestricted => some (dashify key)
  | listed table => (table.find? fun row => row.1 == key).map Prod.snd

def normalize (vocabulary : KeyVocabulary) (key : String) : Except PolicyError String :=
  match vocabulary.headerKey? key with
  | some dashed => .ok dashed
  | none => .error (.unsupportedFeature key)

end KeyVocabulary

@[simp] theorem toList_dashify (key : String) :
    (dashify key).toList = key.toList.flatMap dashChar := by
  simp [dashify]

@[simp] theorem toList_undash (key : String) : (undash key).toList = undashChars key.toList := by
  simp [undash]

def isLineEnd (c : Char) : Bool :=
  c == '\n' || c == '\r' || c == '\u2028' || c == '\u2029'

def isDoubleQuoted (token : String) : Bool :=
  match token.toList with
  | first :: rest =>
    first == '"' && rest.getLast? == some '"' && !rest.any isLineEnd
  | [] => false

def splitsEntry (c : Char) : Bool :=
  Text.isWhiteSpace c || Text.isControl c || c == ';' || c == ',' || c == '"'

def isBareOrigin (token : String) : Bool :=
  !token.toList.isEmpty && !token.toList.any splitsEntry

end BrowserPolicy.Grammar

namespace BrowserPolicy

structure Misquoted where
  form : String
  keyword : String
  required : KeywordForm
  deriving DecidableEq, Repr

inductive ValueWrap where
  -- The form `key=(a b)`.
  | parenthesized
  -- The form `key a b`, with the none keyword for no tokens.
  | bare
  deriving DecidableEq, Repr

structure Grammar where
  reserved : List String
  misquoted : List Misquoted
  keys : Grammar.KeyVocabulary
  quoteRule : String → Bool
  -- Stands alone in its list.
  wildcard : String
  -- Stands alone in its list.
  noneKeyword : String
  entrySeparator : String
  valueSeparator : String
  valueWrap : ValueWrap

namespace Grammar

def isReserved (g : Grammar) (token : String) : Bool :=
  g.reserved.contains token

def misquoted? (g : Grammar) (token : String) : Option Misquoted :=
  g.misquoted.find? fun row => row.form == token

end Grammar

end BrowserPolicy
