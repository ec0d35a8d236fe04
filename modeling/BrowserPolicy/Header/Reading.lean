import BrowserPolicy.Entries
import BrowserPolicy.Grammar.Basic
import BrowserPolicy.Grammar.Builtin

/-!
Reading headers back. In the older dialect semicolons separate the features and single spaces the
words of one; in the newer dialect nothing inside a string is punctuation.
-/

namespace BrowserPolicy.Header.Legacy

def featureOfKey? (key : String) : Option String :=
  (Grammar.legacyFeatures.find? fun row => row.2 == key).map Prod.fst

def words (entry : List Char) : List String :=
  (entry.splitOn ' ').map String.ofList

def keys? (value : String) : Option (List String) :=
  (value.toList.splitOn ';').mapM fun entry => (words entry).head?

def readFeature? (entry : List Char) : Option (String × List String) :=
  match words entry with
  | [] => none
  | key :: tokens => (featureOfKey? key).map fun feature => (feature, tokens)

/-- The features of a header with their tokens, in order. A feature that allows nothing has the
keyword for nothing as its token. -/
def read? (value : String) : Option (Entries (List String)) :=
  (value.toList.splitOn ';').mapM readFeature?

/-- Every feature is found under its dashed spelling. -/
theorem featureOfKey?_of_mem {row : String × String} (h : row ∈ Grammar.legacyFeatures) :
    featureOfKey? row.2 = some row.1 := by
  have hall : ∀ row ∈ Grammar.legacyFeatures, featureOfKey? row.2 = some row.1 := by
    decide +kernel
  exact hall row h

end BrowserPolicy.Header.Legacy

namespace BrowserPolicy.Header.Structured

def consFirst (c : Char) : List (List Char) → List (List Char)
  | [] => [[c]]
  | first :: more => (c :: first) :: more

/-- The pieces between the separators that stand outside strings. `inside` tells whether the text
begins inside one. -/
def splitOutside (separator : List Char) (inside : Bool) : List Char → List (List Char)
  | [] => [[]]
  | c :: rest =>
    if !inside && separator.isPrefixOf (c :: rest) then
      [] :: splitOutside separator false (rest.drop (separator.length - 1))
    else consFirst c (splitOutside separator (inside != (c == '"')) rest)
termination_by s => s.length
decreasing_by
  all_goals simp only [List.length_cons, List.length_drop]
  all_goals omega

def entries (value : String) : List (List Char) :=
  splitOutside [',', ' '] false value.toList

def splitFeature? (entry : List Char) : Option (List Char × List Char) :=
  match entry.span (· != '=') with
  | (key, '=' :: '(' :: inner) =>
    if inner.getLast? = some ')' then some (key, inner.dropLast) else none
  | _ => none

def tokens (inner : List Char) : List String :=
  if inner.isEmpty then [] else (splitOutside [' '] false inner).map String.ofList

def keys? (value : String) : Option (List String) :=
  (entries value).mapM fun entry => (splitFeature? entry).map fun parts => String.ofList parts.1

def readFeature? (entry : List Char) : Option (String × List String) :=
  (splitFeature? entry).map fun (key, inner) => (Grammar.undash (String.ofList key), tokens inner)

/-- The features of a header with their tokens, in order. -/
def read? (value : String) : Option (Entries (List String)) :=
  (entries value).mapM readFeature?

end BrowserPolicy.Header.Structured
