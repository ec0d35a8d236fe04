import BrowserPolicy.Grammar.Basic
import BrowserPolicy.Value

namespace BrowserPolicy

inductive RawToken where
  | text (token : String)
  | notText
  deriving DecidableEq, Repr

inductive RawList where
  | tokens (tokens : List RawToken)
  | notList
  deriving DecidableEq, Repr

def RawToken.ofValue : Value → RawToken
  | .string s => .text s
  | _ => .notText

def RawList.ofValue : Value → RawList
  | .array items => .tokens (items.map RawToken.ofValue)
  | _ => .notList

def RawList.ofTokens (tokens : List String) : RawList :=
  .tokens (tokens.map .text)

namespace AllowList

/-- The token itself, unless it is a repetition, a keyword in the wrong form, or neither a keyword
nor quoted as the grammar wants. -/
def check (g : Grammar) (feature : String) (seen : List String) :
    RawToken → Except PolicyError String
  | .notText => .error (.nonString feature)
  | .text token =>
    if token ∈ seen then .error (.duplicate feature)
    else match g.misquoted? token with
      | some row => .error (.misquotedKeyword row.keyword row.required)
      -- Keywords need no quotes, and all else needs those of the grammar.
      | none =>
        if g.isReserved token || g.quoteRule token then .ok token
        else .error (.unquoted token)

def checkAll (g : Grammar) (feature : String) (seen : List String) :
    List RawToken → Except PolicyError (List String)
  | [] => .ok []
  | raw :: rest =>
    match check g feature seen raw with
    | .error e => .error e
    | .ok token =>
      match checkAll g feature (token :: seen) rest with
      | .error e => .error e
      | .ok tokens => .ok (token :: tokens)

/-- The keyword that stands beside other tokens, if one does; the wildcard is looked for first. -/
def mixedKeyword? (g : Grammar) (tokens : List String) : Option String :=
  if tokens.length ≤ 1 then none
  else [g.wildcard, g.noneKeyword].find? fun keyword => tokens.contains keyword

def validate (g : Grammar) (feature : String) (raw : List RawToken) :
    Except PolicyError (List String) :=
  match checkAll g feature [] raw with
  | .error e => .error e
  | .ok tokens =>
    match mixedKeyword? g tokens with
    | some keyword => .error (.mixed feature keyword)
    | none => .ok tokens

end AllowList

end BrowserPolicy
