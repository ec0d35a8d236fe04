import BrowserPolicy.Yaml.Character
import BrowserPolicy.Yaml.Scalar.Plain
import BrowserPolicy.Yaml.Scalar.Quoted
import BrowserPolicy.Yaml.Token

/-!
The words of a text in order. Indentation opens and closes block collections. A word that may turn
out to be a key is remembered until a colon follows it or its line ends.
-/

namespace BrowserPolicy.Yaml

structure Position where
  offset : Nat
  line : Nat
  column : Nat
  deriving DecidableEq, Repr

def Position.after (p : Position) : List Char → Position
  | [] => p
  | '\r' :: '\n' :: rest => after ⟨p.offset + 2, p.line + 1, 0⟩ rest
  | c :: rest =>
    if isBreak c then after ⟨p.offset + c.utf8Size, p.line + 1, 0⟩ rest
    else after ⟨p.offset + c.utf8Size, p.line, p.column + 1⟩ rest

structure Cursor where
  rest : List Char
  pos : Position
  deriving Repr

namespace Cursor

def start (text : List Char) : Cursor :=
  ⟨text, ⟨0, 0, 0⟩⟩

def drop (c : Cursor) (n : Nat) : Cursor :=
  ⟨c.rest.drop n, c.pos.after (c.rest.take n)⟩

def goTo (c : Cursor) (rest : List Char) : Cursor :=
  c.drop (c.rest.length - rest.length)

end Cursor

/-- A word that is a key if a colon follows. -/
structure PendingKey where
  -- The words before it.
  place : Nat
  pos : Position
  -- A colon has to follow, because the word stands where its mapping wants a key.
  required : Bool
  deriving Repr

def maxKeyOctets : Nat := 1024

structure TokenStream where
  cursor : Cursor
  tokens : Array Token := #[]
  -- The columns of the open block collections, the innermost first.
  columns : List Nat := []
  -- The pending key inside the innermost brackets.
  pending : Option PendingKey := none
  -- The pending keys outside of them, one for each pair of brackets.
  outer : List (Option PendingKey) := []
  -- The next word may be a key.
  keyAllowed : Bool := true

namespace TokenStream

def inFlow (s : TokenStream) : Bool :=
  !s.outer.isEmpty

def margin (s : TokenStream) : Nat :=
  match s.columns with
  | [] => 0
  | column :: _ => column + 1

def push (s : TokenStream) (t : Token) : TokenStream :=
  { s with tokens := s.tokens.push t }

def insert (s : TokenStream) (place : Nat) (ts : Array Token) : TokenStream :=
  { s with tokens := s.tokens.extract 0 place ++ ts ++ s.tokens.extract place s.tokens.size }

def skip (s : TokenStream) (n : Nat) : TokenStream :=
  { s with cursor := s.cursor.drop n }

def goTo (s : TokenStream) (rest : List Char) : TokenStream :=
  { s with cursor := s.cursor.goTo rest }

def dropKey (s : TokenStream) : Except Fault TokenStream :=
  match s.pending with
  | some key => if key.required then .error .missingColon else .ok { s with pending := none }
  | none => .ok s

def saveKey (s : TokenStream) : Except Fault TokenStream :=
  if s.keyAllowed then do
    let required := !s.inFlow && s.columns.head? == some s.cursor.pos.column
    -- A pending key that has got no colon so far will get none.
    let s ← s.dropKey
    .ok { s with pending := some ⟨s.tokens.size, s.cursor.pos, required⟩ }
  else .ok s

def isStale (s : TokenStream) (key : PendingKey) : Bool :=
  key.pos.line < s.cursor.pos.line || key.pos.offset + maxKeyOctets < s.cursor.pos.offset

def refresh (s : TokenStream) : Option PendingKey → Except Fault (Option PendingKey)
  | some key =>
    if s.isStale key then if key.required then .error .missingColon else .ok none
    else .ok (some key)
  | none => .ok none

def dropStale (s : TokenStream) : Except Fault TokenStream := do
  let pending ← s.refresh s.pending
  let outer ← s.outer.mapM s.refresh
  .ok { s with pending := pending, outer := outer }

def closeBlocks (s : TokenStream) (deeper : Nat → Bool) : TokenStream :=
  if s.inFlow then s
  else
    { s with
      tokens := s.tokens ++ Array.replicate (s.columns.takeWhile deeper).length Token.blockEnd
      columns := s.columns.dropWhile deeper }

def opensBlock (s : TokenStream) (column : Nat) : Bool :=
  !s.inFlow && s.columns.head?.all (· < column)

def openBlock (s : TokenStream) (t : Token) : TokenStream :=
  let column := s.cursor.pos.column
  if s.opensBlock column then { s.push t with columns := column :: s.columns } else s

inductive Gap where
  | lineStart
  | inLine
  | comment
  deriving DecidableEq, Repr

/-- Passes over blanks, comments and breaks, and over a byte order mark at the head of a line. A tab
is a blank only where no key may follow it; outside brackets a key may follow every break. -/
def skipSpacing (inFlow keyAllowed : Bool) (gap : Gap) : List Char → List Char × Bool
  | [] => ([], keyAllowed)
  | c :: rest =>
    if isBreak c then skipSpacing inFlow (keyAllowed || !inFlow) .lineStart rest
    else if gap = .comment ∨ c = '#' then skipSpacing inFlow keyAllowed .comment rest
    else if gap = .lineStart ∧ c = '\ufeff' then skipSpacing inFlow keyAllowed .inLine rest
    else if c == ' ' || (c == '\t' && (inFlow || !keyAllowed)) then
      skipSpacing inFlow keyAllowed .inLine rest
    else (c :: rest, keyAllowed)

def toNextWord (s : TokenStream) : TokenStream :=
  let gap := if s.cursor.pos.column = 0 then Gap.lineStart else .inLine
  let (rest, keyAllowed) := skipSpacing s.inFlow s.keyAllowed gap s.cursor.rest
  { s.goTo rest with keyAllowed := keyAllowed }

def readDirective (s : TokenStream) (rest : List Char) : Except Fault TokenStream := do
  let s ← (s.closeBlocks fun _ => true).dropKey
  let (token, rest) ← Token.readDirective rest
  .ok { (s.push token).goTo rest with keyAllowed := false }

def readMarker (s : TokenStream) (t : Token) : Except Fault TokenStream := do
  let s ← (s.closeBlocks fun _ => true).dropKey
  .ok { (s.push t).skip 3 with keyAllowed := false }

def openFlow (s : TokenStream) (t : Token) : Except Fault TokenStream := do
  let s ← s.saveKey
  .ok { (s.push t).skip 1 with pending := none, outer := s.pending :: s.outer, keyAllowed := true }

def closeFlow (s : TokenStream) (t : Token) : Except Fault TokenStream := do
  let s ← s.dropKey
  let s := (s.push t).skip 1
  match s.outer with
  | key :: outer => .ok { s with pending := key, outer := outer, keyAllowed := false }
  | [] => .ok { s with keyAllowed := false }

def readFlowEntry (s : TokenStream) : Except Fault TokenStream := do
  let s ← s.dropKey
  .ok { (s.push .flowEntry).skip 1 with keyAllowed := true }

def readBlockEntry (s : TokenStream) : Except Fault TokenStream := do
  if !s.inFlow && !s.keyAllowed then throw .entryNotAllowed
  let s ← (s.openBlock .blockSequenceStart).dropKey
  .ok { (s.push .blockEntry).skip 1 with keyAllowed := true }

def readKey (s : TokenStream) : Except Fault TokenStream := do
  if !s.inFlow && !s.keyAllowed then throw .keyNotAllowed
  let s ← (s.openBlock .blockMappingStart).dropKey
  .ok { (s.push .key).skip 1 with keyAllowed := !s.inFlow }

def readValue (s : TokenStream) : Except Fault TokenStream :=
  match s.pending with
  | some key =>
    let column := key.pos.column
    let opens := s.opensBlock column
    -- The mapping starts where its first key does, which has been read already.
    let s := s.insert key.place (if opens then #[.blockMappingStart, .key] else #[.key])
    let columns := if opens then column :: s.columns else s.columns
    .ok { (s.push .value).skip 1 with pending := none, columns := columns, keyAllowed := false }
  | none =>
    if !s.inFlow && !s.keyAllowed then .error .valueNotAllowed
    else
      let s := s.openBlock .blockMappingStart
      .ok { (s.push .value).skip 1 with keyAllowed := !s.inFlow }

def readWord (s : TokenStream) (read : Except Fault (Token × List Char)) :
    Except Fault TokenStream := do
  let s ← s.saveKey
  let (token, rest) ← read
  .ok { (s.push token).goTo rest with keyAllowed := false }

def readQuoted (q : Quoted.Quote) (rest : List Char) : Except Fault (Token × List Char) :=
  (Quoted.read q false rest).map fun (text, rest) => (.scalar .quoted text, rest)

def readBlockScalar (s : TokenStream) (literal : Bool) (rest : List Char) :
    Except Fault TokenStream := do
  let s ← s.dropKey
  let (text, rest) ← Block.read literal (s.columns.headD 0) s.margin rest
  let style := if literal then ScalarStyle.literal else .folded
  .ok { (s.push (.scalar style text)).goTo rest with keyAllowed := true }

def readPlain (s : TokenStream) : Except Fault TokenStream := do
  let s ← s.saveKey
  let r ← Plain.read s.inFlow s.margin s.cursor.rest
  .ok { (s.push (.scalar .plain r.text)).goTo r.rest with keyAllowed := r.brokeLine }

def readToken (s : TokenStream) (c : Char) (rest : List Char) : Except Fault TokenStream :=
  let column := s.cursor.pos.column
  if column = 0 && c == '%' then s.readDirective rest
  else if column = 0 && atMarker (c :: rest) then
    s.readMarker (if c = '-' then .documentStart else .documentEnd)
  else if c = '[' then s.openFlow .flowSequenceStart
  else if c = '\x7b' then s.openFlow .flowMappingStart
  else if c = ']' then s.closeFlow .flowSequenceEnd
  else if c = '\x7d' then s.closeFlow .flowMappingEnd
  else if c = ',' then s.readFlowEntry
  else if c = '-' ∧ atSpacing rest then s.readBlockEntry
  else if c = '?' ∧ (s.inFlow ∨ atSpacing rest) then s.readKey
  else if c = ':' ∧ (s.inFlow ∨ atSpacing rest) then s.readValue
  else if c = '*' then s.readWord (Token.readName .aliasTo rest)
  else if c = '&' then s.readWord (Token.readName .anchor rest)
  else if c = '!' then s.readWord (Token.readTag s.inFlow rest)
  else if c = '|' ∧ !s.inFlow then s.readBlockScalar true rest
  else if c = '>' ∧ !s.inFlow then s.readBlockScalar false rest
  else if c = '\'' then s.readWord (readQuoted .single rest)
  else if c = '"' then s.readWord (readQuoted .double rest)
  else if Plain.startsAt s.inFlow (c :: rest) then s.readPlain
  else .error .unexpectedCharacter

def finish (s : TokenStream) : Except Fault (List Token) := do
  let s ← (s.closeBlocks fun _ => true).dropKey
  .ok s.tokens.toList

def readAll (s : TokenStream) : Except Fault (List Token) := do
  -- A key that is too old must not become one, whatever the next word is.
  let column := s.toNextWord.cursor.pos.column
  let ready ← s.toNextWord.dropStale
  let ready := ready.closeBlocks (column < ·)
  match ready.cursor.rest with
  | [] => ready.finish
  | c :: rest =>
    let next ← ready.readToken c rest
    if _h : next.cursor.rest.length < s.cursor.rest.length then next.readAll
    else .error .unexpectedCharacter
termination_by s.cursor.rest.length

end TokenStream

def Token.ofText (text : List Char) : Except Fault (List Token) :=
  if text.all isAllowed then TokenStream.readAll { cursor := .start text }
  else .error .forbiddenCharacter

end BrowserPolicy.Yaml
