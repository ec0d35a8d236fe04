import BrowserPolicy.Number
import BrowserPolicy.Yaml.Character
import BrowserPolicy.Yaml.Fault

namespace BrowserPolicy.Yaml.Quoted

inductive Quote where
  | single
  | double
  deriving DecidableEq, Repr

def Quote.char : Quote → Char
  | .single => '\''
  | .double => '"'

def letterEscape? : Char → Option Char
  | '0' => some '\x00'
  | 'a' => some '\x07'
  | 'b' => some '\x08'
  | 't' => some '\t'
  | '\t' => some '\t'
  | 'n' => some '\n'
  | 'v' => some '\x0b'
  | 'f' => some '\x0c'
  | 'r' => some '\r'
  | 'e' => some '\x1b'
  | ' ' => some ' '
  | '"' => some '"'
  | '/' => some '/'
  | '\\' => some '\\'
  | 'N' => some '\u0085'
  | '_' => some '\u00a0'
  | 'L' => some '\u2028'
  | 'P' => some '\u2029'
  | _ => none

def codeLength? : Char → Option Nat
  | 'x' => some 2
  | 'u' => some 4
  | 'U' => some 8
  | _ => none

def escape? : List Char → Option (Char × Nat)
  | [] => none
  | c :: rest =>
    match letterEscape? c with
    | some d => some (d, 1)
    | none => do
      let n ← codeLength? c
      let digits := rest.take n
      let code ← Number.read? 16 digits
      if digits.length = n ∧ code.isValidChar then some (Char.ofNat code, n + 1) else none

def before (text : List Char) (r : Except Fault (List Char × List Char)) :
    Except Fault (List Char × List Char) :=
  match r with
  | .ok (more, rest) => .ok (text ++ more, rest)
  | .error fault => .error fault

/-- Reads up to the closing quote and gives the text and what comes after the quote. A gap of blanks
and breaks is folded; after an escaped break only its further breaks are kept. A line must not begin
with a document marker. -/
def read (q : Quote) (lineStart : Bool) (s : List Char) : Except Fault (List Char × List Char) :=
  if lineStart && atMarker s then .error .markerInQuote
  else match s with
    | [] => .error .unterminatedQuote
    | c :: rest =>
      if isSpacing c then
        let gap := c :: rest.takeWhile isSpacing
        before (fold gap) (read q (gap.getLast?.any isBreak) (rest.dropWhile isSpacing))
      else if c = q.char then
        if q = .single ∧ rest.head? = some '\'' then before ['\''] (read q false (rest.drop 1))
        else .ok ([], rest)
      else if c = '\\' ∧ q = .double then
        if rest.head?.any isBreak then
          -- The blanks before the backslash have been read, so they stay in the text.
          let next := afterBreak rest
          let gap := next.takeWhile isSpacing
          before (breaksOf gap)
            (read q (gap.isEmpty || gap.getLast?.any isBreak) (next.dropWhile isSpacing))
        else match escape? rest with
          | none => .error .badEscape
          | some (d, n) => before [d] (read q false (rest.drop n))
      else before [c] (read q false rest)
termination_by s.length
decreasing_by
  all_goals simp only [List.length_cons, List.length_drop]
  · have := length_dropWhile_le isSpacing rest
    omega
  · omega
  · have := length_dropWhile_le isSpacing (afterBreak rest)
    have := length_afterBreak_le rest
    omega
  · omega
  · omega

end BrowserPolicy.Yaml.Quoted
