import BrowserPolicy.Yaml.Character
import BrowserPolicy.Yaml.Fault

namespace BrowserPolicy.Yaml.Plain

def startsAt (inFlow : Bool) : List Char → Bool
  | [] => false
  | c :: rest =>
    if isSpacing c then false
    else if c == '-' then !(rest.head?.any isBlank)
    else if c == '?' || c == ':' then !inFlow && !atSpacing rest
    else !",[]\x7b\x7d#&*!|>'\"%@\x60".toList.contains c

/-- The text up to a blank, a break, a colon before one of these, or inside brackets an indicator. A
colon right before an indicator is a fault there. -/
def run (inFlow : Bool) : List Char → Except Fault (List Char)
  | [] => .ok []
  | c :: rest =>
    if isSpacing c then .ok []
    else if inFlow && c == ':' && rest.head?.any (fun d => isFlowIndicator d || d == '?') then
      .error .unexpectedColon
    else if c == ':' && atSpacing rest then .ok []
    else if inFlow && isFlowIndicator c then .ok []
    else match run inFlow rest with
      | .ok more => .ok (c :: more)
      | .error fault => .error fault

def tabInMargin (margin : Nat) (column : Option Nat) : List Char → Bool
  | [] => false
  | c :: rest =>
    if isBreak c then tabInMargin margin (some 0) rest
    else match column with
      | none => tabInMargin margin none rest
      | some k => (c == '\t' && k < margin) || tabInMargin margin (some (k + 1)) rest

def columnAfter (gap : List Char) : Nat :=
  (gap.reverse.takeWhile fun c => !isBreak c).length

structure Result where
  text : List Char
  rest : List Char
  brokeLine : Bool

/-- Reads on after a run of text. The scalar ends where the next line is left of the margin,
begins a document marker or a comment, or has no text to add. -/
def readMore (inFlow : Bool) (margin : Nat) (s : List Char) : Except Fault Result :=
  let gap := s.takeWhile isSpacing
  let next := s.dropWhile isSpacing
  let broke := gap.any isBreak
  if _h : gap.isEmpty then .ok ⟨[], s, false⟩
  else if tabInMargin margin none gap then .error .tabInIndentation
  else if broke && !inFlow && columnAfter gap < margin then .ok ⟨[], next, true⟩
  else if (broke && columnAfter gap == 0 && atMarker next) || next.head? == some '#' then
    .ok ⟨[], next, broke⟩
  else match run inFlow next with
    | .error fault => .error fault
    -- The gap is left out too if no text follows.
    | .ok [] => .ok ⟨[], next, broke⟩
    | .ok text =>
      match readMore inFlow margin (next.drop text.length) with
      | .error fault => .error fault
      | .ok more => .ok ⟨fold gap ++ text ++ more.text, more.rest, more.brokeLine⟩
termination_by s.length
decreasing_by
  have hlt : (s.dropWhile isSpacing).length < s.length :=
    length_dropWhile_lt (eq_false_of_ne_true _h)
  simp only [List.length_drop]
  omega

def read (inFlow : Bool) (margin : Nat) (s : List Char) : Except Fault Result :=
  match run inFlow s with
  | .error fault => .error fault
  | .ok text =>
    match readMore inFlow margin (s.drop text.length) with
    | .error fault => .error fault
    | .ok more => .ok { more with text := text ++ more.text }

end BrowserPolicy.Yaml.Plain
