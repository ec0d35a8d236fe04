import BrowserPolicy.Yaml.Character
import BrowserPolicy.Yaml.Fault

namespace BrowserPolicy.Yaml.Block

inductive Chomp where
  | strip
  | clip
  | keep
  deriving DecidableEq, Repr

structure Header where
  chomp : Chomp
  increment : Option Nat
  deriving DecidableEq, Repr

def readChomp? : List Char → Option (Chomp × List Char)
  | '+' :: rest => some (.keep, rest)
  | '-' :: rest => some (.strip, rest)
  | _ => none

def readIncrement : List Char → Except Fault (Option Nat × List Char)
  | c :: rest =>
    if c = '0' then .error .badBlockHeader
    else if c.isDigit then .ok (some (c.toNat - '0'.toNat), rest)
    else .ok (none, c :: rest)
  | [] => .ok (none, [])

def readIndicators (s : List Char) : Except Fault (Header × List Char) :=
  match readChomp? s with
  | some (chomp, rest) =>
    (readIncrement rest).map fun (increment, rest) => (⟨chomp, increment⟩, rest)
  | none =>
    match readIncrement s with
    | .error fault => .error fault
    | .ok (none, rest) => .ok (⟨.clip, none⟩, rest)
    | .ok (some increment, rest) =>
      match readChomp? rest with
      | some (chomp, rest) => .ok (⟨chomp, some increment⟩, rest)
      | none => .ok (⟨.clip, some increment⟩, rest)

def skipComment (s : List Char) : List Char :=
  match s.dropWhile isBlank with
  | '#' :: rest => rest.dropWhile fun c => !isBreak c
  | rest => rest

def readHeader (s : List Char) : Except Fault (Header × List Char) :=
  match readIndicators s with
  | .error fault => .error fault
  | .ok (header, rest) =>
    let rest := skipComment rest
    if atLineEnd rest then .ok (header, afterBreak rest) else .error .badBlockHeader

structure Indentation where
  -- The breaks of the empty lines.
  breaks : List Char
  -- The column of the first character that is not indentation.
  column : Nat
  -- The greatest column that one of the lines is indented to.
  widest : Nat
  rest : List Char

/-- Reads empty lines and the indentation of the line after them. If the indentation of the block is
known, further blanks belong to the line. No tab may stand in the indentation. -/
def readIndentation (known : Option Nat) (column widest : Nat) :
    List Char → Except Fault Indentation
  | [] => .ok ⟨[], column, max widest column, []⟩
  | '\r' :: '\n' :: rest =>
    (readIndentation known 0 (max widest column) rest).map fun i =>
      { i with breaks := '\n' :: i.breaks }
  | c :: rest =>
    let inside := known.all (column < ·)
    if c == ' ' && inside then readIndentation known (column + 1) widest rest
    else if c == '\t' && inside then .error .tabInIndentation
    else if isBreak c then
      (readIndentation known 0 (max widest column) rest).map fun i =>
        { i with breaks := breakText [c] ++ i.breaks }
    else .ok ⟨[], column, max widest column, c :: rest⟩

theorem exists_ok_of_map_eq_ok {α β : Type} {x : Except Fault α} {f : α → β} {b : β}
    (h : x.map f = .ok b) : ∃ a, x = .ok a ∧ f a = b := by
  cases x with
  | error fault => cases h
  | ok a => exact ⟨a, rfl, Except.ok.inj h⟩

theorem length_rest_readIndentation {known : Option Nat} {column widest : Nat} {s : List Char}
    {i : Indentation} (h : readIndentation known column widest s = .ok i) :
    i.rest.length ≤ s.length := by
  fun_induction readIndentation known column widest s generalizing i with
  | case1 => cases h; simp
  | case2 column widest rest ih =>
    obtain ⟨j, hj, rfl⟩ := exists_ok_of_map_eq_ok h
    have hshorter : j.rest.length ≤ rest.length := ih hj
    simp only [List.length_cons]
    omega
  | case3 column widest c rest =>
    rename_i ih
    have hshorter : i.rest.length ≤ rest.length := ih h
    simp only [List.length_cons]
    omega
  | case4 => simp at h
  | case5 column widest c rest =>
    rename_i ih
    obtain ⟨j, hj, rfl⟩ := exists_ok_of_map_eq_ok h
    have hshorter : j.rest.length ≤ rest.length := ih hj
    simp only [List.length_cons]
    omega
  | case6 => cases h; simp

structure Lines where
  text : List Char
  lastBreak : List Char
  emptyLines : List Char
  rest : List Char

/-- Reads the lines of a block. A break before a line of a folded block is a space, or nothing if
empty lines follow it, unless one of the two lines begins with a blank. -/
def readLines (literal : Bool) (indent : Nat) (previousBlank : Bool) (lastBreak : List Char)
    (i : Indentation) : Except Fault Lines :=
  -- A line that is indented less is the first one after the block.
  if i.column ≠ indent then .ok ⟨[], lastBreak, i.breaks, i.rest⟩
  else match _hi : i.rest with
    | [] => .ok ⟨[], lastBreak, i.breaks, []⟩
    | c :: rest =>
      let joined :=
        if !literal && lastBreak == ['\n'] && !previousBlank && !isBlank c then
          if i.breaks.isEmpty then [' '] else []
        else lastBreak
      let line := c :: rest.takeWhile fun d => !isBreak d
      let after := rest.dropWhile fun d => !isBreak d
      match _hn : readIndentation (some indent) 0 0 (afterBreak after) with
      | .error fault => .error fault
      | .ok next =>
        match readLines literal indent (isBlank c) (breakText after) next with
        | .error fault => .error fault
        | .ok more => .ok { more with text := joined ++ i.breaks ++ line ++ more.text }
termination_by i.rest.length
decreasing_by
  have h1 := length_rest_readIndentation _hn
  have h2 := length_afterBreak_le after
  have h3 := length_dropWhile_le (fun d => !isBreak d) rest
  simp only [_hi, List.length_cons]
  simp only [after] at h1 h2
  omega

/-- Reads a block after its indicator and gives its text and what comes after it. `margin` is the
least column of its lines if the header names none; `base` is the column that the header counts
from. -/
def read (literal : Bool) (base margin : Nat) (s : List Char) :
    Except Fault (List Char × List Char) := do
  let (header, rest) ← readHeader s
  let known := header.increment.map (base + ·)
  let first ← readIndentation known 0 0 rest
  -- Without a digit in the header the empty lines at the head count for the indentation too.
  let indent := known.getD (max (max first.widest margin) 1)
  let lines ← readLines literal indent false [] first
  let ending := match header.chomp with
    | .strip => []
    | .clip => lines.lastBreak
    | .keep => lines.lastBreak ++ lines.emptyLines
  .ok (lines.text ++ ending, lines.rest)

end BrowserPolicy.Yaml.Block
