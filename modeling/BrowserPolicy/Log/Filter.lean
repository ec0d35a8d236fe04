import BrowserPolicy.Event
import BrowserPolicy.Text.CharClass

namespace BrowserPolicy.Log

/-- A level for the events whose target begins with `target` and that have the field, if one is
named; without a level nothing is admitted. -/
structure Directive where
  target : List Char
  field : Option String
  level : Option Level
  deriving DecidableEq, Repr

inductive Clause where
  | events (d : Directive)
  -- Events inside spans of some kind. A run opens no span.
  | spans
  deriving DecidableEq, Repr

inductive Scope where
  | field (name : List Char)
  -- A span by its name or by the value of a field.
  | span
  deriving DecidableEq, Repr

namespace Clause

def levelOfNumber? : Nat → Option (Option Level)
  | 0 => some none
  | 1 => some (some .error)
  | 2 => some (some .warn)
  | 3 => some (some .info)
  | 4 => some (some .debug)
  | 5 => some (some .trace)
  | _ => none

def number? : List Char → Option Nat
  | '+' :: digits => Number.read? 10 digits
  | digits => Number.read? 10 digits

/-- The level that a word names, in any case or by its number; the outer option tells whether it
names one. -/
def levelOfWord? (word : List Char) : Option (Option Level) :=
  match number? word with
  | some n => levelOfNumber? n
  | none =>
    match String.ofList (word.map Char.toLower) with
    | "off" => some none
    | "error" => some (some .error)
    | "warn" => some (some .warn)
    | "info" => some (some .info)
    | "debug" => some (some .debug)
    | "trace" => some (some .trace)
    | _ => none

def levelAfterSign? (word : List Char) : Option (Option Level) :=
  if word.isEmpty then some (some .trace) else levelOfWord? word

def trim (s : List Char) : List Char :=
  ((s.dropWhile Text.isWhiteSpace).reverse.dropWhile Text.isWhiteSpace).reverse

def readScope? (s : List Char) : Option (Scope × List Char) :=
  let (name, rest) := s.span fun c => c != ']' && c != '\x7b'
  match rest with
  | ']' :: rest => some (.span, rest)
  | '\x7b' :: rest =>
    let (field, rest) := rest.span (· != '\x7d')
    match rest with
    | '\x7d' :: ']' :: rest =>
      if field.isEmpty then none
      else if name.isEmpty && !field.contains '=' then some (.field field, rest)
      else some (.span, rest)
    | _ => none
  | _ => none

structure Parts where
  target : List Char
  scope : Option Scope
  -- What comes after the equals sign, if there is one.
  level : Option (List Char)

def startsTarget (c : Char) : Bool :=
  Text.isAlphanumeric c || c == '-' || c == ':' || c == '_'

def readLevel? (target : List Char) (scope : Option Scope) : List Char → Option Parts
  | [] => some ⟨target, scope, none⟩
  | '=' :: word => some ⟨target, scope, some word⟩
  | _ => none

def readParts? (s : List Char) : Option Parts :=
  let (target, rest) := s.span fun c => c != '=' && c != '['
  if target.head?.any (!startsTarget ·) then none
  else match rest with
    | '[' :: rest => do
      let (scope, rest) ← readScope? rest
      readLevel? target (some scope) rest
    | rest => if target.isEmpty then none else readLevel? target none rest

/-- A clause. White space around it spoils the level after an equals sign, so that the text is no
clause; else it belongs to the target in front or to the single word. -/
def ofText? (s : List Char) : Option Clause := do
  let parts ← readParts? (trim s)
  let target := s.takeWhile Text.isWhiteSpace ++ parts.target
  match parts.scope, parts.level with
  | none, none =>
    match levelOfWord? s with
    | some level => return .events ⟨[], none, level⟩
    | none => return .events ⟨s, none, some .trace⟩
  | scope, word =>
    let level ← match word with
      | some word => if trim s = s then levelAfterSign? word else none
      | none => some (some .trace)
    match scope with
    | none => return .events ⟨target, none, level⟩
    | some (.field name) => return .events ⟨target, some (String.ofList name), level⟩
    | some .span => return .spans

def directive? : Clause → Option Directive
  | events d => some d
  | spans => none

end Clause

namespace Directive

def covers (d : Directive) (e : Event) : Bool :=
  d.target.isPrefixOf e.target.toList && d.field.all e.fieldNames.contains

/-- `d` counts no more than `e` for an event that both cover: the longer target counts more, of
equal ones one with a field, and of two fields the one with the greater name. -/
def le (d e : Directive) : Bool :=
  d.target.length < e.target.length ||
    (d.target.length == e.target.length &&
      match d.field, e.field with
      | none, _ => true
      | some _, none => false
      | some x, some y => decide (x ≤ y))

end Directive

structure Filter where
  directives : List Directive
  deriving DecidableEq, Repr

namespace Filter

def errors : Filter :=
  ⟨[⟨[], none, some .error⟩]⟩

def ofText (s : String) : Filter :=
  match (s.toList.splitOn ',').filterMap Clause.ofText? with
  | [] => errors
  | clauses => ⟨clauses.filterMap Clause.directive?⟩

def directive? (f : Filter) (e : Event) : Option Directive :=
  (f.directives.filter (Directive.covers · e)).foldl
    (fun best d =>
      match best with
      | some b => if b.le d then some d else best
      | none => some d)
    none

def admits (f : Filter) (e : Event) : Bool :=
  match f.directive? e with
  | some ⟨_, _, some level⟩ => e.level.rank ≤ level.rank
  | _ => false

end Filter

def line (e : Event) : String :=
  let details := e.fields.map fun f =>
    " " ++ f.name ++ "=" ++ (if f.quoted then "\"" ++ f.text ++ "\"" else f.text)
  e.level.name ++ " " ++ e.target ++ ": " ++ e.message ++ String.join details

def lines (f : Filter) (events : List Event) : List String :=
  (events.filter f.admits).map line

end BrowserPolicy.Log
