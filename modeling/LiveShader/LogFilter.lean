import LiveShader.Pattern.Reader
import LiveShader.Text.Search

/-!
# Which log records are shown

A filter is a list of directives, each a level for the records of a target and of all targets that
start with its name, or for every target that no other directive names. It may hold a pattern too,
and then shows only records with a message in which the pattern occurs.

* `LogFilter.ofText` reads a filter from its written form, a comma between any two directives.
* `LogFilter.allows` decides a record by the directive with the longest name that its target starts
  with.
* `Logging.install` sets up the logger of a process once; a logger that is already there stays.
-/

namespace LiveShader

/-! ## Levels -/

/-- How much is shown, from nothing to everything. -/
inductive LogLevel where
  | off
  | error
  | warn
  | info
  | debug
  | trace
  deriving DecidableEq, Repr

namespace LogLevel

/-- The place of a level in the order. -/
def rank : LogLevel → Nat
  | .off => 0
  | .error => 1
  | .warn => 2
  | .info => 3
  | .debug => 4
  | .trace => 5

/-- The levels in order. -/
def all : List LogLevel :=
  [.off, .error, .warn, .info, .debug, .trace]

/-- The name of a level. -/
def name : LogLevel → String
  | .off => "OFF"
  | .error => "ERROR"
  | .warn => "WARN"
  | .info => "INFO"
  | .debug => "DEBUG"
  | .trace => "TRACE"

/-- The level with a given name, in capital or small letters. -/
def ofName? (cs : List Char) : Option LogLevel :=
  all.find? fun l => l.name.toList == cs.map Char.toUpper

/-- The higher of two levels. -/
def max (a b : LogLevel) : LogLevel :=
  if a.rank < b.rank then b else a

end LogLevel

/-! ## Filters -/

/-- A level for the targets that start with a name, or for all targets. -/
structure Directive where
  target : Option (List Char)
  level : LogLevel
  deriving DecidableEq, Repr

/-- The length of a directive's name in bytes. -/
def Directive.size (d : Directive) : Nat :=
  match d.target with
  | none => 0
  | some t => Text.byteLength t

/-- Whether a directive speaks of a target. -/
def Directive.covers (d : Directive) (target : List Char) : Bool :=
  match d.target with
  | none => true
  | some t => t.isPrefixOf target

/-- Directives in the order of their names' lengths. -/
structure LogFilter where
  directives : List Directive
  /-- What must occur in a message. -/
  pattern : Option Pattern := none
  deriving DecidableEq, Repr

namespace LogFilter

/-- The pieces of a text between separators. -/
def pieces (separator : Char) (cs : List Char) : List (List Char) :=
  cs.foldr (fun c ps =>
    if c = separator then [] :: ps
    else
      match ps with
      | [] => [[c]]
      | p :: ps => (c :: p) :: ps) [[]]

/-- The directive that one piece of a filter writes. A lone level name speaks of every target, a
lone target asks for everything; a level that has no such name makes no directive. -/
def directive? (piece : List Char) : Option Directive :=
  match pieces '=' (Text.trim piece) with
  | [[]] => none
  | [one] =>
    match LogLevel.ofName? one with
    | some level => some ⟨none, level⟩
    | none => some ⟨some one, .trace⟩
  | [target, level] =>
    match Text.trim level with
    | [] => some ⟨some target, .trace⟩
    | level => (LogLevel.ofName? level).map fun l => ⟨some target, l⟩
  | _ => none

/-- Put a directive in the place of an earlier one for the same target, else at the end. -/
def insert (ds : List Directive) (d : Directive) : List Directive :=
  if ds.any fun e => e.target == d.target then
    ds.map fun e => if e.target == d.target then d else e
  else ds ++ [d]

/-- The filter made of directives given in any order. Without any, errors are shown. -/
def ofDirectives (ds : List Directive) : LogFilter :=
  if ds.isEmpty then { directives := [⟨none, .error⟩] }
  else { directives := ds.mergeSort fun a b => a.size ≤ b.size }

/-- The directives between commas. -/
def directivesIn (spec : List Char) : List Directive :=
  ((pieces ',' spec).filterMap directive?).foldl insert []

/-- The filter that a text writes: directives, and behind a slash a pattern. What is no pattern does
not count; with more than one slash nothing counts. -/
def ofText (text : String) : LogFilter :=
  match pieces '/' text.toList with
  | [spec] => ofDirectives (directivesIn spec)
  | [spec, pattern] => { ofDirectives (directivesIn spec) with pattern := Pattern.ofText? pattern }
  | _ => ofDirectives []

/-- The highest level of any directive. -/
def maxLevel (f : LogFilter) : LogLevel :=
  f.directives.foldl (fun l d => l.max d.level) .off

/-- Whether a record of a level and a target is let through: the last directive that speaks of the
target decides. -/
def allows (f : LogFilter) (target : String) (level : LogLevel) : Bool :=
  match f.directives.reverse.find? fun d => d.covers target.toList with
  | none => false
  | some d => level.rank ≤ d.level.rank

/-- Whether a message is one to show. -/
def admits (f : LogFilter) (message : String) : Bool :=
  f.pattern.all fun p => p.occursIn message

end LogFilter

/-! ## The logger of a process -/

/-- The logger that is in force. -/
inductive Logger where
  | none
  /-- One that takes every record up to a level. -/
  | everything (level : LogLevel)
  | filtered (filter : LogFilter)
  deriving DecidableEq, Repr

namespace Logger

/-- The level above which no record is even offered to the logger. -/
def maxLevel : Logger → LogLevel
  | .none => .off
  | .everything level => level
  | .filtered filter => filter.maxLevel

/-- Whether a record is taken. -/
def takes (l : Logger) (target : String) (level : LogLevel) : Bool :=
  level.rank ≤ l.maxLevel.rank &&
    match l with
    | .none => false
    | .everything _ => true
    | .filtered filter => filter.allows target level

/-- Whether a record is written out. A logger that takes everything writes elsewhere. -/
def writes (l : Logger) (target : String) (level : LogLevel) (message : String) : Bool :=
  l.takes target level &&
    match l with
    | .filtered filter => filter.admits message
    | _ => false

end Logger

/-- The logging state of a process. -/
structure Logging where
  logger : Logger := .none
  /-- Whether setting up has been tried. -/
  tried : Bool := false
  /-- How often the logger has reported that it was set up. -/
  announced : Nat := 0
  deriving DecidableEq, Repr

namespace Logging

/-- The target under which the logger reports that it was set up. -/
def target : String := "shader_session::logging"

/-- What the logger reports when it was set up. -/
def announcement : String := "logging initialized"

/-- The filter to set up: an explicit one, else the one of the process, else `info`. -/
def chosen (explicit environment : Option String) : LogFilter :=
  match explicit.or environment with
  | some text => .ofText text
  | none => .ofDirectives [⟨none, .info⟩]

/-- Set up the logger. Only the first call does anything, and it leaves a logger alone that is
already in force. -/
def install (environment : Option String) (s : Logging) (explicit : Option String) : Logging :=
  if s.tried then s
  else if s.logger ≠ .none then { s with tried := true }
  else
    let logger := Logger.filtered (chosen explicit environment)
    ⟨logger, true, if logger.writes target .debug announcement then 1 else 0⟩

end Logging

end LiveShader
