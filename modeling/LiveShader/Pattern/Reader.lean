import LiveShader.Pattern.Literal
import LiveShader.Pattern.SetReader
import LiveShader.Text.Letter

/-!
# Reading a pattern

`Pattern.ofText?` reads a pattern from its written form:

* `.` for any character, `[...]` for a set, a backslash for an escape, any other character for
  itself; `^` and `$` for the edges of the text;
* `|` between alternatives, round brackets for groups, `(?i)` and the like for modes, which hold up
  to the end of the group;
* `?`, `*`, `+` and `{low,high}` after what is repeated; a `?` after these prefers fewer rounds,
  which makes no difference to whether a text has a piece that matches.

A text that is no pattern gives `none`, and so does a pattern that needs to know more of Unicode
than the numbers of its characters, one that nests too deep, or one with too large an automaton.
-/

namespace LiveShader.Pattern

/-! ## Groups -/

/-- What an opening round bracket begins. -/
inductive Opening where
  /-- No group, but modes for what follows. -/
  | modes (m : Mode)
  /-- A group that is not remembered, with modes of its own. -/
  | inner (m : Mode)
  /-- A group that is remembered. -/
  | remembered
  /-- A group that is remembered under a name. -/
  | named (name : List Char)

/-- Read modes up to a closing bracket or a colon. `seen` are the letters so far, `value` is false
after a minus sign, and `dangling` says that the minus sign was the last. -/
def modes (m : Mode) (seen : List Char) (value dangling : Bool) :
    List Char → Option (Opening × List Char)
  | [] => none
  | ':' :: cs => if dangling then none else some (.inner m, cs)
  | ')' :: cs => if dangling || seen.isEmpty then none else some (.modes m, cs)
  | '-' :: cs => if value then modes m ('-' :: seen) false true cs else none
  | c :: cs =>
    if seen.contains c then none
    else (m.set value c).bind fun m => modes m (c :: seen) value false cs

/-- Whether a character may begin a name. -/
def beginsName (c : Char) : Bool :=
  c == '_' || Text.isLetter c

/-- Whether a character may go on a name. -/
def continuesName (c : Char) : Bool :=
  c == '_' || c == '.' || c == '[' || c == ']' || Text.isLetter c || Text.isNumber c

/-- Read a name up to a closing angle bracket. -/
def groupName (cs : List Char) : Option (Opening × List Char) :=
  match cs.takeWhile (· != '>'), cs.dropWhile (· != '>') with
  | c :: name, '>' :: rest =>
    if beginsName c && name.all continuesName then some (.named (c :: name), rest) else none
  | _, _ => none

/-- Read what follows an opening round bracket. -/
def opening (m : Mode) (cs : List Char) : Option (Opening × List Char) :=
  match m.rest cs with
  | '?' :: 'P' :: '<' :: cs | '?' :: '<' :: cs => groupName cs
  | '?' :: cs => modes m [] true false cs
  | cs => some (.remembered, cs)

/-! ## Repetitions -/

/-- Decimal digits after the number `n`. -/
def decimal (m : Mode) (n : Option Nat) (cs : List Char) : Option Nat × List Char :=
  match cs with
  | [] => (n, [])
  | c :: rest =>
    if c.isDigit then decimal m (some (n.getD 0 * 10 + (c.toNat - '0'.toNat))) (m.rest rest)
    else (n, c :: rest)
termination_by cs.length
decreasing_by
  have := m.length_rest rest
  simp only [List.length_cons]
  omega

/-- A count of 32 bits, with blanks around it. -/
def count (m : Mode) (cs : List Char) : Option (Nat × List Char) :=
  match decimal m none (Text.trimStart cs) with
  | (some n, cs) => if n < 0x100000000 then some (n, m.rest (Text.trimStart cs)) else none
  | (none, _) => none

/-- The least and the greatest count between braces, after the opening one. -/
def counts (m : Mode) (cs : List Char) : Option ((Nat × Option Nat) × List Char) := do
  let (low, cs) ← count m (m.rest cs)
  match cs with
  | '\x7d' :: cs => return ((low, some low), cs)
  | ',' :: cs =>
    match m.rest cs with
    | '\x7d' :: cs => return ((low, none), cs)
    | cs =>
      let (high, cs) ← count m cs
      match cs with
      | '\x7d' :: cs => if low ≤ high then return ((low, some high), cs) else none
      | _ => none
  | _ => none

/-- Whether a repetition is hurried, and what is left; a question mark turns it into the other. -/
def hurry (m : Mode) : List Char → Bool × List Char
  | '?' :: cs => (m.patient, cs)
  | cs => (!m.patient, cs)

/-! ## The whole -/

/-- A group that is being read. -/
structure OpenGroup where
  /-- The alternatives before the present one. -/
  before : Row Pattern := {}
  /-- The present alternative up to its last part. -/
  front : Row Pattern := {}
  /-- Its last part, if it may be repeated. -/
  last : Option (Nested Pattern) := none

namespace OpenGroup

/-- The parts of the present alternative. -/
def parts (g : OpenGroup) : Row Pattern :=
  (g.last.map g.front.add).getD g.front

/-- With one more part. -/
def add (g : OpenGroup) (p : Nested Pattern) : OpenGroup :=
  { g with front := g.parts, last := some p }

/-- With modes for what follows: a part that stands for nothing and may not be repeated. -/
def addModes (g : OpenGroup) : OpenGroup :=
  { g with front := g.parts.add ⟨.empty, 0⟩, last := none }

/-- The last part is repeated. -/
def repeatLast (g : OpenGroup) (low : Nat) (high : Option Nat) (hurried : Bool) :
    Option OpenGroup :=
  g.last.map fun p => { g with last := some ⟨p.value.repeated low high hurried, p.depth + 1⟩ }

/-- The alternatives with the present one. -/
def alternatives (g : OpenGroup) : Row Pattern :=
  g.before.add (g.parts.whole inRow)

/-- Another alternative follows. -/
def alternative (g : OpenGroup) : OpenGroup :=
  { before := g.alternatives }

/-- What the group holds. -/
def content (g : OpenGroup) : Nested Pattern :=
  g.alternatives.whole choice

end OpenGroup

/-- What a group around the present one needs to be read on: what was read of it, its modes, and the
number of the group inside if that is remembered. -/
structure Outer where
  group : OpenGroup
  mode : Mode
  index : Option Nat

/-- The group inside, as a part of the group around it. -/
def Outer.close (o : Outer) (inner : Nested Pattern) : OpenGroup :=
  o.group.add ⟨(o.index.map fun i => .group i inner.value).getD inner.value, inner.depth + 1⟩

/-- A part that is no group, and is not repeated yet. -/
def part (m : Mode) : List Char → Option (Nested Pattern × List Char)
  | [] => none
  | '[' :: cs =>
    (bracketed m cs).map fun (s, cs) => (⟨.ofSet s.value (!m.unicode), s.depth⟩, cs)
  | '.' :: cs => m.point.map fun s => (⟨.ofSet s false, 0⟩, cs)
  | '^' :: cs => some (⟨.edge m.start, 0⟩, cs)
  | '$' :: cs => some (⟨.edge m.stop, 0⟩, cs)
  | '\\' :: cs => do
    match ← escape m cs with
    | (.char c, cs) => return (⟨← m.literal c, 0⟩, cs)
    | (.set s, cs) => return (⟨.ofSet s true, 0⟩, cs)
    | (.edge e, cs) => return (⟨.edge e, 0⟩, cs)
  | c :: cs => (m.literal c).map fun p => (⟨p, 0⟩, cs)

/-- Read on in a group, with the groups around it; `names` are those of the groups so far, and
`count` is how many are remembered. Every step takes a character at least, and there are fewer than
`fuel`. -/
def read : (fuel : Nat) → Mode → (names : List (List Char)) → (count : Nat) → OpenGroup →
    (outer : List Outer) → List Char → Option (Nested Pattern)
  | 0, _, _, _, _, _, _ => none
  | fuel + 1, m, names, count, g, outer, cs =>
    match m.rest cs with
    | [] => if outer.isEmpty then some g.content else none
    | '(' :: cs =>
      match opening m cs with
      | none => none
      | some (.modes m, cs) => read fuel m names count g.addModes outer cs
      | some (.inner m', cs) => read fuel m' names count {} (⟨g, m, none⟩ :: outer) cs
      | some (.remembered, cs) =>
        read fuel m names (count + 1) {} (⟨g, m, some (count + 1)⟩ :: outer) cs
      | some (.named name, cs) =>
        if names.contains name then none
        else read fuel m (name :: names) (count + 1) {} (⟨g, m, some (count + 1)⟩ :: outer) cs
    | ')' :: cs =>
      match outer with
      | [] => none
      | o :: outer => read fuel o.mode names count (o.close g.content) outer cs
    | '|' :: cs => read fuel m names count g.alternative outer cs
    | '?' :: cs => do
      let (hurried, cs) := hurry m cs
      read fuel m names count (← g.repeatLast 0 (some 1) hurried) outer cs
    | '*' :: cs => do
      let (hurried, cs) := hurry m cs
      read fuel m names count (← g.repeatLast 0 none hurried) outer cs
    | '+' :: cs => do
      let (hurried, cs) := hurry m cs
      read fuel m names count (← g.repeatLast 1 none hurried) outer cs
    | '\x7b' :: cs => do
      let ((low, high), cs) ← counts m cs
      let (hurried, cs) := hurry m (m.rest cs)
      read fuel m names count (← g.repeatLast low high hurried) outer cs
    | cs => do
      let (p, cs) ← part m cs
      read fuel m names count (g.add p) outer cs

/-- The pattern that a text writes. -/
def ofText? (text : List Char) : Option Pattern := do
  let ⟨p, depth⟩ ← read (text.length + 1) {} [] 0 {} [] text
  if depth ≤ depthLimit ∧ p.isKnown ∧ p.isSearchable then return p else none

end LiveShader.Pattern
