import LiveShader.Pattern.Escape
import LiveShader.Pattern.Nesting

/-!
# Sets between brackets

`readSet` reads a set of characters up to its closing bracket. Sets nest, an operation takes all
that stands before it as its left side, and a bracket right after the opening one is a literal.
-/

namespace LiveShader.Pattern

/-- An operation on sets. -/
inductive SetOp where
  | inter
  | diff
  | apart

/-- The result of an operation. -/
def SetOp.apply : SetOp → CharSet → CharSet → CharSet
  | .inter, a, b => a.inter b
  | .diff, a, b => a.diff b
  | .apart, a, b => a.apart b

/-- A set that is being read. -/
structure OpenSet where
  negated : Bool
  /-- The operation that waits for its right side, with its left side. -/
  waiting : Option (SetOp × Nested CharSet) := none
  /-- The items since then. -/
  items : Row CharSet := {}

namespace OpenSet

/-- With a set in brackets as one more item. -/
def addSet (o : OpenSet) (s : Nested CharSet) : OpenSet :=
  { o with items := o.items.add s }

/-- With one more item of known members. -/
def add (m : Mode) (o : OpenSet) (s : CharSet) : Option OpenSet :=
  if m.allowsMembers then some (o.addSet ⟨s, 0⟩) else none

/-- What has been read, in both cases if letters stand for both. -/
def content (m : Mode) (o : OpenSet) : Nested CharSet :=
  let cased (s : CharSet) := if m.anyCase then s.eitherCase else s
  let right := o.items.whole CharSet.unions
  match o.waiting with
  | none => ⟨cased right.value, right.depth⟩
  | some (op, left) =>
    ⟨op.apply (cased left.value) (cased right.value), max left.depth right.depth + 1⟩

/-- An operation follows. -/
def operate (m : Mode) (o : OpenSet) (op : SetOp) : OpenSet :=
  { negated := o.negated, waiting := some (op, o.content m) }

/-- The closed set. -/
def close (m : Mode) (o : OpenSet) : Option (Nested CharSet) :=
  let ⟨s, depth⟩ := o.content m
  if o.negated then (m.complement s).map fun s => ⟨s, depth + 1⟩
  else some ⟨s, depth + 1⟩

end OpenSet

/-- Hyphens at the front are literal. -/
def hyphens (m : Mode) (o : OpenSet) (cs : List Char) : Option (OpenSet × List Char) :=
  match _h : m.rest cs with
  | '-' :: rest => (o.add m (.one '-')).bind fun o => hyphens m o rest
  | rest => some (o, rest)
termination_by cs.length
decreasing_by
  have := m.length_rest cs
  simp_all only [List.length_cons]
  omega

/-- The front of a set, after its opening bracket. -/
def openSet (m : Mode) (cs : List Char) : Option (OpenSet × List Char) :=
  let (negated, cs) := match m.rest cs with
    | '^' :: cs => (true, cs)
    | cs => (false, cs)
  match hyphens m { negated } cs with
  | some (o, ']' :: cs) =>
    if o.items.items.isEmpty then (o.add m (.one ']')).map fun o => (o, cs)
    else some (o, ']' :: cs)
  | front => front

/-- A named set of ASCII, after its opening bracket; `none` if no name stands there. -/
def namedSet? (cs : List Char) : Option (Bool × CharSet × List Char) :=
  match cs with
  | ':' :: cs =>
    let (negated, cs) := match cs with
      | '^' :: cs => (true, cs)
      | cs => (false, cs)
    match cs.dropWhile (· != ':') with
    | ':' :: ']' :: rest =>
      (CharSet.named? (String.ofList (cs.takeWhile (· != ':')))).map fun s => (negated, s, rest)
    | _ => none
  | _ => none

/-- A character or an escape. -/
def setItem (m : Mode) : List Char → Option (Escaped × List Char)
  | [] => none
  | '\\' :: cs => escape m cs
  | c :: cs => some (.char c, cs)

/-- The character that an item is, if it may stand in a set. -/
def itemChar (m : Mode) : Escaped → Option Char
  | .char c => if m.unicode || c.toNat < 0x80 then some c else none
  | _ => none

/-- The set that an item stands for. -/
def itemSet (m : Mode) : Escaped → Option CharSet
  | .char c => (itemChar m (.char c)).map .one
  | .set s => some s
  | .edge _ => none

/-- The character that is seen behind a hyphen, past blanks and one number sign; `none` if nothing
else is left. -/
def seenBehind (pastSign : Bool) : List Char → Option Char
  | [] => none
  | c :: cs =>
    if Text.isBlank c then seenBehind pastSign cs
    else if c = '#' && !pastSign then seenBehind true cs
    else some c

/-- Whether what is behind a hyphen makes it a literal: a bracket or another hyphen. Where blanks do
not count, a comment is not passed over as such. -/
def endsHyphen (m : Mode) (cs : List Char) : Bool :=
  let seen := if m.spaced then (seenBehind false cs).or cs.head? else cs.head?
  seen == some ']' || seen == some '-'

/-- An item or a range. -/
def setRange (m : Mode) (cs : List Char) : Option (CharSet × List Char) := do
  let (low, cs) ← setItem m cs
  match m.rest cs with
  | '-' :: rest =>
    if endsHyphen m rest then return (← itemSet m low, '-' :: rest)
    let (high, cs) ← setItem m (m.rest rest)
    let low ← itemChar m low
    let high ← itemChar m high
    if low ≤ high then return (.range low high, cs) else none
  | cs => return (← itemSet m low, cs)

/-- Read on in a set, with the sets around it; every step takes a character at least, and there are
no more than `fuel` of them. -/
def readSet (m : Mode) : (fuel : Nat) → OpenSet → (outer : List OpenSet) → List Char →
    Option (Nested CharSet × List Char)
  | 0, _, _, _ => none
  | fuel + 1, o, outer, cs =>
    match m.rest cs with
    | [] => none
    | ']' :: cs =>
      match o.close m, outer with
      | none, _ => none
      | some s, [] => some (s, cs)
      | some s, up :: outer => readSet m fuel (up.addSet s) outer cs
    | '[' :: cs =>
      match namedSet? cs with
      | some (negated, s, cs) => do
        let s ← if negated then m.complement s else some s
        readSet m fuel (← o.add m s) outer cs
      | none =>
        match openSet m cs with
        | none => none
        | some (inner, cs) => readSet m fuel inner (o :: outer) cs
    | '&' :: '&' :: cs => readSet m fuel (o.operate m .inter) outer cs
    | '-' :: '-' :: cs => readSet m fuel (o.operate m .diff) outer cs
    | '~' :: '~' :: cs => readSet m fuel (o.operate m .apart) outer cs
    | cs => do
      let (s, cs) ← setRange m cs
      readSet m fuel (← o.add m s) outer cs

/-- Read a set after its opening bracket. -/
def bracketed (m : Mode) (cs : List Char) : Option (Nested CharSet × List Char) :=
  match openSet m cs with
  | none => none
  | some (o, cs) => readSet m (cs.length + 1) o [] cs

end LiveShader.Pattern
