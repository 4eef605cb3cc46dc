import LiveShader.Pattern.Automaton

/-!
# Patterns that stand for a few texts

`Pattern.openings` gives byte strings such that every piece that a pattern stands for begins with
one of them; an exact one may be a whole piece. If all are exact, the pattern stands for these texts
only: `Pattern.isLiteral`. They are then searched for as they are, and no automaton is needed. Nor
is one for a choice between very many texts.

Byte strings are kept short and few. One that is cut off is no longer exact, and when there would be
too many, nothing is known of the openings.

Results:
* `length_cutOff`: cutting off keeps the number of byte strings.
-/

namespace LiveShader

/-- A byte string that pieces begin with; if it is exact, it may be a whole piece. -/
structure Literal where
  bytes : List Nat
  exact : Bool
  deriving DecidableEq, Repr

namespace Literal

/-- A whole piece. -/
def whole (bytes : List Nat) : Literal := ⟨bytes, true⟩

/-- More may follow. -/
def goesOn (l : Literal) : Literal := { l with exact := false }

/-- The first `n` bytes. -/
def first (n : Nat) (l : Literal) : Literal :=
  if l.bytes.length ≤ n then l else ⟨l.bytes.take n, false⟩

end Literal

/-- What pieces begin with, the preferred ones first; `none` if nothing is known. -/
abbrev Openings := Option (List Literal)

namespace Openings

/-- The bytes that are kept of a byte string. -/
def lengthLimit : Nat := 100

/-- How many byte strings are kept. -/
def numberLimit : Nat := 250

/-- How many members a set may have to be written out. -/
def membersLimit : Nat := 10

/-- How many rounds are written out. -/
def roundsLimit : Nat := 10

/-- How few bytes are kept to make room for more byte strings. -/
def tightLimit : Nat := 4

/-- Of equal neighbours only one is kept, which is exact if all are. -/
def squeeze (ls : List Literal) : List Literal :=
  ls.foldr (fun l rest =>
    match rest with
    | m :: rest =>
      if l.bytes = m.bytes then ⟨l.bytes, l.exact && m.exact⟩ :: rest else l :: m :: rest
    | [] => [l]) []

/-- Cut every byte string off after `n` bytes. -/
def cutOff (n : Nat) (ls : List Literal) : List Literal :=
  ls.map (Literal.first n)

theorem length_cutOff (n : Nat) (ls : List Literal) : (cutOff n ls).length = ls.length := by
  simp [cutOff]

/-- More may follow on all of them. -/
def opened (o : Openings) : Openings :=
  o.map fun ls => ls.map Literal.goesOn

/-- Whether none is exact, so that nothing can be known of what follows. -/
def isClosed (o : Openings) : Bool :=
  o.all fun ls => ls.all fun l => !l.exact

/-- What comes after exact openings goes on with others. -/
def append (a b : Openings) : Openings :=
  match a with
  | none => none
  | some ls =>
    match b.filter fun ms => ls.length * ms.length ≤ numberLimit with
    | none => if ls.any fun l => l.bytes.isEmpty then none else opened a
    | some ms =>
      some (cutOff lengthLimit (squeeze (ls.flatMap fun l =>
        if l.exact then ms.map fun m => ⟨l.bytes ++ m.bytes, m.exact⟩ else [l])))

/-- The openings of a choice. If there are too many, they are cut off to merge more of them. -/
def orElse (a b : Openings) : Openings :=
  match a, b with
  | some ls, some ms =>
    if ls.length + ms.length ≤ numberLimit then some (squeeze (ls ++ ms))
    else
      let ls := squeeze (cutOff tightLimit ls)
      let ms := squeeze (cutOff tightLimit ms)
      if ls.length + ms.length ≤ numberLimit then some (squeeze (ls ++ ms)) else none
  | _, _ => none

/-- The empty piece. -/
def nothing : Openings := some [.whole []]

/-- The openings of a row, from those of the parts so far and of the next one. Once nothing can be
known of what follows, further parts are left out. -/
def andThen (before next : Openings) : Openings :=
  if isClosed before then before else append before next

/-- So many rounds in a row. -/
def rounds (o : Openings) : Nat → Openings
  | 0 => nothing
  | n + 1 => andThen (rounds o n) o

/-- The openings of a repetition. -/
def repeated (o : Openings) (low : Nat) (high : Option Nat) (hurried : Bool) : Openings :=
  if low = 0 then
    let once := if high = some 1 then o else opened o
    if hurried then orElse once nothing else orElse nothing once
  else
    let written := rounds o (min low roundsLimit)
    if high = some low ∧ low ≤ roundsLimit then written else opened written

/-- The characters of a set, if they are few. -/
def ofSet (s : CharSet) : Openings :=
  let size (r : CharRange) := r.high.toNat + 1 - r.low.toNat
  if s.ranges.foldl (fun n r => n + size r) 0 ≤ membersLimit then
    some (s.ranges.flatMap fun r =>
      (List.range (size r)).map fun i => .whole (charBytes (r.low.toNat + i)))
  else none

/-! ## The most useful openings -/

/-- Without those that begin like one before them. -/
def preferred (ls : List Literal) : List Literal :=
  ls.foldl (fun kept l =>
    if kept.any fun k => k.bytes.isPrefixOf l.bytes then kept else kept ++ [l]) []

/-- What two byte strings begin with alike. -/
def common : List Nat → List Nat → List Nat
  | a :: as, b :: bs => if a = b then a :: common as bs else []
  | _, _ => []

/-- The bytes that texts have often: those of blanks, of the most usual letters, digits and marks,
and those that characters beyond ASCII begin with. -/
def isFrequent (b : Nat) : Bool :=
  0xC0 ≤ b ||
    (textBytes "\n\r (),-./0129:_abcdefghilmnoprstuvxy|".toList ++
      [0x80, 0x81, 0x82, 0x83, 0x84, 0x90, 0xB1, 0xB5, 0xB6, 0xB7, 0xB9, 0xBA, 0xBB, 0xBC, 0xBD,
        0xBF]).contains b

/-- Openings to search for. A rare byte that all begin with is enough, and so is a long beginning,
or one of two bytes if they are many. -/
def toSearch (ls : List Literal) : List Literal :=
  let kept := preferred ls
  match kept with
  | [] => []
  | l :: rest =>
    let shared := rest.foldl (fun s m => common s m.bytes) l.bytes
    let n := shared.length
    if 1 < ls.length ∧ 1 ≤ n ∧ n ≤ 3 ∧ !isFrequent (shared.headD 0) then cutOff 1 kept
    else if 4 < n ∨ 1 < n ∧ 16 < kept.length then cutOff n kept
    else kept

end Openings

namespace Pattern

/-- What the pieces of a row begin with whose other parts come before. -/
def openingsAfter (before : Openings) : Pattern → Openings
  | .empty | .edge _ => before.andThen .nothing
  | .text cs => before.andThen (some [(Literal.whole (textBytes cs)).first Openings.lengthLimit])
  | .one s _ => before.andThen (.ofSet s)
  | .seq p q => q.openingsAfter (p.openingsAfter before)
  | .alt p q => before.andThen ((p.openingsAfter .nothing).orElse (q.openingsAfter .nothing))
  | .times p low high hurried =>
    before.andThen ((p.openingsAfter .nothing).repeated low high hurried)
  | .group _ p => before.andThen (p.openingsAfter .nothing)

/-- What the pieces of a pattern begin with. -/
def openings (p : Pattern) : Openings :=
  p.openingsAfter .nothing

/-- Whether a pattern has neither edges nor groups. -/
def isPlain : Pattern → Bool
  | .empty | .text _ | .one _ _ => true
  | .edge _ | .group _ _ => false
  | .seq p q | .alt p q => p.isPlain && q.isPlain
  | .times p _ _ _ => p.isPlain

/-- Whether a pattern is searched for as a few texts. -/
def isLiteral (p : Pattern) : Bool :=
  p.isPlain &&
    match p.openings with
    | none => false
    | some ls =>
      !ls.isEmpty && ls.all (fun l => l.exact && !l.bytes.isEmpty) &&
        (Openings.toSearch ls).all fun l => l.exact

/-- How many texts make a choice that is searched for without an automaton. -/
def manyTexts : Nat := 3000

/-- Whether a pattern is a choice between very many texts. -/
def isVocabulary (p : Pattern) : Bool :=
  (Drafting.textsOf p).any fun ts => manyTexts ≤ ts.length

/-- Whether a pattern can be searched for: as texts, or by automata that stay within the budget. -/
def isSearchable (p : Pattern) : Bool :=
  p.isLiteral || p.isVocabulary || p.fits

end Pattern

end LiveShader
