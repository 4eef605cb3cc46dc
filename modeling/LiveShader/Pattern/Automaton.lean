import LiveShader.Pattern.ByteRange
import LiveShader.Pattern.Extent

/-!
# How large the automaton of a pattern is

Two automata over bytes recognise a pattern, one that reads a text forward and one that reads it
backward. `Pattern.fits` drafts both, without their transitions, and says whether each stays within
the budget.

* A state takes `stateSize` bytes. A fork takes `linkSize` more for every state it leads to, and a
  state that reads a byte of several ranges takes `rangeSize` more for every range.
* A draft grows only, so it is given up as soon as it is over the budget.
* States that read the bytes of a set beyond ASCII are shared if they are found again in a table
  of limited size, where a later state may take the place of an earlier one. Slots of the table
  depend on the numbers of states, so states are numbered as they are drafted.

Results:
* `size_add`: drafting never makes a draft smaller.
-/

namespace LiveShader

/-! ## Drafts -/

/-- The bytes that a state takes. -/
def stateSize : Nat := 32

/-- The bytes that one way out of a fork takes. -/
def linkSize : Nat := 4

/-- The bytes that one range takes, with the state that it leads to. -/
def rangeSize : Nat := 8

/-- The bytes that an automaton may take. -/
def sizeBudget : Nat := 10485760

/-- A state to be shared: its slot in the table, what it reads and where that leads, and its
number. -/
structure Shared where
  slot : Nat
  key : List Nat
  state : Nat
  deriving DecidableEq, Repr

/-- An automaton that is being drafted. -/
structure Draft where
  states : Nat := 0
  /-- The bytes that forks and ranges take. -/
  extra : Nat := 0
  /-- The states of the present set that may be shared, the latest first. -/
  shared : List Shared := []
  deriving DecidableEq, Repr

/-- The bytes that an automaton takes. -/
def Draft.size (d : Draft) : Nat :=
  d.states * stateSize + d.extra

/-- Drafting, which fails over the budget. -/
abbrev Drafting := StateT Draft Option

namespace Drafting

/-- Add so many states, and so many bytes besides. -/
def add (states extra : Nat) : Drafting Unit := fun d =>
  let d := { d with states := d.states + states, extra := d.extra + extra }
  if d.size ≤ sizeBudget then some ((), d) else none

theorem size_add {states extra : Nat} {d e : Draft} (h : add states extra d = some ((), e)) :
    e.size = d.size + states * stateSize + extra ∧ e.size ≤ sizeBudget := by
  simp only [add, Option.ite_none_right_eq_some, Option.some.injEq, Prod.mk.injEq, true_and] at h
  obtain ⟨hle, rfl⟩ := h
  refine ⟨?_, hle⟩
  simp only [Draft.size, Nat.add_mul]
  omega

/-- Add one state, and give its number. -/
def newState (extra : Nat) : Drafting Nat := do
  let number := (← get).states
  add 1 extra
  return number

/-- Lead on from a state, which takes a link only if the state is a fork. -/
def link (fork : Bool) : Drafting Unit :=
  add 0 (if fork then linkSize else 0)

/-! ## Shared states -/

/-- The slot of a key in a table: the 64-bit FNV-1a digest of its numbers. -/
def slotOf (slots : Nat) (key : List Nat) : Nat :=
  let mix (h : UInt64) (n : Nat) := (h ^^^ n.toUInt64) * 0x100000001b3
  (key.foldl mix 0xcbf29ce484222325).toNat % slots

/-- The state with a key, found in the table or added. -/
def shareState (slots : Nat) (key : List Nat) (extra : Nat) : Drafting Nat := do
  let slot := slotOf slots key
  match (← get).shared.find? fun s => s.slot == slot with
  | some ⟨_, found, state⟩ => if found = key then return state else addTo slot
  | none => addTo slot
where
  /-- Add a state and put it into a slot. -/
  addTo (slot : Nat) : Drafting Nat := do
    let state ← newState extra
    modify fun d => { d with shared := ⟨slot, key, state⟩ :: d.shared }
    return state

/-- Byte strings by their first range; equal ranges side by side go together. -/
def byFirst : List (List ByteRange) → List (ByteRange × List (List ByteRange))
  | [] => []
  | [] :: rest => byFirst rest
  | (r :: tail) :: rest =>
    match byFirst rest with
    | (s, tails) :: more =>
      if r = s then (s, tail :: tails) :: more else (r, [tail]) :: (s, tails) :: more
    | [] => [(r, [tail])]

/-- The state that reads any of the given byte strings, of `length` bytes at most, up to `stop`.
States that read the same ends are shared. -/
def readStrings (stop : Nat) : (length : Nat) → List (List ByteRange) → Drafting Nat
  | 0, _ => return stop
  | length + 1, strings => do
    let links ← (byFirst strings).mapM fun (r, tails) => do
      let next ← if tails.all List.isEmpty then pure stop else readStrings stop length tails
      return (r, next)
    shareState 10000 (links.flatMap fun (r, next) => [r.low, r.high, next])
      (links.length * rangeSize)

/-- The states that read a byte string from its end, one range each, after the state `stop`. States
that lead on alike are shared. -/
def readBackward (stop : Nat) (string : List ByteRange) : Drafting Nat :=
  string.foldlM (fun next r => shareState 1000 [next, r.low, r.high] 0) stop

/-! ## Texts to choose from -/

/-- First bytes in order, each with what follows it. -/
abbrev Branches := List (Nat × List (List Nat))

/-- File a byte string under its first byte. -/
def fileUnder (b : Nat) (tail : List Nat) : Branches → Branches
  | [] => [(b, [tail])]
  | (c, tails) :: rest =>
    if b = c then (c, tails ++ [tail]) :: rest
    else if b < c then (b, [tail]) :: (c, tails) :: rest
    else (c, tails) :: fileUnder b tail rest

/-- The branches that byte strings lead to from one point. The empty string ends the branches so
far, for it is preferred to what comes later; at the very front it does so once. -/
def branches (strings : List (List Nat)) : List Branches :=
  let (ended, last) := strings.foldl (fun ((ended, last) : List Branches × Branches) string =>
    match string with
    | b :: tail => (ended, fileUnder b tail last)
    | [] => if last.isEmpty && ended == [[]] then (ended, last) else (ended ++ [last], [])) ([], [])
  ended ++ [last]

/-- The states that choose between byte strings, of `length` bytes at most, and the bytes that they
take besides: a fork between the branches, and for every branch a state that reads its byte. -/
def choiceSize : (length : Nat) → List (List Nat) → Nat × Nat
  | 0, _ => (0, 0)
  | length + 1, strings =>
    let all := branches strings
    let links := (all.filter fun b => !b.isEmpty).length + (all.length - 1)
    all.foldl (fun sum chunk =>
      let own := (min chunk.length 1, if 1 < chunk.length then chunk.length * rangeSize else 0)
      chunk.foldl (fun (states, extra) (_, tails) =>
        if tails.all List.isEmpty then (states, extra)
        else
          let next := choiceSize length tails
          (states + next.1, extra + next.2)) (sum.1 + own.1, sum.2 + own.2))
      (1, links * linkSize)

/-! ## Patterns -/

/-- Which way an automaton reads. -/
inductive Direction where
  | forward
  | backward
  deriving DecidableEq, Repr

/-- The states that read a character of a set. -/
def setStates (way : Direction) (s : CharSet) : Drafting Unit :=
  if s.isAscii then add 2 (s.ranges.length * rangeSize)
  else do
    let strings := s.ranges.flatMap CharRange.byteStrings
    modify fun d => { d with shared := [] }
    match way with
    | .forward =>
      let stop ← newState 0
      let _ ← readStrings stop 4 strings
    | .backward =>
      add 1 0
      let stop ← newState 0
      strings.forM fun string => do
        let _ ← readBackward stop string
        link true

/-- The texts that a choice is between, if it is between texts only. -/
def textsOf (p : Pattern) : Option (List (List Char)) :=
  match p with
  | .text cs => some [cs]
  | .alt (.text cs) q => (textsOf q).map (cs :: ·)
  | _ => none

/-- The states of a choice between texts. -/
def textStates (way : Direction) (texts : List (List Char)) : Drafting Unit :=
  let strings := texts.map fun cs =>
    match way with
    | .forward => textBytes cs
    | .backward => (textBytes cs).reverse
  let longest := strings.foldl (fun n string => max n string.length) 0
  let (states, extra) := choiceSize (longest + 1) strings
  add (states + 1) extra

/-- So many rounds more, after a state. Like the drafts below it says whether the last state is a
fork. -/
def rounds (once : Drafting Bool) : (n : Nat) → (fork : Bool) → Drafting Bool
  | 0, fork => return fork
  | n + 1, fork => do
    let next ← once
    link fork
    rounds once n next

/-- Exactly so many rounds. -/
def exactly (once : Drafting Bool) : (n : Nat) → Drafting Bool
  | 0 => do
    add 1 0
    return false
  | n + 1 => do
    rounds once n (← once)

/-- At most so many rounds, after a state and before the one that all forks lead to. -/
def optional (once : Drafting Bool) : (n : Nat) → (fork : Bool) → Drafting Unit
  | 0, fork => link fork
  | n + 1, fork => do
    add 1 (2 * linkSize)
    let next ← once
    link fork
    optional once n next

/-- The states of a repetition. `needy` says that a round takes a byte at least. -/
def repeatStates (once : Drafting Bool) (needy : Bool) :
    (low : Nat) → (high : Option Nat) → Drafting Bool
  | 0, some 1 => do
    add 1 (2 * linkSize)
    link (← once)
    add 1 0
    return false
  | 0, none =>
    if needy then do
      add 1 linkSize
      link (← once)
      return true
    else do
      link (← once)
      add 3 (4 * linkSize)
      return false
  | low + 1, none => do
    let fork ← if low = 0 then pure false else exactly once low
    link (← once)
    link fork
    add 1 linkSize
    return true
  | low, some high => do
    let fork ← exactly once low
    if low = high then return fork
    add 1 0
    optional once (high - low) fork
    return false

/-- What follows the states of an alternative; `place` is its place in a choice, if it is in one.
Behind the second come the fork before all alternatives and the state behind them. -/
def endAlternative (place : Option Nat) (fork : Bool) : Drafting Bool :=
  match place with
  | none => return fork
  | some i => do
    link true
    link fork
    if i = 1 then add 2 0
    return false

/-- The states of a pattern. Only the automaton that reads forward remembers groups. -/
def patternStates (way : Direction) : Pattern → (place : Option Nat) → Drafting Bool
  | .empty, place | .edge _, place => do
    add 1 0
    endAlternative place false
  | .text cs, place => do
    add (Text.byteLength cs) 0
    endAlternative place false
  | .one s _, place => do
    setStates way s
    endAlternative place false
  | .seq p q, place => do
    let fork ← match way with
      | .forward => do
        let fork ← patternStates way p none
        let last ← patternStates way q none
        link fork
        pure last
      | .backward => do
        let fork ← patternStates way q none
        let last ← patternStates way p none
        link fork
        pure last
    endAlternative place fork
  | .alt p q, place =>
    match place, textsOf (.alt p q) with
    | none, some texts => do
      textStates way texts
      return false
    | _, _ => do
      let i := place.getD 0
      let fork ← patternStates way p none
      let _ ← endAlternative (some i) fork
      patternStates way q (some (i + 1))
  | .times p low high _, place => do
    let needy := (p.shortest.getD 0) != 0
    endAlternative place (← repeatStates (patternStates way p none) needy low high)
  | .group _ p, place =>
    match way with
    | .forward => do
      add 1 0
      link (← patternStates way p none)
      add 1 0
      endAlternative place false
    | .backward => do
      endAlternative place (← patternStates way p none)

/-- The whole automaton. If a piece need not be where reading starts, any bytes may come before. -/
def automaton (way : Direction) (p : Pattern) : Drafting Unit := do
  match way with
  | .forward =>
    if p.startsText then add 1 0 else add 3 (rangeSize + 2 * linkSize)
    add 1 0
    link (← patternStates way p none)
    add 2 0
  | .backward =>
    if p.endsText then add 1 0 else add 3 (rangeSize + 2 * linkSize)
    link (← patternStates way p none)
    add 1 0

end Drafting

/-- Whether the automata of a pattern stay within the budget. -/
def Pattern.fits (p : Pattern) : Bool :=
  ((Drafting.automaton .forward p).run {}).isSome &&
    ((Drafting.automaton .backward p).run {}).isSome

end LiveShader
