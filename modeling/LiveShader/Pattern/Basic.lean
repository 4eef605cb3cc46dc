import LiveShader.Pattern.CharSet

/-!
# Patterns

A `Pattern` stands for pieces of a text. `Pattern.spans` gives, for every place of a text, the
places where a piece that starts there can end; `Pattern.occursIn` asks whether there is such a
piece anywhere.

* Places are counted from zero, so a text of `n` characters has `n + 1` of them.
* No piece ends before it starts. So a repetition of more than `n + 1` rounds has idle rounds, and
  is the same as one of `n + 1`.
-/

namespace LiveShader

/-! ## Edges -/

/-- A condition on a place of a text. -/
inductive Edge where
  | textStart
  | textEnd
  | lineStart
  | lineEnd
  /-- The start of a line that ends with a carriage return, a line feed or both. -/
  | crlfStart
  /-- The end of such a line. -/
  | crlfEnd
  | wordEdge
  | noWordEdge
  | wordStart
  | wordEnd
  /-- No word character stands before. -/
  | wordStartHalf
  /-- No word character stands after. -/
  | wordEndHalf
  /-- An edge of words in all of Unicode, which nothing here can decide. -/
  | unicodeWord
  deriving DecidableEq, Repr

namespace Edge

/-- Whether a word character is there. -/
def isWord (c : Option Char) : Bool :=
  c.any CharSet.word.has

/-- Whether the condition holds between two characters; `none` stands for the end of the text. -/
def holds (before after : Option Char) : Edge → Bool
  | .textStart => before.isNone
  | .textEnd => after.isNone
  | .lineStart => before.isNone || before == some '\n'
  | .lineEnd => after.isNone || after == some '\n'
  | .crlfStart =>
    before.isNone || before == some '\n' || before == some '\r' && after != some '\n'
  | .crlfEnd => after.isNone || after == some '\r' || after == some '\n' && before != some '\r'
  | .wordEdge => isWord before != isWord after
  | .noWordEdge => isWord before == isWord after
  | .wordStart => !isWord before && isWord after
  | .wordEnd => isWord before && !isWord after
  | .wordStartHalf => !isWord before
  | .wordEndHalf => !isWord after
  | .unicodeWord => false

end Edge

/-! ## Spans -/

/-- For every place of a text, the places where a piece that starts there ends. -/
abbrev Spans := List (List Nat)

namespace Spans

/-- The places of either list, without repetition. -/
def merge (a b : List Nat) : List Nat :=
  a ++ b.filter fun j => !a.contains j

/-- The empty pieces of a text of length `n`. -/
def idle (n : Nat) : Spans :=
  (List.range (n + 1)).map fun i => [i]

/-- One piece right after the other. -/
def comp (r s : Spans) : Spans :=
  r.map fun ends => ends.foldl (fun found j => merge found (s.getD j [])) []

/-- Either piece. -/
def union (r s : Spans) : Spans :=
  r.zipWith merge s

/-- So many pieces in a row, in a text of length `n`. -/
def power (n : Nat) (r : Spans) : Nat → Spans
  | 0 => idle n
  | k + 1 => (power n r k).comp r

end Spans

/-! ## Patterns -/

/-- What stands for pieces of a text. Rows of more than two parts and choices of more than two
alternatives nest to the right. -/
inductive Pattern where
  | empty
  /-- Exactly these characters, one at least. -/
  | text (cs : List Char)
  /-- One character of a set, which may have been written as a set of bytes. -/
  | one (s : CharSet) (bytes : Bool)
  /-- Nothing, at a place that meets a condition. -/
  | edge (e : Edge)
  | seq (p q : Pattern)
  | alt (p q : Pattern)
  /-- At least `low` times, and at most `high` times if that is given; `hurried` prefers more. -/
  | times (p : Pattern) (low : Nat) (high : Option Nat) (hurried : Bool)
  /-- A piece to be remembered under a number. -/
  | group (index : Nat) (p : Pattern)
  deriving DecidableEq, Repr

namespace Pattern

/-- The pieces of a text that a pattern stands for. -/
def spans (text : List Char) : Pattern → Spans
  | .empty => .idle text.length
  | .text cs =>
    (List.range (text.length + 1)).map fun i =>
      if cs.isPrefixOf (text.drop i) then [i + cs.length] else []
  | .one s _ =>
    (List.range (text.length + 1)).map fun i => if text[i]?.any s.has then [i + 1] else []
  | .edge e =>
    (List.range (text.length + 1)).map fun i =>
      if e.holds ((none :: text.map some).getD i none) text[i]? then [i] else []
  | .seq p q => (p.spans text).comp (q.spans text)
  | .alt p q => (p.spans text).union (q.spans text)
  | .times p low high _ =>
    let n := text.length
    let once := p.spans text
    let further := (high.map fun h => min (h - low) n).getD n
    (Spans.power n once (min low (n + 1))).comp
      (Spans.power n ((Spans.idle n).union once) further)
  | .group _ p => p.spans text

/-- Whether a text has a piece that the pattern stands for. -/
def occursIn (p : Pattern) (text : String) : Bool :=
  (p.spans text.toList).any fun ends => !ends.isEmpty

/-! ## What can be decided -/

/-- Whether no part asks for the edges of words in all of Unicode. -/
def isKnown : Pattern → Bool
  | .empty | .text _ | .one _ _ => true
  | .edge e => e != .unicodeWord
  | .seq p q | .alt p q => p.isKnown && q.isKnown
  | .times p _ _ _ | .group _ p => p.isKnown

end Pattern

end LiveShader
