import LiveShader.Fence.Block
import LiveShader.Text.Slice

/-!
# Finding fenced blocks by bytes

The blocks of a text can be cut out of the text itself. A scan goes over the lines and counts the
bytes before each; a `Span` is a block as the scan finds it, with the bytes before its body and
before its closing line. Only then is the body cut out, and a span whose ends are no places of the
text, or are in the wrong order, makes the whole scan fail.
-/

namespace LiveShader.Fence

open LiveShader.Text

/-- Where a block is: its body starts behind `start` bytes, and its closing line behind `stop`. -/
structure Span where
  label : List Char
  start : Nat
  stop : Nat
  deriving DecidableEq, Repr

/-- The spans of the blocks that are closed in the lines to come. There are `offset` bytes before
these lines; `opened` holds the label of the block that is open, and the bytes before its body. -/
def spansOfLines (opened : Option (List Char × Nat)) (offset : Nat) :
    List (List Char) → List Span
  | [] => []
  | line :: rest =>
    let next := offset + byteLength line
    match opened, fence? line with
    | _, none => spansOfLines opened next rest
    | none, some info => spansOfLines (some (labelOf info, next)) next rest
    | some (label, start), some _ => ⟨label, start, offset⟩ :: spansOfLines none next rest

/-- The spans of the closed blocks of a text, in order. -/
def spans (text : List Char) : List Span :=
  spansOfLines none 0 (lines text)

/-- Cut a block out of a text. -/
def Span.cut? (text : List Char) (s : Span) : Option Block :=
  (slice? text s.start s.stop).map fun body => ⟨s.label, trim body⟩

/-- The closed blocks of a text, in order, cut out of it; `none` if one cannot be cut out. -/
def scan (text : List Char) : Option (List Block) :=
  (spans text).mapM (Span.cut? text)

end LiveShader.Fence
