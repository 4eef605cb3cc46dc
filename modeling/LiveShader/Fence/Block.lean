import LiveShader.Text.Blank
import LiveShader.Text.Search

/-!
# Fenced blocks of a text

Model output is prose around blocks fenced by lines of three backticks.

* A fence line is one that starts, after blanks, with three backticks.
* Fence lines pair up in order: the first of a pair opens a block and carries its label, the second
  closes it, whatever else stands on it. A block that is never closed is no block.
* The label is the first word after the backticks, in small letters; the body is what stands
  between the two lines, trimmed.
-/

namespace LiveShader.Fence

open LiveShader.Text

/-- What a fence line starts with. -/
def ticks : List Char := "```".toList

/-- The text after the backticks of a fence line; `none` for any other line. -/
def fence? (line : List Char) : Option (List Char) :=
  let t := trimStart line
  if ticks.isPrefixOf t then some (t.drop ticks.length) else none

/-- A closed block. -/
structure Block where
  label : List Char
  body : List Char
  deriving DecidableEq, Repr

/-- The label that the text after the opening backticks gives. -/
def labelOf (info : List Char) : List Char :=
  lowerAscii (firstWord info)

/-- The blocks of the lines to come. `opened` holds the label of the block that is open, and its
lines so far, the last one first. -/
def blocksOfLines (opened : Option (List Char × List (List Char))) :
    List (List Char) → List Block
  | [] => []
  | line :: rest =>
    match opened, fence? line with
    | none, none => blocksOfLines none rest
    | none, some info => blocksOfLines (some (labelOf info, [])) rest
    | some (label, body), none => blocksOfLines (some (label, line :: body)) rest
    | some (label, body), some _ =>
      ⟨label, trim body.reverse.flatten⟩ :: blocksOfLines none rest

/-- The closed blocks of a text, in order. -/
def blocks (text : List Char) : List Block :=
  blocksOfLines none (lines text)

end LiveShader.Fence
