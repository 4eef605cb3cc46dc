import LiveShader.Fence.Block
import LiveShader.Shader.Code

/-!
# Which block becomes which stage

`ShaderCode.ofProse` sorts the blocks of a text into the three texts of shader code.

* Blocks with an empty body do not count.
* A block labelled for a stage fills that stage; the first one wins.
* Any other block is the vertex stage if the text speaks of a vertex shader and there is none yet,
  else the fragment stage if the text speaks of a fragment shader, there is a vertex stage and no
  fragment stage yet, else the combined snippet.
* A combined snippet is dropped when both stages are there.
-/

namespace LiveShader.Fence

open LiveShader.Text

/-- The field that a block is offered to. -/
inductive Slot where
  | vertex
  | fragment
  | combined
  deriving DecidableEq, Repr

/-- Which stages the text speaks of. -/
structure Hints where
  vertex : Bool
  fragment : Bool
  deriving DecidableEq, Repr

/-- The hints of a text, read without regard to the case of ASCII letters. -/
def Hints.ofText (text : List Char) : Hints :=
  let low := lowerAscii text
  ⟨occursIn "vertex shader".toList low, occursIn "fragment shader".toList low⟩

/-- The stage that a label names. -/
def stageOfLabel (label : List Char) : Option Slot :=
  if label = "vertex".toList ∨ label = "vert".toList then some .vertex
  else if label = "fragment".toList ∨ label = "frag".toList then some .fragment
  else none

/-- The field for the next block, given what has been found so far. -/
def slotFor (hints : Hints) (found : ShaderCode) (label : List Char) : Slot :=
  match stageOfLabel label with
  | some slot => slot
  | none =>
    if hints.vertex && found.vertex.isNone then .vertex
    else if hints.fragment && found.vertex.isSome && found.fragment.isNone then .fragment
    else .combined

/-- Put `body` into a field unless something is there already. -/
def fill (found : ShaderCode) (body : String) : Slot → ShaderCode
  | .vertex => { found with vertex := found.vertex.or (some body) }
  | .fragment => { found with fragment := found.fragment.or (some body) }
  | .combined => { found with combined := found.combined.or (some body) }

/-- What is found after one more block. -/
def assign (hints : Hints) (found : ShaderCode) (b : Block) : ShaderCode :=
  if b.body.isEmpty then found
  else fill found (String.ofList b.body) (slotFor hints found b.label)

/-- Both stages leave no room for a combined snippet. -/
def settle (found : ShaderCode) : ShaderCode :=
  if found.vertex.isSome && found.fragment.isSome then { found with combined := none } else found

end LiveShader.Fence

namespace LiveShader

/-- The shader code that a text carries in its fenced blocks. -/
def ShaderCode.ofProse (text : String) : ShaderCode :=
  let cs := text.toList
  Fence.settle ((Fence.blocks cs).foldl (Fence.assign (Fence.Hints.ofText cs)) {})

end LiveShader
