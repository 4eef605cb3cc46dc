import LiveShader.Mesh
import LiveShader.Shader.Builtin
import LiveShader.Text.Search

/-!
# Shader code and how missing stages are filled in

`ShaderCode` is what arrives from outside; any of its three texts may be missing.
`ShaderCode.stages` turns it into the two stages to compile and never fails: an absent or empty
text counts as missing, a combined snippet stands in for the fragment stage, and the built-in
stages for the rest.
-/

namespace LiveShader

/-- The two stages of a program, and whether it is drawn with the camera matrix. -/
structure Stages where
  vertex : String
  fragment : String
  /-- Whether the vertex stage reads the camera matrix. -/
  readsCamera : Bool
  deriving DecidableEq, Repr

/-- The mesh that the stages are drawn with. -/
def Stages.mesh (s : Stages) : Mesh :=
  Mesh.ofCamera s.readsCamera

/-- Shader text as delivered. Any subset of the texts may be present. -/
structure ShaderCode where
  vertex : Option String := none
  fragment : Option String := none
  /-- A snippet that names no stage; it is read as the fragment stage. -/
  combined : Option String := none
  deriving DecidableEq, Repr

namespace ShaderCode

/-- Whether no text is present. -/
def isEmpty (c : ShaderCode) : Bool :=
  c.vertex.isNone && c.fragment.isNone && c.combined.isNone

/-- A text that is present and not empty. -/
def supplied (text : Option String) : Option String :=
  text.filter fun t => !t.isEmpty

/-- The vertex stage to compile. -/
def vertexText (c : ShaderCode) : String :=
  (supplied c.vertex).getD Builtin.vertexText

/-- The fragment stage to compile: its own text, else the combined snippet, else the built-in. -/
def fragmentText (c : ShaderCode) : String :=
  ((supplied c.fragment).or (supplied c.combined)).getD Builtin.fragmentText

/-- The stages to compile. The mesh is decided here once, by the vertex text alone. -/
def stages (c : ShaderCode) : Stages where
  vertex := c.vertexText
  fragment := c.fragmentText
  readsCamera := Text.mentions c.vertexText Builtin.cameraUniform

end ShaderCode

end LiveShader
