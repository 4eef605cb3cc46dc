import LiveShader.Engine
import LiveShader.Shader.Code

/-!
# Building programs and placing meshes

The objects that a session needs are made here, one step after the other. Every computation that
can fail deletes what it has made before it fails, so a failed attempt leaves no object behind.

* `Build.program` compiles both stages and links them; the stages are gone afterwards.
* `Build.place` uploads a mesh and feeds its positions to a program.
-/

namespace LiveShader

open Engine

namespace Build

/-! ## Programs -/

/-- Compile one stage. A stage that does not compile is deleted. -/
def compile (stage : Stage) (text : String) : Engine (Except Failure Shader) := do
  match ← gpu (.createShader stage) with
  | .error refusal => return .error (.refused refusal)
  | .ok shader =>
    gpu (.shaderSource shader text)
    gpu (.compileShader shader)
    match ← gpu (.shaderCompileStatus shader) with
    | true => return .ok shader
    | false =>
      let log ← gpu (.shaderInfoLog shader)
      gpu (.deleteShader shader)
      note (.stageFailed stage log)
      return .error (.compile stage log)

/-- Link two compiled stages. The stages are deleted whatever happens, and so is a program that
does not link. -/
def link (vertex fragment : Shader) : Engine (Except Failure Program) := do
  match ← gpu .createProgram with
  | .error refusal =>
    gpu (.deleteShader vertex)
    gpu (.deleteShader fragment)
    return .error (.refused refusal)
  | .ok program =>
    gpu (.attachShader program vertex)
    gpu (.attachShader program fragment)
    gpu (.linkProgram program)
    match ← gpu (.programLinkStatus program) with
    | true =>
      gpu (.detachShader program vertex)
      gpu (.detachShader program fragment)
      gpu (.deleteShader vertex)
      gpu (.deleteShader fragment)
      return .ok program
    | false =>
      let log ← gpu (.programInfoLog program)
      gpu (.deleteProgram program)
      gpu (.deleteShader vertex)
      gpu (.deleteShader fragment)
      note (.linkFailed log)
      return .error (.link log)

/-- Compile both stages and link them. -/
def program (stages : Stages) : Engine (Except Failure Program) := do
  match ← compile .vertex stages.vertex with
  | .error e => return .error e
  | .ok vertex =>
    match ← compile .fragment stages.fragment with
    | .error e =>
      gpu (.deleteShader vertex)
      return .error e
    | .ok fragment => link vertex fragment

/-- Delete a program that may be current. -/
def deleteProgram (program : Program) : Engine Unit := do
  gpu (.useProgram none)
  gpu (.deleteProgram program)

end Build

/-! ## Meshes -/

/-- The objects that hold one mesh on the device. -/
structure PlacedMesh where
  mesh : Mesh
  array : VertexArray
  vertices : Buffer
  /-- The index buffer of a mesh that has indices. -/
  indices : Option Buffer
  deriving DecidableEq, Repr

namespace PlacedMesh

/-- Bind the mesh for drawing. -/
def select (m : PlacedMesh) : Engine Unit :=
  gpu (.bindVertexArray (some m.array))

/-- Delete the objects of a mesh that may be bound. -/
def delete (m : PlacedMesh) : Engine Unit := do
  gpu (.bindVertexArray none)
  gpu (.deleteVertexArray m.array)
  gpu (.deleteBuffer m.vertices)
  m.indices.forM fun indices => gpu (.deleteBuffer indices)

end PlacedMesh

namespace Build

/-- The attribute that gets the positions: the one with the name for them, else the first, to
which stages that name it otherwise usually pin it. -/
def positionIndex (program : Program) : Engine Nat := do
  match ← gpu (.attribLocation program Builtin.positionAttribute) with
  | some index => return index
  | none =>
    note .noPosition
    return 0

/-- Make and fill the index buffer of a mesh whose other objects are there. They are deleted if
the buffer is refused. -/
def placeIndices (mesh : Mesh) (array : VertexArray) (vertices : Buffer) :
    Engine (Except Failure (Option Buffer)) := do
  match mesh.isIndexed with
  | false => return .ok none
  | true =>
    match ← gpu .createBuffer with
    | .error refusal =>
      gpu (.bindVertexArray none)
      gpu (.deleteVertexArray array)
      gpu (.deleteBuffer vertices)
      return .error (.refused refusal)
    | .ok indices =>
      gpu (.bindBuffer .elementArray (some indices))
      gpu (.bufferData .elementArray mesh.indexData)
      return .ok (some indices)

/-- Upload a mesh and feed its positions to a program. The new vertex array stays bound. -/
def place (program : Program) (mesh : Mesh) : Engine (Except Failure PlacedMesh) := do
  match ← gpu .createVertexArray with
  | .error refusal => return .error (.refused refusal)
  | .ok array =>
    gpu (.bindVertexArray (some array))
    match ← gpu .createBuffer with
    | .error refusal =>
      gpu (.bindVertexArray none)
      gpu (.deleteVertexArray array)
      return .error (.refused refusal)
    | .ok vertices =>
      gpu (.bindBuffer .array (some vertices))
      gpu (.bufferData .array mesh.vertexData)
      let index ← positionIndex program
      gpu (.floatAttribute index mesh.dimension)
      match ← placeIndices mesh array vertices with
      | .error e => return .error e
      | .ok indices =>
        note (.meshPlaced mesh)
        return .ok ⟨mesh, array, vertices, indices⟩

/-- Build a program, make it current and place its mesh. -/
def programAndMesh (stages : Stages) : Engine (Except Failure (Program × PlacedMesh)) := do
  match ← program stages with
  | .error e => return .error e
  | .ok program =>
    gpu (.useProgram (some program))
    match ← place program stages.mesh with
    | .error e =>
      deleteProgram program
      return .error e
    | .ok placed => return .ok (program, placed)

end Build

end LiveShader
