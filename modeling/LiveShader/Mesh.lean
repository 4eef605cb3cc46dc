/-!
# The two meshes

A session draws either a quad that covers the canvas or a unit cube. A `Mesh` names one of them;
its vertex data, index data and draw parameters are functions of that name.

* Positions are given as `Float32` coordinates; `vertexData` lays them out in little-endian order.
* A mesh without indices is drawn from its vertices, one with indices from those.
-/

namespace LiveShader

/-- Which mesh a session draws. -/
inductive Mesh where
  | quad
  | cube
  deriving DecidableEq, Repr

namespace Mesh

/-- The mesh for a shader, by whether its vertex stage reads the camera matrix. -/
def ofCamera (readsCamera : Bool) : Mesh :=
  if readsCamera then .cube else .quad

/-- The name of the mesh as reports show it. -/
def name : Mesh → String
  | .quad => "Quad"
  | .cube => "Cube"

/-- The number of coordinates of a position. -/
def dimension : Mesh → Nat
  | .quad => 2
  | .cube => 3

/-- The positions. The quad is two triangles; the cube has four corners for each of its faces
front, back, top, bottom, right and left. -/
def positions : Mesh → List (List Float32)
  | .quad =>
    [[-1, -1], [1, -1], [-1, 1], [-1, 1], [1, -1], [1, 1]]
  | .cube =>
    [[-0.5, -0.5, 0.5], [0.5, -0.5, 0.5], [0.5, 0.5, 0.5], [-0.5, 0.5, 0.5],
      [-0.5, -0.5, -0.5], [-0.5, 0.5, -0.5], [0.5, 0.5, -0.5], [0.5, -0.5, -0.5],
      [-0.5, 0.5, -0.5], [-0.5, 0.5, 0.5], [0.5, 0.5, 0.5], [0.5, 0.5, -0.5],
      [-0.5, -0.5, -0.5], [0.5, -0.5, -0.5], [0.5, -0.5, 0.5], [-0.5, -0.5, 0.5],
      [0.5, -0.5, -0.5], [0.5, 0.5, -0.5], [0.5, 0.5, 0.5], [0.5, -0.5, 0.5],
      [-0.5, -0.5, -0.5], [-0.5, -0.5, 0.5], [-0.5, 0.5, 0.5], [-0.5, 0.5, -0.5]]

/-- The triangle list of the cube, two triangles a face, counter-clockwise seen from outside. -/
def indices : Mesh → List UInt16
  | .quad => []
  | .cube =>
    [0, 1, 2, 0, 2, 3, 4, 5, 6, 4, 6, 7, 8, 9, 10, 8, 10, 11,
      12, 13, 14, 12, 14, 15, 16, 17, 18, 16, 18, 19, 20, 21, 22, 20, 22, 23]

/-- The number of positions. -/
def vertexCount (m : Mesh) : Nat :=
  m.positions.length

/-- Whether the mesh is drawn through an index buffer. -/
def isIndexed (m : Mesh) : Bool :=
  !m.indices.isEmpty

/-- The number of elements a draw call covers: indices if there are any, else vertices. -/
def elementCount (m : Mesh) : Nat :=
  if m.isIndexed then m.indices.length else m.vertexCount

/-! ## Upload layout -/

/-- The four bytes of a word, lowest first. -/
def wordBytes (w : UInt32) : List UInt8 :=
  [w.toUInt8, (w >>> 8).toUInt8, (w >>> 16).toUInt8, (w >>> 24).toUInt8]

/-- The two bytes of a half word, lowest first. -/
def halfBytes (w : UInt16) : List UInt8 :=
  [w.toUInt8, (w >>> 8).toUInt8]

/-- The vertex data as uploaded: the coordinates one after the other, without gaps. -/
def vertexData (m : Mesh) : List UInt8 :=
  m.positions.flatten.flatMap fun x => wordBytes x.toBits

/-- The index data as uploaded. -/
def indexData (m : Mesh) : List UInt8 :=
  m.indices.flatMap halfBytes

end Mesh

end LiveShader
