/-!
# Vectors and matrices of singles

Every operation here is one rounding to nearest, in the order written: no product is fused with a
sum, and zeros are multiplied like any other value, so infinities and signed zeros propagate.
-/

namespace LiveShader

/-- A vector of three singles. -/
structure Vec3 where
  x : Float32
  y : Float32
  z : Float32
  deriving DecidableEq

/-- A vector of four singles. -/
structure Vec4 where
  x : Float32
  y : Float32
  z : Float32
  w : Float32
  deriving DecidableEq

/-- A four by four matrix, given by its columns. -/
structure Mat4 where
  c0 : Vec4
  c1 : Vec4
  c2 : Vec4
  c3 : Vec4
  deriving DecidableEq

namespace Vec3

/-- The inner product. -/
def dot (a b : Vec3) : Float32 :=
  a.x * b.x + a.y * b.y + a.z * b.z

/-- The cross product. -/
def cross (a b : Vec3) : Vec3 :=
  ⟨a.y * b.z - b.y * a.z, a.z * b.x - b.z * a.x, a.x * b.y - b.x * a.y⟩

/-- The vector of length one in the same direction. -/
def normalize (v : Vec3) : Vec3 :=
  let r := 1 / (v.dot v).sqrt
  ⟨v.x * r, v.y * r, v.z * r⟩

/-- The vector from the origin to the opposite point. -/
def toOrigin (v : Vec3) : Vec3 :=
  ⟨0 - v.x, 0 - v.y, 0 - v.z⟩

end Vec3

namespace Vec4

/-- The components in order. -/
def toList (v : Vec4) : List Float32 :=
  [v.x, v.y, v.z, v.w]

/-- The sum. -/
def add (a b : Vec4) : Vec4 :=
  ⟨a.x + b.x, a.y + b.y, a.z + b.z, a.w + b.w⟩

/-- The multiple by `r`. -/
def scale (v : Vec4) (r : Float32) : Vec4 :=
  ⟨v.x * r, v.y * r, v.z * r, v.w * r⟩

end Vec4

namespace Mat4

/-- The components, column after column. -/
def toList (m : Mat4) : List Float32 :=
  m.c0.toList ++ m.c1.toList ++ m.c2.toList ++ m.c3.toList

/-- The image of a vector: the columns are weighted and summed from left to right. -/
def apply (m : Mat4) (v : Vec4) : Vec4 :=
  (((m.c0.scale v.x).add (m.c1.scale v.y)).add (m.c2.scale v.z)).add (m.c3.scale v.w)

/-- The product. -/
def mul (a b : Mat4) : Mat4 :=
  ⟨a.apply b.c0, a.apply b.c1, a.apply b.c2, a.apply b.c3⟩

/-- The projection of a camera that looks along the negative third axis: `fov` is the vertical
angle of view in radians, depths between `near` and `far` go to the range from -1 to 1. -/
def perspective (fov aspect near far : Float32) : Mat4 :=
  let inverse := 1 / (near - far)
  let f := 1 / (0.5 * fov).tan
  ⟨⟨f / aspect, 0, 0, 0⟩, ⟨0, f, 0, 0⟩, ⟨0, 0, (near + far) * inverse, -1⟩,
    ⟨0, 0, 2 * near * far * inverse, 0⟩⟩

/-- The view from `eye` towards the origin, with the second axis up. -/
def lookAtOrigin (eye : Vec3) : Mat4 :=
  let forward := eye.toOrigin.normalize
  let side := (forward.cross ⟨0, 1, 0⟩).normalize
  let up := side.cross forward
  ⟨⟨side.x, up.x, -forward.x, 0⟩, ⟨side.y, up.y, -forward.y, 0⟩, ⟨side.z, up.z, -forward.z, 0⟩,
    ⟨-(eye.dot side), -(eye.dot up), eye.dot forward, 1⟩⟩

/-- The rotation by `angle` radians about the second axis. -/
def rotationY (angle : Float32) : Mat4 :=
  let s := angle.sin
  let c := angle.cos
  ⟨⟨c, 0, -s, 0⟩, ⟨0, 1, 0, 0⟩, ⟨s, 0, c, 0⟩, ⟨0, 0, 0, 1⟩⟩

end Mat4

end LiveShader
