import LiveShader.Matrix

/-!
# Rendering parameters

What may be tuned about a session: the colour behind a frame and the camera that looks at the cube.
`Parameters.cameraMatrix` is the matrix a frame feeds to the vertex stage.
-/

namespace LiveShader

/-- A colour with opacity. -/
structure Color where
  r : Float32
  g : Float32
  b : Float32
  a : Float32
  deriving DecidableEq

/-- The components in order. -/
def Color.toList (c : Color) : List Float32 :=
  [c.r, c.g, c.b, c.a]

/-- The parameters of a session. -/
structure Parameters where
  /-- The colour a frame is cleared to. -/
  background : Color := ⟨0.1, 0.1, 0.1, 1⟩
  /-- The vertical angle of view, in degrees. -/
  viewAngle : Float32 := 45
  /-- The near clip plane. -/
  near : Float32 := 0.1
  /-- The far clip plane. -/
  far : Float32 := 100
  /-- Where the camera stands; it looks at the origin. -/
  eye : Vec3 := ⟨0, 0, 3⟩
  deriving DecidableEq

/-- Degrees as radians, by the single nearest to π/180. -/
def radians (degrees : Float32) : Float32 :=
  degrees * Float32.ofBits 0x3c8efa35

/-- Projection × view × model for a cube turned by `turn` radians, seen on a canvas of the given
aspect ratio. -/
def Parameters.cameraMatrix (p : Parameters) (aspect turn : Float32) : Mat4 :=
  ((Mat4.perspective (radians p.viewAngle) aspect p.near p.far).mul
    (Mat4.lookAtOrigin p.eye)).mul (Mat4.rotationY turn)

end LiveShader
