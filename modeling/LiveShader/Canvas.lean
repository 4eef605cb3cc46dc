/-!
# The canvas that is drawn on

A canvas has the size at which it is displayed, pushed in by the host, and the size of the backing
store that is rendered to, which follows when a session starts. It may have no graphics context, or
lose the one it has for a while.
-/

namespace LiveShader

/-- A size in pixels. -/
structure PixelSize where
  width : UInt32 := 0
  height : UInt32 := 0
  deriving DecidableEq, Repr

namespace PixelSize

/-- Width over height; one for a canvas without height. -/
def aspect (s : PixelSize) : Float32 :=
  if s.height = 0 then 1 else s.width.toFloat32 / s.height.toFloat32

/-- A side as devices take it: sides that do not fit are cut to the largest that does. -/
def clamped (side : UInt32) : Int32 :=
  Int32.ofNat (min side.toNat 0x7fffffff)

/-- The size as a viewport takes it. -/
def viewport (s : PixelSize) : Int32 × Int32 :=
  (clamped s.width, clamped s.height)

end PixelSize

/-- A canvas whose size is pushed in by the host. -/
structure Canvas where
  /-- Whether a context was created for it. -/
  created : Bool
  /-- Whether the context is lost at the moment. -/
  lost : Bool := false
  display : PixelSize
  backing : PixelSize := {}
  deriving DecidableEq, Repr

namespace Canvas

/-- Whether there is a context to draw with. -/
def hasContext (c : Canvas) : Bool :=
  c.created && !c.lost

/-- Record a new displayed size. -/
def setDisplay (c : Canvas) (size : PixelSize) : Canvas :=
  { c with display := size }

/-- The backing store gets the displayed size. -/
def adopt (c : Canvas) : Canvas :=
  { c with backing := c.display }

@[simp] theorem hasContext_adopt (c : Canvas) : c.adopt.hasContext = c.hasContext := rfl

@[simp] theorem display_adopt (c : Canvas) : c.adopt.display = c.display := rfl

end Canvas

end LiveShader
