import LiveShader.Gl.Command

/-!
# A device behind a binding

`Gl.fronted m` is the binding that gives a device the face of OpenGL: each command is turned back
into the request it stands for. It is particular about every argument. A command with a kind, a
target, a mode, a mask, a type or an origin that stands for no request has no effect on the device.

* Object names are handles on both sides, and what the device says to a creation, refusals included,
  is passed on.
* A request that takes several commands is made with the last of them, if those before it have set
  what the request asks for: the attribute with its pointer, once it is enabled; depth test and
  culling with the choice of the culled face, once both are enabled and the front face is chosen;
  clearing with the colour that was set.
-/

namespace LiveShader.Gl

/-- The state behind a binding: the device's own, and what was set for requests to come. -/
structure Fronted (m : Device) where
  device : m.State
  /-- The attributes that are enabled. -/
  attributes : List Nat := []
  /-- The capabilities that are enabled. -/
  capabilities : List Nat := []
  frontFace : Nat := 0
  background : Color := ⟨0, 0, 0, 0⟩

namespace Fronted

variable {m : Device}

/-- Make a request. -/
def request (r : Request) (s : Fronted m) : r.Reply × Fronted m :=
  let (reply, d) := m.answer r s.device
  (reply, { s with device := d })

/-- Make a request whose reply does not matter, if the command stands for one. -/
def effect (stands : Bool) (r : Request) (s : Fronted m) : Unit × Fronted m :=
  if stands then ((), (s.request r).2) else ((), s)

/-- Create a shader object of some kind. -/
def createShader (kind : Nat) (s : Fronted m) : Except String Shader × Fronted m :=
  if kind = vertexShader then s.request (.createShader .vertex)
  else if kind = fragmentShader then s.request (.createShader .fragment)
  else (.error "no such kind of shader", s)

/-- Do something with a binding point, if the number is one. -/
def withTarget (target : Nat) (stands : Bool) (r : BufferTarget → Request) (s : Fronted m) :
    Unit × Fronted m :=
  if target = arrayBuffer then s.effect stands (r .array)
  else if target = elementArrayBuffer then s.effect stands (r .elementArray)
  else ((), s)

/-- Whether depth test and culling have been enabled and the front face is seen
counter-clockwise. -/
def culls (s : Fronted m) : Bool :=
  depthTest ∈ s.capabilities && cullFaces ∈ s.capabilities && s.frontFace = counterClockwise

end Fronted

/-- The binding that gives a device the face of OpenGL. -/
def fronted (m : Device) : Binding where
  State := Fronted m
  answer
    | .createShader kind, s => s.createShader kind
    | .shaderSource shader text, s => s.request (.shaderSource shader text)
    | .compileShader shader, s => s.request (.compileShader shader)
    | .shaderCompileStatus shader, s => s.request (.shaderCompileStatus shader)
    | .shaderInfoLog shader, s => s.request (.shaderInfoLog shader)
    | .deleteShader shader, s => s.request (.deleteShader shader)
    | .createProgram, s => s.request .createProgram
    | .attachShader program shader, s => s.request (.attachShader program shader)
    | .detachShader program shader, s => s.request (.detachShader program shader)
    | .linkProgram program, s => s.request (.linkProgram program)
    | .programLinkStatus program, s => s.request (.programLinkStatus program)
    | .programInfoLog program, s => s.request (.programInfoLog program)
    | .deleteProgram program, s => s.request (.deleteProgram program)
    | .useProgram program, s => s.request (.useProgram program)
    | .uniformLocation program name, s => s.request (.uniformLocation program name)
    | .attribLocation program name, s => s.request (.attribLocation program name)
    | .createVertexArray, s => s.request .createVertexArray
    | .bindVertexArray array, s => s.request (.bindVertexArray array)
    | .deleteVertexArray array, s => s.request (.deleteVertexArray array)
    | .createBuffer, s => s.request .createBuffer
    | .bindBuffer target buffer, s => s.withTarget target true fun t => .bindBuffer t buffer
    | .bufferData target data usage, s =>
      s.withTarget target (usage = staticDraw) fun t => .bufferData t data
    | .deleteBuffer buffer, s => s.request (.deleteBuffer buffer)
    | .enableVertexAttribArray index, s => ((), { s with attributes := index :: s.attributes })
    | .vertexAttribPointer index size type normalized stride offset, s =>
      s.effect (index ∈ s.attributes && type = float && !normalized && stride = 0 && offset = 0)
        (.floatAttribute index size)
    | .enable capability, s => ((), { s with capabilities := capability :: s.capabilities })
    | .frontFace mode, s => ((), { s with frontFace := mode })
    | .cullFace mode, s => s.effect (s.culls && mode = back) .enableDepthAndCulling
    | .viewport x y width height, s => s.effect (x = 0 && y = 0) (.viewport width height)
    | .clearColor r g b a, s => ((), { s with background := ⟨r, g, b, a⟩ })
    | .clear mask, s => s.effect (mask = colorBit + depthBit) (.clear s.background)
    | .uniformFloat location x, s => s.request (.uniformFloat location x)
    | .uniformVec2 location x y, s => s.request (.uniformVec2 location x y)
    | .uniformMat4 location transposed value, s =>
      s.effect (!transposed) (.uniformMat4 location value)
    | .drawArrays mode first count, s =>
      s.effect (mode = triangles && first = 0) (.drawArrays count)
    | .drawElements mode count type offset, s =>
      s.effect (mode = triangles && type = unsignedShort && offset = 0) (.drawElements count)

end LiveShader.Gl
