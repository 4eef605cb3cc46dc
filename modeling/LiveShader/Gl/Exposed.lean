import LiveShader.Gl.Call

/-!
# A device behind OpenGL

`Gl.exposed m` is the context that gives a device the face of OpenGL: each call is turned back into
the request it stands for.

* A query for the length of an info log takes the log from the device and keeps it, and the query
  for its text hands over what was kept. A length counts the bytes and a terminating zero.
* A request that takes several calls is made with the last of them: the attribute with its pointer,
  depth test and culling with the choice of the culled face, clearing with the colour set before.
* A name that is no handle, or a number that stands for nothing, makes a call without effect.
-/

namespace LiveShader.Gl

/-- The state behind a context: the device's own, the info log taken last, and the colour set
last. -/
structure Exposed (m : Device) where
  device : m.State
  infoLog : String := ""
  background : Color := ⟨0, 0, 0, 0⟩

/-- The handle for a name, unless the name is zero. -/
def handle? (kind : ObjectKind) (id : Nat) : Option (Handle kind) :=
  if h : 0 < id then some ⟨id, h⟩ else none

/-- The length of an info log as a query gives it. -/
def logLength (log : String) : Nat :=
  if log.isEmpty then 0 else log.utf8ByteSize + 1

/-- The name of a created object, zero if it was refused. -/
def createdName {kind : ObjectKind} : Except String (Handle kind) → Nat
  | .ok h => h.id
  | .error _ => 0

/-- A location as a number. -/
def locationNumber : Option Nat → Int
  | none => -1
  | some index => index

namespace Exposed

variable {m : Device}

/-- Make a request. -/
def request (r : Request) (s : Exposed m) : r.Reply × Exposed m :=
  let (reply, d) := m.answer r s.device
  (reply, { s with device := d })

/-- Make a request whose reply does not matter. -/
def effect (r : Request) (s : Exposed m) : Unit × Exposed m :=
  ((), (s.request r).2)

/-- Do something with a handle, if the name is one. -/
def withHandle (kind : ObjectKind) (id : Nat) (f : Handle kind → Request) (s : Exposed m) :
    Unit × Exposed m :=
  match handle? kind id with
  | some h => s.effect (f h)
  | none => ((), s)

/-- Do something with two handles, if both names are. -/
def withHandles (program shader : Nat) (f : Program → Shader → Request) (s : Exposed m) :
    Unit × Exposed m :=
  match handle? .program program, handle? .shader shader with
  | some p, some h => s.effect (f p h)
  | _, _ => ((), s)

/-- Do something with a binding point, if the number is one. -/
def withTarget (kind : Nat) (f : BufferTarget → Request) (s : Exposed m) : Unit × Exposed m :=
  if kind = arrayBuffer then s.effect (f .array)
  else if kind = elementArrayBuffer then s.effect (f .elementArray)
  else ((), s)

/-- Do something with a location, if the number is one. -/
def withLocation (n : Int) (f : UniformLocation → Request) (s : Exposed m) : Unit × Exposed m :=
  match n with
  | .ofNat index => s.effect (f ⟨index⟩)
  | .negSucc _ => ((), s)

/-- Create a shader object of some kind. -/
def createShader (kind : Nat) (s : Exposed m) : Nat × Exposed m :=
  if kind = vertexShader then (s.request (.createShader .vertex)).map createdName id
  else if kind = fragmentShader then (s.request (.createShader .fragment)).map createdName id
  else (0, s)

/-- Keep an info log, and give its length. -/
def keepLog (taken : String × Exposed m) : Nat × Exposed m :=
  (logLength taken.1, { taken.2 with infoLog := taken.1 })

/-- A parameter of a shader object. -/
def getShader (shader parameter : Nat) (s : Exposed m) : Nat × Exposed m :=
  match handle? .shader shader with
  | none => (0, s)
  | some h =>
    if parameter = compileStatus then (s.request (.shaderCompileStatus h)).map Bool.toNat id
    else if parameter = infoLogLength then keepLog (s.request (.shaderInfoLog h))
    else (0, s)

/-- A parameter of a program object. -/
def getProgram (program parameter : Nat) (s : Exposed m) : Nat × Exposed m :=
  match handle? .program program with
  | none => (0, s)
  | some h =>
    if parameter = linkStatus then (s.request (.programLinkStatus h)).map Bool.toNat id
    else if parameter = infoLogLength then keepLog (s.request (.programInfoLog h))
    else (0, s)

/-- Where a program keeps a uniform. -/
def getUniform (program : Nat) (name : String) (s : Exposed m) : Int × Exposed m :=
  match handle? .program program with
  | none => (-1, s)
  | some h =>
    (s.request (.uniformLocation h name)).map
      (fun l => locationNumber (l.map UniformLocation.index)) id

/-- Where a program keeps an attribute. -/
def getAttrib (program : Nat) (name : String) (s : Exposed m) : Int × Exposed m :=
  match handle? .program program with
  | none => (-1, s)
  | some h => (s.request (.attribLocation h name)).map locationNumber id

end Exposed

/-- The context that gives a device the face of OpenGL. -/
def exposed (m : Device) : Context where
  State := Exposed m
  answer
    | .createShader kind, s => s.createShader kind
    | .shaderSource shader text, s => s.withHandle .shader shader fun h => .shaderSource h text
    | .compileShader shader, s => s.withHandle .shader shader .compileShader
    | .getShaderiv shader parameter, s => s.getShader shader parameter
    | .getShaderInfoLog _ _, s => (s.infoLog, s)
    | .deleteShader shader, s => s.withHandle .shader shader .deleteShader
    | .createProgram, s => (s.request .createProgram).map createdName id
    | .attachShader program shader, s => s.withHandles program shader .attachShader
    | .detachShader program shader, s => s.withHandles program shader .detachShader
    | .linkProgram program, s => s.withHandle .program program .linkProgram
    | .getProgramiv program parameter, s => s.getProgram program parameter
    | .getProgramInfoLog _ _, s => (s.infoLog, s)
    | .deleteProgram program, s => s.withHandle .program program .deleteProgram
    | .useProgram program, s => s.effect (.useProgram (handle? .program program))
    | .getUniformLocation program name, s => s.getUniform program name
    | .getAttribLocation program name, s => s.getAttrib program name
    | .genVertexArray, s => (s.request .createVertexArray).map createdName id
    | .bindVertexArray array, s => s.effect (.bindVertexArray (handle? .vertexArray array))
    | .deleteVertexArray array, s => s.withHandle .vertexArray array .deleteVertexArray
    | .genBuffer, s => (s.request .createBuffer).map createdName id
    | .bindBuffer target buffer, s =>
      s.withTarget target fun t => .bindBuffer t (handle? .buffer buffer)
    | .bufferData target data _, s => s.withTarget target fun t => .bufferData t data
    | .deleteBuffer buffer, s => s.withHandle .buffer buffer .deleteBuffer
    | .enableVertexAttribArray _, s => ((), s)
    | .vertexAttribPointer index size _ _ _ _, s => s.effect (.floatAttribute index size)
    | .enable _, s => ((), s)
    | .frontFace _, s => ((), s)
    | .cullFace _, s => s.effect .enableDepthAndCulling
    | .viewport _ _ width height, s => s.effect (.viewport width height)
    | .clearColor r g b a, s => ((), { s with background := ⟨r, g, b, a⟩ })
    | .clear _, s => s.effect (.clear s.background)
    | .uniform1f location x, s => s.withLocation location fun l => .uniformFloat l x
    | .uniform2f location x y, s => s.withLocation location fun l => .uniformVec2 l x y
    | .uniformMatrix4fv location _ value, s =>
      s.withLocation location fun l => .uniformMat4 l value
    | .drawArrays _ _ count, s => s.effect (.drawArrays count)
    | .drawElements _ count _ _, s => s.effect (.drawElements count)

end LiveShader.Gl
