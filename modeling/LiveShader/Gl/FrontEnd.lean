import LiveShader.Engine
import LiveShader.Gl.Call

/-!
# Requests carried out by OpenGL

`Gl.carryOut` gives the calls for each request. Most requests are one call; feeding an attribute
takes two, enabling depth test and culling four, clearing two, and an info log one call for its
length and, unless it is empty, one for its text.
-/

namespace LiveShader.Gl

/-- A computation that calls OpenGL. -/
abbrev Calls (α : Type) := Plan Call.Reply α

/-- Make one call. -/
def call (c : Call) : Calls c.Reply :=
  .ask c .done

/-- The handle for a new object's name; zero means that the object was refused. -/
def handle (what : String) (kind : ObjectKind) (id : Nat) : Except String (Handle kind) :=
  if h : 0 < id then .ok ⟨id, h⟩ else .error ("Unable to create " ++ what ++ " object")

/-- The name behind a handle, zero for none. -/
def nameOf {kind : ObjectKind} : Option (Handle kind) → Nat
  | none => 0
  | some h => h.id

/-- The calls for a request. -/
def carryOut : (r : Request) → Calls r.Reply
  | .createShader stage => do
    return handle "Shader" .shader (← call (.createShader (stageKind stage)))
  | .shaderSource shader text => call (.shaderSource shader.id text)
  | .compileShader shader => call (.compileShader shader.id)
  | .shaderCompileStatus shader => do
    return (← call (.getShaderiv shader.id compileStatus)) == 1
  | .shaderInfoLog shader => do
    match ← call (.getShaderiv shader.id infoLogLength) with
    | 0 => return ""
    | size => call (.getShaderInfoLog shader.id size)
  | .deleteShader shader => call (.deleteShader shader.id)
  | .createProgram => do
    return handle "Program" .program (← call .createProgram)
  | .attachShader program shader => call (.attachShader program.id shader.id)
  | .detachShader program shader => call (.detachShader program.id shader.id)
  | .linkProgram program => call (.linkProgram program.id)
  | .programLinkStatus program => do
    return (← call (.getProgramiv program.id linkStatus)) == 1
  | .programInfoLog program => do
    match ← call (.getProgramiv program.id infoLogLength) with
    | 0 => return ""
    | size => call (.getProgramInfoLog program.id size)
  | .deleteProgram program => call (.deleteProgram program.id)
  | .useProgram program => call (.useProgram (nameOf program))
  | .uniformLocation program name => do
    match ← call (.getUniformLocation program.id name) with
    | .ofNat index => return some ⟨index⟩
    | .negSucc _ => return none
  | .attribLocation program name => do
    match ← call (.getAttribLocation program.id name) with
    | .ofNat index => return some index
    | .negSucc _ => return none
  | .createVertexArray => do
    return handle "VertexArray" .vertexArray (← call .genVertexArray)
  | .bindVertexArray array => call (.bindVertexArray (nameOf array))
  | .deleteVertexArray array => call (.deleteVertexArray array.id)
  | .createBuffer => do
    return handle "Buffer" .buffer (← call .genBuffer)
  | .bindBuffer target buffer => call (.bindBuffer (targetKind target) (nameOf buffer))
  | .bufferData target data => call (.bufferData (targetKind target) data staticDraw)
  | .deleteBuffer buffer => call (.deleteBuffer buffer.id)
  | .floatAttribute index components => do
    call (.enableVertexAttribArray index)
    call (.vertexAttribPointer index components float false 0 0)
  | .enableDepthAndCulling => do
    call (.enable depthTest)
    call (.enable cullFaces)
    call (.frontFace counterClockwise)
    call (.cullFace back)
  | .viewport width height => call (.viewport 0 0 width height)
  | .clear color => do
    call (.clearColor color.r color.g color.b color.a)
    call (.clear (colorBit + depthBit))
  | .uniformFloat location value => call (.uniform1f location.index value)
  | .uniformVec2 location x y => call (.uniform2f location.index x y)
  | .uniformMat4 location value => call (.uniformMatrix4fv location.index false value)
  | .drawArrays count => call (.drawArrays triangles 0 count)
  | .drawElements count => call (.drawElements triangles count unsignedShort 0)

end LiveShader.Gl

namespace LiveShader

/-- An engine computation with its requests carried out by OpenGL. -/
def Engine.overGl {α : Type} (e : Engine α) : Plan (Action.Reply Gl.Call.Reply) α :=
  e.expand (Action.through Gl.carryOut)

end LiveShader
