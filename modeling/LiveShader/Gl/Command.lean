import LiveShader.Gl.FrontEnd

/-!
# Commands of a binding

A program does not call OpenGL itself but through a binding, which gives the functions types: object
names become handles, a location that is not found is `none`, and a creation that is refused is an
error with a text. A `Command` is one function of a binding; enumerations are still plain numbers.

* `Gl.spell` gives the commands for each request. Feeding an attribute takes two, enabling depth
  test and culling four, clearing two, and every other request is one command. None of the commands
  depends on a reply to those before it.
* `Command.calls` gives the calls of OpenGL that a binding makes for a command. A query for an info
  log is two calls, the second only if the log is not empty, and the text for a refused creation is
  the binding's own, because OpenGL has none.

Results:
* `carryOut_eq`: the calls for a request are those for its commands.
* `Engine.overGl_eq`: the same of whole computations.
-/

namespace LiveShader.Gl

/-- A function of a binding of OpenGL. -/
inductive Command where
  | createShader (kind : Nat)
  | shaderSource (shader : Shader) (text : String)
  | compileShader (shader : Shader)
  | shaderCompileStatus (shader : Shader)
  | shaderInfoLog (shader : Shader)
  | deleteShader (shader : Shader)
  | createProgram
  | attachShader (program : Program) (shader : Shader)
  | detachShader (program : Program) (shader : Shader)
  | linkProgram (program : Program)
  | programLinkStatus (program : Program)
  | programInfoLog (program : Program)
  | deleteProgram (program : Program)
  | useProgram (program : Option Program)
  | uniformLocation (program : Program) (name : String)
  | attribLocation (program : Program) (name : String)
  | createVertexArray
  | bindVertexArray (array : Option VertexArray)
  | deleteVertexArray (array : VertexArray)
  | createBuffer
  | bindBuffer (target : Nat) (buffer : Option Buffer)
  | bufferData (target : Nat) (data : List UInt8) (usage : Nat)
  | deleteBuffer (buffer : Buffer)
  | enableVertexAttribArray (index : Nat)
  | vertexAttribPointer (index size type : Nat) (normalized : Bool) (stride offset : Nat)
  | enable (capability : Nat)
  | frontFace (mode : Nat)
  | cullFace (mode : Nat)
  | viewport (x y width height : Int32)
  | clearColor (r g b a : Float32)
  | clear (mask : Nat)
  | uniformFloat (location : UniformLocation) (x : Float32)
  | uniformVec2 (location : UniformLocation) (x y : Float32)
  | uniformMat4 (location : UniformLocation) (transposed : Bool) (value : Mat4)
  | drawArrays (mode first count : Nat)
  | drawElements (mode count type offset : Nat)
  deriving DecidableEq

/-- What a binding says to a command. -/
@[reducible] def Command.Reply : Command → Type
  | .createShader _ => Except String Shader
  | .shaderCompileStatus _ => Bool
  | .shaderInfoLog _ => String
  | .createProgram => Except String Program
  | .programLinkStatus _ => Bool
  | .programInfoLog _ => String
  | .uniformLocation _ _ => Option UniformLocation
  | .attribLocation _ _ => Option Nat
  | .createVertexArray => Except String VertexArray
  | .createBuffer => Except String Buffer
  | _ => Unit

/-- A binding together with the context that it is bound to. -/
abbrev Binding := Machine Command.Reply

/-- Give one command. -/
def command (c : Command) : Plan Command.Reply c.Reply :=
  .ask c .done

/-- The commands for a request. -/
def spell : (r : Request) → Plan Command.Reply r.Reply
  | .createShader stage => command (.createShader (stageKind stage))
  | .shaderSource shader text => command (.shaderSource shader text)
  | .compileShader shader => command (.compileShader shader)
  | .shaderCompileStatus shader => command (.shaderCompileStatus shader)
  | .shaderInfoLog shader => command (.shaderInfoLog shader)
  | .deleteShader shader => command (.deleteShader shader)
  | .createProgram => command .createProgram
  | .attachShader program shader => command (.attachShader program shader)
  | .detachShader program shader => command (.detachShader program shader)
  | .linkProgram program => command (.linkProgram program)
  | .programLinkStatus program => command (.programLinkStatus program)
  | .programInfoLog program => command (.programInfoLog program)
  | .deleteProgram program => command (.deleteProgram program)
  | .useProgram program => command (.useProgram program)
  | .uniformLocation program name => command (.uniformLocation program name)
  | .attribLocation program name => command (.attribLocation program name)
  | .createVertexArray => command .createVertexArray
  | .bindVertexArray array => command (.bindVertexArray array)
  | .deleteVertexArray array => command (.deleteVertexArray array)
  | .createBuffer => command .createBuffer
  | .bindBuffer target buffer => command (.bindBuffer (targetKind target) buffer)
  | .bufferData target data => command (.bufferData (targetKind target) data staticDraw)
  | .deleteBuffer buffer => command (.deleteBuffer buffer)
  | .floatAttribute index components => do
    command (.enableVertexAttribArray index)
    command (.vertexAttribPointer index components float false 0 0)
  | .enableDepthAndCulling => do
    command (.enable depthTest)
    command (.enable cullFaces)
    command (.frontFace counterClockwise)
    command (.cullFace back)
  | .viewport width height => command (.viewport 0 0 width height)
  | .clear color => do
    command (.clearColor color.r color.g color.b color.a)
    command (.clear (colorBit + depthBit))
  | .uniformFloat location value => command (.uniformFloat location value)
  | .uniformVec2 location x y => command (.uniformVec2 location x y)
  | .uniformMat4 location value => command (.uniformMat4 location false value)
  | .drawArrays count => command (.drawArrays triangles 0 count)
  | .drawElements count => command (.drawElements triangles count unsignedShort 0)

/-! ## From commands to calls -/

/-- The calls for a command. -/
def Command.calls : (c : Command) → Calls c.Reply
  | .createShader kind => do
    return handle "Shader" .shader (← call (.createShader kind))
  | .shaderSource shader text => call (.shaderSource shader.id text)
  | .compileShader shader => call (.compileShader shader.id)
  | .shaderCompileStatus shader => do
    return (← call (.getShaderiv shader.id compileStatus)) == 1
  | .shaderInfoLog shader => do
    match ← call (.getShaderiv shader.id infoLogLength) with
    | 0 => return ""
    | size => call (.getShaderInfoLog shader.id size)
  | .deleteShader shader => call (.deleteShader shader.id)
  | .createProgram => do
    return handle "Program" .program (← call .createProgram)
  | .attachShader program shader => call (.attachShader program.id shader.id)
  | .detachShader program shader => call (.detachShader program.id shader.id)
  | .linkProgram program => call (.linkProgram program.id)
  | .programLinkStatus program => do
    return (← call (.getProgramiv program.id linkStatus)) == 1
  | .programInfoLog program => do
    match ← call (.getProgramiv program.id infoLogLength) with
    | 0 => return ""
    | size => call (.getProgramInfoLog program.id size)
  | .deleteProgram program => call (.deleteProgram program.id)
  | .useProgram program => call (.useProgram (nameOf program))
  | .uniformLocation program name => do
    match ← call (.getUniformLocation program.id name) with
    | .ofNat index => return some ⟨index⟩
    | .negSucc _ => return none
  | .attribLocation program name => do
    match ← call (.getAttribLocation program.id name) with
    | .ofNat index => return some index
    | .negSucc _ => return none
  | .createVertexArray => do
    return handle "VertexArray" .vertexArray (← call .genVertexArray)
  | .bindVertexArray array => call (.bindVertexArray (nameOf array))
  | .deleteVertexArray array => call (.deleteVertexArray array.id)
  | .createBuffer => do
    return handle "Buffer" .buffer (← call .genBuffer)
  | .bindBuffer target buffer => call (.bindBuffer target (nameOf buffer))
  | .bufferData target data usage => call (.bufferData target data usage)
  | .deleteBuffer buffer => call (.deleteBuffer buffer.id)
  | .enableVertexAttribArray index => call (.enableVertexAttribArray index)
  | .vertexAttribPointer index size type normalized stride offset =>
    call (.vertexAttribPointer index size type normalized stride offset)
  | .enable capability => call (.enable capability)
  | .frontFace mode => call (.frontFace mode)
  | .cullFace mode => call (.cullFace mode)
  | .viewport x y width height => call (.viewport x y width height)
  | .clearColor r g b a => call (.clearColor r g b a)
  | .clear mask => call (.clear mask)
  | .uniformFloat location x => call (.uniform1f location.index x)
  | .uniformVec2 location x y => call (.uniform2f location.index x y)
  | .uniformMat4 location transposed value =>
    call (.uniformMatrix4fv location.index transposed value)
  | .drawArrays mode first count => call (.drawArrays mode first count)
  | .drawElements mode count type offset => call (.drawElements mode count type offset)

/-- **The calls for a request are those for its commands.** -/
theorem carryOut_eq (r : Request) : carryOut r = (spell r).expand Command.calls := by
  -- What is made of a reply to a call is still to be bound to nothing.
  have hone (c : Command) : (command c).expand Command.calls = c.calls := Plan.bind_done _
  cases r with
  | shaderInfoLog shader => exact (hone (.shaderInfoLog shader)).symm
  | programInfoLog program => exact (hone (.programInfoLog program)).symm
  | uniformLocation program name => exact (hone (.uniformLocation program name)).symm
  | attribLocation program name => exact (hone (.attribLocation program name)).symm
  | _ => rfl

end LiveShader.Gl

namespace LiveShader

namespace Engine

variable {α : Type}

/-- An engine computation with its requests spelled out in commands. -/
def spelled (e : Engine α) : Plan (Action.Reply Gl.Command.Reply) α :=
  e.expand (Action.through Gl.spell)

/-- **An engine computation calls OpenGL by way of its commands.** -/
theorem overGl_eq (e : Engine α) :
    e.overGl = e.spelled.expand (Action.through Gl.Command.calls) := by
  have hthrough (a : Action Request) : Action.through Gl.carryOut a =
      (Action.through Gl.spell a).expand (Action.through Gl.Command.calls) := by
    cases a with
    | gpu r =>
      simp only [Action.through, Gl.carryOut_eq, Plan.expand_expand, Plan.expand]
      exact congrArg (Plan.expand · _) (funext fun c => (Plan.bind_done _).symm)
    | _ => rfl
  unfold overGl spelled
  rw [Plan.expand_expand, funext hthrough]

end Engine

end LiveShader
