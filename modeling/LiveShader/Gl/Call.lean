import LiveShader.Device.Request

/-!
# Functions of OpenGL

A `Call` is one call of an OpenGL function with its numeric arguments, and `Call.Reply` the type of
what comes back. A context is a `Machine` that answers calls. Object names are plain numbers here,
zero for "none", and locations are whole numbers, negative for "not found".
-/

namespace LiveShader.Gl

/-! ## Constants -/

/-- `GL_VERTEX_SHADER`. -/
def vertexShader : Nat := 35633

/-- `GL_FRAGMENT_SHADER`. -/
def fragmentShader : Nat := 35632

/-- `GL_COMPILE_STATUS`. -/
def compileStatus : Nat := 35713

/-- `GL_LINK_STATUS`. -/
def linkStatus : Nat := 35714

/-- `GL_INFO_LOG_LENGTH`. -/
def infoLogLength : Nat := 35716

/-- `GL_ARRAY_BUFFER`. -/
def arrayBuffer : Nat := 34962

/-- `GL_ELEMENT_ARRAY_BUFFER`. -/
def elementArrayBuffer : Nat := 34963

/-- `GL_STATIC_DRAW`. -/
def staticDraw : Nat := 35044

/-- `GL_FLOAT`. -/
def float : Nat := 5126

/-- `GL_UNSIGNED_SHORT`. -/
def unsignedShort : Nat := 5123

/-- `GL_DEPTH_TEST`. -/
def depthTest : Nat := 2929

/-- `GL_CULL_FACE`. -/
def cullFaces : Nat := 2884

/-- `GL_CCW`. -/
def counterClockwise : Nat := 2305

/-- `GL_BACK`. -/
def back : Nat := 1029

/-- `GL_COLOR_BUFFER_BIT`. -/
def colorBit : Nat := 16384

/-- `GL_DEPTH_BUFFER_BIT`. -/
def depthBit : Nat := 256

/-- `GL_TRIANGLES`. -/
def triangles : Nat := 4

/-- The kind of shader object for a stage. -/
def stageKind : Stage → Nat
  | .vertex => vertexShader
  | .fragment => fragmentShader

/-- The number of a binding point. -/
def targetKind : BufferTarget → Nat
  | .array => arrayBuffer
  | .elementArray => elementArrayBuffer

/-! ## Calls -/

/-- A call of an OpenGL function. -/
inductive Call where
  | createShader (kind : Nat)
  | shaderSource (shader : Nat) (text : String)
  | compileShader (shader : Nat)
  | getShaderiv (shader parameter : Nat)
  | getShaderInfoLog (shader size : Nat)
  | deleteShader (shader : Nat)
  | createProgram
  | attachShader (program shader : Nat)
  | detachShader (program shader : Nat)
  | linkProgram (program : Nat)
  | getProgramiv (program parameter : Nat)
  | getProgramInfoLog (program size : Nat)
  | deleteProgram (program : Nat)
  | useProgram (program : Nat)
  | getUniformLocation (program : Nat) (name : String)
  | getAttribLocation (program : Nat) (name : String)
  | genVertexArray
  | bindVertexArray (array : Nat)
  | deleteVertexArray (array : Nat)
  | genBuffer
  | bindBuffer (target buffer : Nat)
  | bufferData (target : Nat) (data : List UInt8) (usage : Nat)
  | deleteBuffer (buffer : Nat)
  | enableVertexAttribArray (index : Nat)
  | vertexAttribPointer (index size type : Nat) (normalized : Bool) (stride offset : Nat)
  | enable (capability : Nat)
  | frontFace (mode : Nat)
  | cullFace (mode : Nat)
  | viewport (x y width height : Int32)
  | clearColor (r g b a : Float32)
  | clear (mask : Nat)
  | uniform1f (location : Int) (x : Float32)
  | uniform2f (location : Int) (x y : Float32)
  | uniformMatrix4fv (location : Int) (transposed : Bool) (value : Mat4)
  | drawArrays (mode first count : Nat)
  | drawElements (mode count type offset : Nat)
  deriving DecidableEq

/-- What comes back from a call. -/
@[reducible] def Call.Reply : Call → Type
  | .createShader _ => Nat
  | .getShaderiv _ _ => Nat
  | .getShaderInfoLog _ _ => String
  | .createProgram => Nat
  | .getProgramiv _ _ => Nat
  | .getProgramInfoLog _ _ => String
  | .getUniformLocation _ _ => Int
  | .getAttribLocation _ _ => Int
  | .genVertexArray => Nat
  | .genBuffer => Nat
  | _ => Unit

/-- An OpenGL context. -/
abbrev Context := Machine Call.Reply

end LiveShader.Gl
