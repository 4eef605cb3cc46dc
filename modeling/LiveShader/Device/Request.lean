import LiveShader.Failure
import LiveShader.Parameters
import LiveShader.Plan

/-!
# What the engine asks of a graphics device

A `Request` is one operation on the context of a graphics device, and `Request.Reply` the type of
what the device says to it. A device is a `Machine` that answers requests; the engine talks to it
in no other way.

Objects are known by handles. A handle is a positive number, because devices use zero for "none".
Numbers are not limited; words of 32 bits hold them as long as there are fewer than 2^32 objects.
Where zero is a word like any other, `Handle.ofWord` says which handle a word stands for.
-/

namespace LiveShader

/-- The kinds of objects that a device keeps. -/
inductive ObjectKind where
  | shader
  | program
  | vertexArray
  | buffer
  deriving DecidableEq, Repr

/-- The name of an object of some kind. -/
structure Handle (kind : ObjectKind) where
  id : Nat
  positive : 0 < id
  deriving DecidableEq, Repr

theorem Handle.id_inj {kind : ObjectKind} {h h' : Handle kind} (hid : h.id = h'.id) : h = h' := by
  cases h
  cases h'
  cases hid
  rfl

/-- The handle that a word of 32 bits stands for. Zero is never given to an object, and neither is
the number after the last that a word can hold, so the one stands for the other. -/
def Handle.ofWord {kind : ObjectKind} (word : UInt32) : Handle kind where
  id := if word.toNat = 0 then 0x100000000 else word.toNat
  positive := by split <;> omega

/-- Different words stand for different handles. -/
theorem Handle.ofWord_inj {kind : ObjectKind} {word word' : UInt32} :
    (ofWord word : Handle kind) = ofWord word' ↔ word = word' := by
  refine ⟨fun h => UInt32.toNat_inj.mp ?_, congrArg ofWord⟩
  have hid : (if word.toNat = 0 then 0x100000000 else word.toNat) =
      if word'.toNat = 0 then 0x100000000 else word'.toNat := congrArg Handle.id h
  have hlt := word.toNat_lt
  have hlt' := word'.toNat_lt
  split at hid <;> split at hid <;> omega

/-- A stage of a program, to be compiled. -/
abbrev Shader := Handle .shader

/-- A program made of stages. -/
abbrev Program := Handle .program

/-- A record of where the vertices of a mesh come from. -/
abbrev VertexArray := Handle .vertexArray

/-- A piece of memory on the device. -/
abbrev Buffer := Handle .buffer

/-- Where a program keeps a uniform. -/
structure UniformLocation where
  index : Nat
  deriving DecidableEq, Repr

/-- The places a buffer can be bound to. -/
inductive BufferTarget where
  /-- For vertex data. -/
  | array
  /-- For index data. -/
  | elementArray
  deriving DecidableEq, Repr

/-- An operation on a device. -/
inductive Request where
  | createShader (stage : Stage)
  | shaderSource (shader : Shader) (text : String)
  | compileShader (shader : Shader)
  /-- Whether the last compilation succeeded. -/
  | shaderCompileStatus (shader : Shader)
  | shaderInfoLog (shader : Shader)
  | deleteShader (shader : Shader)
  | createProgram
  | attachShader (program : Program) (shader : Shader)
  | detachShader (program : Program) (shader : Shader)
  | linkProgram (program : Program)
  /-- Whether the last linking succeeded. -/
  | programLinkStatus (program : Program)
  | programInfoLog (program : Program)
  | deleteProgram (program : Program)
  /-- Make a program current, or none. -/
  | useProgram (program : Option Program)
  | uniformLocation (program : Program) (name : String)
  | attribLocation (program : Program) (name : String)
  | createVertexArray
  | bindVertexArray (array : Option VertexArray)
  | deleteVertexArray (array : VertexArray)
  | createBuffer
  | bindBuffer (target : BufferTarget) (buffer : Option Buffer)
  /-- Upload data to the buffer bound at the target. -/
  | bufferData (target : BufferTarget) (data : List UInt8)
  | deleteBuffer (buffer : Buffer)
  /-- Feed an attribute with tightly packed singles from the buffer bound for vertex data. -/
  | floatAttribute (index components : Nat)
  /-- Test depths, and drop triangles that are seen clockwise. -/
  | enableDepthAndCulling
  /-- Draw into the rectangle of this size at the origin. -/
  | viewport (width height : Int32)
  /-- Clear colours and depths. -/
  | clear (color : Color)
  | uniformFloat (location : UniformLocation) (value : Float32)
  | uniformVec2 (location : UniformLocation) (x y : Float32)
  | uniformMat4 (location : UniformLocation) (value : Mat4)
  /-- Draw the first vertices as a list of triangles. -/
  | drawArrays (count : Nat)
  /-- Draw the vertices that the first indices name as a list of triangles. -/
  | drawElements (count : Nat)
  deriving DecidableEq

/-- What a device says to a request. A refused creation comes with the device's own words. -/
@[reducible] def Request.Reply : Request → Type
  | .createShader _ => Except String Shader
  | .shaderCompileStatus _ => Bool
  | .shaderInfoLog _ => String
  | .createProgram => Except String Program
  | .programLinkStatus _ => Bool
  | .programInfoLog _ => String
  | .uniformLocation _ _ => Option UniformLocation
  | .attribLocation _ _ => Option Nat
  | .createVertexArray => Except String VertexArray
  | .createBuffer => Except String Buffer
  | _ => Unit

/-- A graphics device. -/
abbrev Device := Machine Request.Reply

end LiveShader
