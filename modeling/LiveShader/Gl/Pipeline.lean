import LiveShader.Gl.Call
import Mathlib.Logic.Function.Basic

/-!
# What an OpenGL context is set to

A `Pipeline` is what a draw depends on in an OpenGL context: the objects that are bound, what the
vertex arrays and the buffers hold, the fixed functions, and which locations are known.
`Pipeline.next` follows it from call to call, by the calls and their replies alone. Calls without a
meaning for it leave it alone.

* The binding for vertex data belongs to the context, and a pointer keeps the buffer that was bound
  there when the pointer was set. The binding for index data belongs to the bound vertex array.
* Deleting a buffer or a vertex array undoes its bindings in the context and in the bound vertex
  array. A program that is deleted stays current until another one is.
* Locations are known from when they were asked for until the program is linked again or deleted.
-/

namespace LiveShader.Gl

/-- Where the values of an attribute come from. -/
structure Pointer where
  buffer : Nat
  size : Nat
  type : Nat
  normalized : Bool
  stride : Nat
  offset : Nat
  deriving DecidableEq, Repr

/-- What a vertex array holds. -/
structure ArrayObject where
  /-- The buffer bound for index data. -/
  elements : Nat := 0
  enabled : Nat → Bool := fun _ => false
  pointers : Nat → Option Pointer := fun _ => none

/-- The names that were asked for, and where they were found if at all. -/
abbrev Locations := String → Option (Option Nat)

/-- What a draw depends on. Zero stands for no object. -/
structure Pipeline where
  /-- The current program. -/
  program : Nat
  /-- The bound vertex array. -/
  array : Nat
  /-- The buffer bound for vertex data. -/
  vertices : Nat
  arrays : Nat → ArrayObject
  /-- The contents of the buffers that exist. -/
  buffers : Nat → Option (List UInt8)
  capabilities : Nat → Bool
  frontFace : Nat
  culledFace : Nat
  viewport : Int32 × Int32 × Int32 × Int32
  /-- Where the uniforms of each program are. -/
  uniforms : Nat → Locations
  /-- Where the attributes of each program are. -/
  attributes : Nat → Locations

/-- A location that was found. -/
def location? : Int → Option Nat
  | .ofNat index => some index
  | .negSucc _ => none

/-- A vertex array without a buffer. -/
def ArrayObject.forget (a : ArrayObject) (buffer : Nat) : ArrayObject where
  elements := if a.elements = buffer then 0 else a.elements
  enabled := a.enabled
  pointers i := (a.pointers i).map fun p =>
    { p with buffer := if p.buffer = buffer then 0 else p.buffer }

namespace Pipeline

/-- Change the bound vertex array. -/
def onArray (p : Pipeline) (f : ArrayObject → ArrayObject) : Pipeline :=
  { p with arrays := Function.update p.arrays p.array (f (p.arrays p.array)) }

/-- The buffer bound at a target. -/
def boundAt (p : Pipeline) (target : Nat) : Nat :=
  if target = arrayBuffer then p.vertices
  else if target = elementArrayBuffer then (p.arrays p.array).elements
  else 0

/-- Nothing is known of a program any more. -/
def forgetLocations (p : Pipeline) (program : Nat) : Pipeline :=
  { p with
    uniforms := Function.update p.uniforms program fun _ => none
    attributes := Function.update p.attributes program fun _ => none }

/-- A uniform of a program was asked for. -/
def learnUniform (p : Pipeline) (program : Nat) (name : String) (found : Option Nat) : Pipeline :=
  let known := Function.update (p.uniforms program) name (some found)
  { p with uniforms := Function.update p.uniforms program known }

/-- An attribute of a program was asked for. -/
def learnAttribute (p : Pipeline) (program : Nat) (name : String) (found : Option Nat) : Pipeline :=
  let known := Function.update (p.attributes program) name (some found)
  { p with attributes := Function.update p.attributes program known }

/-- A new buffer is empty. -/
def addBuffer (p : Pipeline) (buffer : Nat) : Pipeline :=
  if buffer = 0 then p else { p with buffers := Function.update p.buffers buffer (some []) }

/-- A new vertex array holds nothing. -/
def addArray (p : Pipeline) (array : Nat) : Pipeline :=
  if array = 0 then p else { p with arrays := Function.update p.arrays array {} }

/-- Bind a buffer. -/
def bindBuffer (p : Pipeline) (target buffer : Nat) : Pipeline :=
  if target = arrayBuffer then { p with vertices := buffer }
  else if target = elementArrayBuffer then p.onArray fun a => { a with elements := buffer }
  else p

/-- Fill the buffer bound at a target. -/
def fill (p : Pipeline) (target : Nat) (data : List UInt8) : Pipeline :=
  if p.boundAt target = 0 then p
  else { p with buffers := Function.update p.buffers (p.boundAt target) (some data) }

/-- Let an attribute have values. -/
def enableAttribute (p : Pipeline) (index : Nat) : Pipeline :=
  p.onArray fun a => { a with enabled := Function.update a.enabled index true }

/-- Say where the values of an attribute come from. -/
def pointAttribute (p : Pipeline) (index : Nat) (pointer : Pointer) : Pipeline :=
  p.onArray fun a => { a with pointers := Function.update a.pointers index (some pointer) }

/-- Delete a buffer. -/
def deleteBuffer (p : Pipeline) (buffer : Nat) : Pipeline :=
  if buffer = 0 then p
  else
    { p.onArray fun a => a.forget buffer with
      buffers := Function.update p.buffers buffer none
      vertices := if p.vertices = buffer then 0 else p.vertices }

/-- Delete a vertex array. -/
def deleteArray (p : Pipeline) (array : Nat) : Pipeline :=
  if array = 0 then p
  else
    { p with
      arrays := Function.update p.arrays array {}
      array := if p.array = array then 0 else p.array }

/-- The pipeline after a call. -/
def next (p : Pipeline) : Exchange Call.Reply → Pipeline
  | ⟨.createProgram, program⟩ => p.forgetLocations program
  | ⟨.linkProgram program, _⟩ => p.forgetLocations program
  | ⟨.deleteProgram program, _⟩ => p.forgetLocations program
  | ⟨.useProgram program, _⟩ => { p with program }
  | ⟨.getUniformLocation program name, found⟩ => p.learnUniform program name (location? found)
  | ⟨.getAttribLocation program name, found⟩ => p.learnAttribute program name (location? found)
  | ⟨.genVertexArray, array⟩ => p.addArray array
  | ⟨.bindVertexArray array, _⟩ => { p with array }
  | ⟨.deleteVertexArray array, _⟩ => p.deleteArray array
  | ⟨.genBuffer, buffer⟩ => p.addBuffer buffer
  | ⟨.bindBuffer target buffer, _⟩ => p.bindBuffer target buffer
  | ⟨.bufferData target data _, _⟩ => p.fill target data
  | ⟨.deleteBuffer buffer, _⟩ => p.deleteBuffer buffer
  | ⟨.enableVertexAttribArray index, _⟩ => p.enableAttribute index
  | ⟨.vertexAttribPointer index size type normalized stride offset, _⟩ =>
    p.pointAttribute index ⟨p.vertices, size, type, normalized, stride, offset⟩
  | ⟨.enable capability, _⟩ =>
    { p with capabilities := Function.update p.capabilities capability true }
  | ⟨.frontFace mode, _⟩ => { p with frontFace := mode }
  | ⟨.cullFace mode, _⟩ => { p with culledFace := mode }
  | ⟨.viewport x y width height, _⟩ => { p with viewport := (x, y, width, height) }
  | _ => p

end Pipeline

end LiveShader.Gl
