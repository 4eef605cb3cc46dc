import LiveShader.Device.Objects
import LiveShader.Engine

/-!
# A device for checking what an engine does

The recording device counts every request and knows a uniform by its name, so that a log can be
read without knowing locations. `Recording.recorded` picks from a run's log what is worth checking.
-/

namespace LiveShader.Recording

/-- Two attached stages make a program, whether they exist or not; a shader's log is always the
same; attributes are all in the same place. -/
def rules : Rules where
  links attached _ := attached == 2
  shaderLog _ := "ERROR: 0:2: syntax error"
  uniform sources name := if sources.any (Objects.declaresUniform name) then some 0 else none
  attrib sources name := if sources.any (Text.mentions · name) then some 0 else none

/-- The state of the device. -/
structure State where
  objects : Objects := {}
  /-- The uniforms looked up and found so far; a location is a place in this list. -/
  names : List String := []
  /-- How many requests have been made. -/
  requests : Nat := 0
  deriving DecidableEq, Repr

namespace State

/-- The place of a name, which is added if it is new. -/
def locate (s : State) (name : String) : UniformLocation × State :=
  match s.names.findIdx? (· == name) with
  | some i => (⟨i⟩, s)
  | none => (⟨s.names.length⟩, { s with names := s.names ++ [name] })

/-- The name at a location. -/
def nameAt (s : State) (l : UniformLocation) : String :=
  s.names[l.index]?.getD ""

/-- Answer a request by the rules, and count it. -/
def plain (r : Request) (s : State) : r.Reply × State :=
  let (reply, o) := Objects.answer rules r s.objects
  (reply, { s with objects := o, requests := s.requests + 1 })

/-- Answer a request. The location of a uniform is the place of its name. -/
def answer : (r : Request) → State → r.Reply × State
  | .uniformLocation p name, s =>
    match plain (.uniformLocation p name) s with
    | (none, s) => (none, s)
    | (some _, s) =>
      let (l, s) := s.locate name
      (some l, s)
  | r, s => plain r s

end State

/-- The recording device. -/
def device : Device where
  State := State
  answer := State.answer

/-! ## Records -/

/-- What is worth checking of a run. -/
inductive Entry where
  | createShader (id : Nat)
  | createProgram (id : Nat)
  | deleteProgram (id : Nat)
  | requestFrame (id : Nat)
  | cancelFrame (id : Nat)
  | useProgram (id : Option Nat)
  | enableDepthAndCulling
  | viewport (width height : Int32)
  | clear
  | uniformFloat (name : String) (value : Float32)
  | uniformVec2 (name : String) (x y : Float32)
  | uniformMat4 (name : String) (value : Mat4)
  | drawArrays (count : Nat)
  | drawElements (count : Nat)
  deriving DecidableEq

/-- The record of an exchange, if it is worth one. Refused creations are not. -/
def entryOf (s : State) : Exchange (Action.Reply Request.Reply) → Option Entry
  | ⟨.gpu (.createShader _), .ok h⟩ => some (.createShader h.id)
  | ⟨.gpu .createProgram, .ok h⟩ => some (.createProgram h.id)
  | ⟨.gpu (.deleteProgram p), _⟩ => some (.deleteProgram p.id)
  | ⟨.gpu (.useProgram p), _⟩ => some (.useProgram (p.map Handle.id))
  | ⟨.gpu .enableDepthAndCulling, _⟩ => some .enableDepthAndCulling
  | ⟨.gpu (.viewport w h), _⟩ => some (.viewport w h)
  | ⟨.gpu (.clear _), _⟩ => some .clear
  | ⟨.gpu (.uniformFloat l x), _⟩ => some (.uniformFloat (s.nameAt l) x)
  | ⟨.gpu (.uniformVec2 l x y), _⟩ => some (.uniformVec2 (s.nameAt l) x y)
  | ⟨.gpu (.uniformMat4 l x), _⟩ => some (.uniformMat4 (s.nameAt l) x)
  | ⟨.gpu (.drawArrays n), _⟩ => some (.drawArrays n)
  | ⟨.gpu (.drawElements n), _⟩ => some (.drawElements n)
  | ⟨.requestFrame, id⟩ => some (.requestFrame id.raw)
  | ⟨.cancelFrame id, _⟩ => some (.cancelFrame id.raw)
  | _ => none

/-- The records of a log, in order; `s` is the state of the device afterwards. -/
def recorded (s : State) (log : List (Exchange (Action.Reply Request.Reply))) : List Entry :=
  log.filterMap (entryOf s)

/-- The values fed to a uniform of one number. -/
def floatUploads (name : String) (entries : List Entry) : List Float32 :=
  entries.filterMap fun
    | .uniformFloat n x => if n = name then some x else none
    | _ => none

/-- The matrices fed to the camera uniform. -/
def matrixUploads (entries : List Entry) : List Mat4 :=
  entries.filterMap fun
    | .uniformMat4 n x => if n = Builtin.cameraUniform then some x else none
    | _ => none

/-- The draw calls. -/
def draws (entries : List Entry) : List Entry :=
  entries.filter fun
    | .drawArrays _ | .drawElements _ => true
    | _ => false

/-! ## Sources for checks -/

/-- A stage that does not compile. -/
def brokenText : String :=
  "#version 300 es\nthis is not glsl"

/-- A vertex stage that reads the camera matrix. -/
def cubeVertexText : String :=
  "#version 300 es\n" ++
  "in vec3 a_position;\n" ++
  "uniform mat4 u_modelViewProjectionMatrix;\n" ++
  "void main() \x7b\n" ++
  "    gl_Position = u_modelViewProjectionMatrix * vec4(a_position, 1.0);\n" ++
  "\x7d\n"

/-- A fragment stage that reads the time and the resolution. -/
def plasmaFragmentText : String :=
  "#version 300 es\n" ++
  "precision highp float;\n" ++
  "uniform float u_time;\n" ++
  "uniform vec2 u_resolution;\n" ++
  "out vec4 frag_color;\n" ++
  "void main() \x7b\n" ++
  "    vec2 uv = gl_FragCoord.xy / u_resolution;\n" ++
  "    frag_color = vec4(uv, sin(u_time) * 0.5 + 0.5, 1.0);\n" ++
  "\x7d\n"

end LiveShader.Recording
