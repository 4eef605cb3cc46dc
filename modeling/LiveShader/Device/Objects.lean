import LiveShader.Device.Request
import LiveShader.Text.Search

/-!
# Devices that keep count

A simulated device keeps the objects that are alive, refuses creations and links on demand, and
counts what must not happen: deleting an object that is not there, and using a program that is
gone. `Rules` say how such a device judges sources; `Objects.device` is the device that follows
them.

* Objects of all kinds are numbered together, from one.
* A shader compiles exactly if its text has a main function and no `#error` line.
* Whatever concerns an object that is not there has no effect.
-/

namespace LiveShader

/-- A stage on the device. -/
structure ShaderObject where
  text : String := ""
  compiled : Bool := false
  deriving DecidableEq, Repr

/-- A program on the device. -/
structure ProgramObject where
  /-- The stages attached, in order. -/
  attached : List Shader := []
  /-- The texts it was linked from. -/
  sources : List String := []
  linked : Bool := false
  deriving DecidableEq, Repr

/-- What a simulated device holds. -/
structure Objects where
  /-- How many objects have been created. -/
  issued : Nat := 0
  shaders : List (Shader × ShaderObject) := []
  programs : List (Program × ProgramObject) := []
  vertexArrays : List VertexArray := []
  buffers : List Buffer := []
  /-- The current program. -/
  current : Option Program := none
  /-- The log with which linking fails until somebody asks for it. -/
  linkFailure : Option String := none
  /-- How many creations succeed before one fails. -/
  creationsLeft : Option Nat := none
  doubleFrees : Nat := 0
  danglingUses : Nat := 0
  deriving DecidableEq, Repr

/-- How a simulated device judges sources. -/
structure Rules where
  /-- Whether a program links from so many attached stages, of which so many exist. -/
  links : (attached existing : Nat) → Bool
  /-- The info log of a shader. -/
  shaderLog : Option ShaderObject → String
  /-- Where a program linked from these texts keeps a uniform. -/
  uniform : List String → String → Option Nat
  /-- Where a program linked from these texts keeps an attribute. -/
  attrib : List String → String → Option Nat

namespace Objects

/-! ## Failures on demand -/

/-- Linking fails with this log. -/
def failLink (o : Objects) (log : String) : Objects :=
  { o with linkFailure := some log }

/-- The creation after the next `n` fails. -/
def failCreation (o : Objects) (n : Nat) : Objects :=
  { o with creationsLeft := some n }

/-! ## Creating and deleting -/

/-- A number for a new object, unless its creation is to fail. -/
def allocate (kind : ObjectKind) (o : Objects) : Option (Handle kind) × Objects :=
  let made (left : Option Nat) : Option (Handle kind) × Objects :=
    (some ⟨o.issued + 1, Nat.succ_pos _⟩, { o with issued := o.issued + 1, creationsLeft := left })
  match o.creationsLeft with
  | none => made none
  | some 0 => (none, { o with creationsLeft := none })
  | some (n + 1) => made (some n)

/-- The kind of an object in words. -/
def kindName : ObjectKind → String
  | .shader => "shader"
  | .program => "program"
  | .vertexArray => "vertex array"
  | .buffer => "buffer"

/-- Create an object; `store` keeps it. -/
def create {kind : ObjectKind} (store : Handle kind → Objects → Objects) (o : Objects) :
    Except String (Handle kind) × Objects :=
  match o.allocate kind with
  | (some h, o) => (.ok h, store h o)
  | (none, o) => (.error ("out of memory creating " ++ kindName kind), o)

/-- Deleting something that is not there is counted. -/
def freed (o : Objects) (alive : Bool) : Objects :=
  if alive then o else { o with doubleFrees := o.doubleFrees + 1 }

/-- Using a current program that is gone is counted. -/
def used (o : Objects) : Objects :=
  match o.current with
  | none => o
  | some p =>
    if (o.programs.lookup p).isSome then o else { o with danglingUses := o.danglingUses + 1 }

/-- An association list without a key. -/
def without {α β : Type} [BEq α] (key : α) (l : List (α × β)) : List (α × β) :=
  l.filter fun e => !(e.1 == key)

/-- An association list with the value of a key changed. -/
def changing {α β : Type} [BEq α] (key : α) (f : β → β) (l : List (α × β)) : List (α × β) :=
  l.map fun e => if e.1 == key then (e.1, f e.2) else e

/-- Change a shader, if it is there. -/
def onShader (o : Objects) (s : Shader) (f : ShaderObject → ShaderObject) : Objects :=
  { o with shaders := changing s f o.shaders }

/-- Change a program, if it is there. -/
def onProgram (o : Objects) (p : Program) (f : ProgramObject → ProgramObject) : Objects :=
  { o with programs := changing p f o.programs }

/-! ## Judging sources -/

/-- Whether a text compiles. -/
def compiles (text : String) : Bool :=
  Text.mentions text "void main" && !Text.mentions text "#error"

/-- Whether one line of a text declares a uniform of this name. -/
def declaresUniform (name text : String) : Bool :=
  (Text.lines text.toList).any fun line =>
    Text.occursIn "uniform".toList (Text.withoutEnd line) &&
      Text.occursIn name.toList (Text.withoutEnd line)

/-- A name that is found stands in one line. -/
theorem feed_notMem_of_declaresUniform {name text : String} (h : declaresUniform name text = true) :
    '\n' ∉ name.toList := by
  obtain ⟨line, hline, hfound⟩ := List.any_eq_true.mp h
  rw [Bool.and_eq_true, Text.occursIn_iff, Text.occursIn_iff] at hfound
  obtain ⟨-, before, after, hname⟩ := hfound
  intro hfeed
  refine Text.feed_notMem_withoutEnd hline ?_
  rw [hname]
  exact List.mem_append_left after (List.mem_append_right before hfeed)

/-- Link a program. -/
def link (rules : Rules) (o : Objects) (p : Program) : Objects :=
  o.onProgram p fun program =>
    let sources := program.attached.filterMap fun s => (o.shaders.lookup s).map ShaderObject.text
    { program with
      sources
      linked := rules.links program.attached.length sources.length && o.linkFailure.isNone }

/-! ## Requests -/

/-- The texts that a program was linked from. -/
def sourcesOf (o : Objects) (p : Program) : List String :=
  ((o.programs.lookup p).map ProgramObject.sources).getD []

/-- Answer a request. -/
def answer (rules : Rules) : (r : Request) → Objects → r.Reply × Objects
  | .createShader _, o => o.create fun h o => { o with shaders := o.shaders ++ [(h, {})] }
  | .shaderSource s text, o => ((), o.onShader s fun x => { x with text })
  | .compileShader s, o => ((), o.onShader s fun x => { x with compiled := compiles x.text })
  | .shaderCompileStatus s, o => (((o.shaders.lookup s).map ShaderObject.compiled).getD false, o)
  | .shaderInfoLog s, o => (rules.shaderLog (o.shaders.lookup s), o)
  | .deleteShader s, o =>
    ((), { o with shaders := without s o.shaders }.freed (o.shaders.lookup s).isSome)
  | .createProgram, o => o.create fun h o => { o with programs := o.programs ++ [(h, {})] }
  | .attachShader p s, o => ((), o.onProgram p fun x => { x with attached := x.attached ++ [s] })
  | .detachShader p s, o =>
    ((), o.onProgram p fun x => { x with attached := x.attached.filter fun t => t != s })
  | .linkProgram p, o => ((), o.link rules p)
  | .programLinkStatus p, o => (((o.programs.lookup p).map ProgramObject.linked).getD false, o)
  | .programInfoLog _, o => (o.linkFailure.getD "", { o with linkFailure := none })
  | .deleteProgram p, o =>
    ((), { o with programs := without p o.programs }.freed (o.programs.lookup p).isSome)
  | .useProgram p, o => ((), { o with current := p }.used)
  | .uniformLocation p name, o => ((rules.uniform (o.sourcesOf p) name).map .mk, o)
  | .attribLocation p name, o => (rules.attrib (o.sourcesOf p) name, o)
  | .createVertexArray, o => o.create fun h o => { o with vertexArrays := o.vertexArrays ++ [h] }
  | .bindVertexArray _, o => ((), o)
  | .deleteVertexArray a, o =>
    ((), { o with vertexArrays := o.vertexArrays.filter fun b => b != a }.freed
      (o.vertexArrays.contains a))
  | .createBuffer, o => o.create fun h o => { o with buffers := o.buffers ++ [h] }
  | .bindBuffer _ _, o => ((), o)
  | .bufferData _ _, o => ((), o)
  | .deleteBuffer b, o =>
    ((), { o with buffers := o.buffers.filter fun c => c != b }.freed (o.buffers.contains b))
  | .floatAttribute _ _, o => ((), o)
  | .enableDepthAndCulling, o => ((), o)
  | .viewport _ _, o => ((), o)
  | .clear _, o => ((), o)
  | .uniformFloat _ _, o => ((), o)
  | .uniformVec2 _ _ _, o => ((), o)
  | .uniformMat4 _ _, o => ((), o)
  | .drawArrays _, o => ((), o.used)
  | .drawElements _, o => ((), o.used)

/-! ## Numbers -/

section

variable (o : Objects)

@[simp] theorem issued_freed (alive : Bool) : (o.freed alive).issued = o.issued := by
  cases alive <;> rfl

@[simp] theorem issued_used : o.used.issued = o.issued := by
  unfold used
  split
  · rfl
  · split <;> rfl

@[simp] theorem issued_onShader (s : Shader) (f : ShaderObject → ShaderObject) :
    (o.onShader s f).issued = o.issued := rfl

@[simp] theorem issued_onProgram (p : Program) (f : ProgramObject → ProgramObject) :
    (o.onProgram p f).issued = o.issued := rfl

@[simp] theorem issued_link (rules : Rules) (p : Program) :
    (o.link rules p).issued = o.issued := rfl

end

/-- The device that follows some rules. -/
def device (rules : Rules) : Device where
  State := Objects
  answer := answer rules

end Objects

end LiveShader
