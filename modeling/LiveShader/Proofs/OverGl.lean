import LiveShader.Gl.Exposed
import LiveShader.Gl.FrontEnd
import LiveShader.Gl.Pipeline
import LiveShader.Proofs.Course

/-!
# Views that are drawn by OpenGL

A host may carry out what a view does with an OpenGL context instead of a device. A `Gl.Course` is
the view, the host and every call so far. The context is any machine at all.

What the calls for a request do to the pipeline is a matter of the request and of what is made of
the replies (`Gl.Pipeline.request`). So a contract about requests and one about calls can follow the
same pipeline, and what is shown of requests holds of the calls.

Results:
* `Gl.carryOut_painting`: the calls for a request do to the pipeline what the request means.
* `Plan.Meets.overGl`: what holds of pictures request by request holds call by call.
-/

namespace LiveShader

namespace Gl

/-- The combined log of the context, the frame queue and the notices. -/
abbrev Log := List (Exchange (Action.Reply Call.Reply))

/-! ## Courses -/

/-- A view whose canvas is drawn by OpenGL and its host at one moment, and every call so far. -/
structure Course (ctx : Context) where
  view : View
  host : Host ctx
  log : Log := []

namespace Course

variable {ctx : Context}

/-- A fresh view with an empty frame queue. -/
def start (context : ctx.State) (view : View) : Course ctx where
  view
  host := { device := context }

/-- The run of an operation. -/
def outcome (c : Course ctx) (op : Operation) : Plan.Outcome ctx.host (Result × View) :=
  (c.view.perform op).overGl.run ctx.host c.host

/-- The host performs an operation. -/
def perform (c : Course ctx) (op : Operation) : Course ctx :=
  let o := c.outcome op
  { view := o.value.2, host := o.state, log := c.log ++ o.log }

/-- The host takes a turn. -/
def step (c : Course ctx) : Turn → Course ctx
  | .perform op => c.perform op
  | .drain => { c with host := { c.host with queue := c.host.queue.drain.2 } }

/-- The host takes turns. -/
def run (c : Course ctx) (turns : List Turn) : Course ctx :=
  turns.foldl step c

/-- What each turn keeps is so after every course. -/
theorem run_induction {P : Course ctx → Prop} {c : Course ctx} (h : P c)
    (hstep : ∀ c t, P c → P (c.step t)) (turns : List Turn) : P (c.run turns) := by
  induction turns generalizing c with
  | nil => exact h
  | cons t turns ih => exact ih (hstep c t h)

end Course

/-! ## What requests and calls do to the pipeline -/

/-- Whether a call draws. -/
def Call.isDraw : Call → Bool
  | .drawArrays .. | .drawElements .. => true
  | _ => false

/-- Whether a call uploads a uniform. -/
def Call.isUpload : Call → Bool
  | .uniform1f .. | .uniform2f .. | .uniformMatrix4fv .. => true
  | _ => false

namespace Pipeline

/-- The pipeline after an action. -/
def act (p : Pipeline) : Exchange (Action.Reply Call.Reply) → Pipeline
  | ⟨.gpu c, r⟩ => p.next ⟨c, r⟩
  | _ => p

/-- The pipeline after a log. -/
def after (p : Pipeline) (log : Log) : Pipeline :=
  log.foldl act p

/-- What a request means for the pipeline. -/
def request (p : Pipeline) : (r : Request) → r.Reply → Pipeline
  | .createProgram, made => p.next ⟨.createProgram, createdName made⟩
  | .linkProgram program, _ => p.next ⟨.linkProgram program.id, ()⟩
  | .deleteProgram program, _ => p.next ⟨.deleteProgram program.id, ()⟩
  | .useProgram program, _ => p.next ⟨.useProgram (nameOf program), ()⟩
  | .uniformLocation program name, found =>
    p.learnUniform program.id name (found.map UniformLocation.index)
  | .attribLocation program name, found => p.learnAttribute program.id name found
  | .createVertexArray, made => p.next ⟨.genVertexArray, createdName made⟩
  | .bindVertexArray array, _ => p.next ⟨.bindVertexArray (nameOf array), ()⟩
  | .deleteVertexArray array, _ => p.next ⟨.deleteVertexArray array.id, ()⟩
  | .createBuffer, made => p.next ⟨.genBuffer, createdName made⟩
  | .bindBuffer target buffer, _ => p.next ⟨.bindBuffer (targetKind target) (nameOf buffer), ()⟩
  | .bufferData target data, _ => p.next ⟨.bufferData (targetKind target) data staticDraw, ()⟩
  | .deleteBuffer buffer, _ => p.next ⟨.deleteBuffer buffer.id, ()⟩
  | .floatAttribute index components, _ =>
    (p.enableAttribute index).pointAttribute index ⟨p.vertices, components, float, false, 0, 0⟩
  | .enableDepthAndCulling, _ =>
    { p with
      capabilities := Function.update (Function.update p.capabilities depthTest true) cullFaces true
      frontFace := counterClockwise
      culledFace := back }
  | .viewport width height, _ => { p with viewport := (0, 0, width, height) }
  | _, _ => p

end Pipeline

/-- The call for a request that draws or feeds a uniform. -/
@[simp] def picture? : Request → Option Call
  | .uniformFloat location value => some (.uniform1f location.index value)
  | .uniformVec2 location x y => some (.uniform2f location.index x y)
  | .uniformMat4 location value => some (.uniformMatrix4fv location.index false value)
  | .drawArrays count => some (.drawArrays triangles 0 count)
  | .drawElements count => some (.drawElements triangles count unsignedShort 0)
  | _ => none

/-- Whenever a call draws or uploads a uniform, the pipeline is as `P` demands. -/
def painting (P : Pipeline → Call → Prop) : Contract (Action.Reply Call.Reply) Pipeline where
  next := Pipeline.act
  owed p e := ∀ c, e.question = .gpu c → c.isDraw || c.isUpload → P p c

end Gl

/-- Whenever a request draws or feeds a uniform, the pipeline is as `P` demands of its call. -/
def painting (P : Gl.Pipeline → Gl.Call → Prop) :
    Contract (Action.Reply Request.Reply) Gl.Pipeline where
  next
    | p, ⟨.gpu r, reply⟩ => p.request r reply
    | p, _ => p
  owed p e := ∀ r c, e.question = .gpu r → Gl.picture? r = some c → P p c

namespace Gl

variable {P : Pipeline → Call → Prop} {p : Pipeline}

@[simp] theorem createdName_handle (what : String) (kind : ObjectKind) (id : Nat) :
    createdName (handle what kind id) = id := by
  unfold handle
  split
  · rfl
  · simp only [createdName]
    omega

/-- A call that neither draws nor uploads owes nothing. -/
theorem painting_owed {c : Call} (h : (c.isDraw || c.isUpload) = false) (reply : c.Reply) :
    (painting P).owed p ⟨.gpu c, reply⟩ := by
  rintro _ ⟨⟩ hc
  rw [h] at hc
  cases hc

/-- **The calls for a request do to the pipeline what the request means.** -/
theorem carryOut_painting (r : Request)
    (hr : ∀ reply, (LiveShader.painting P).owed p ⟨.gpu r, reply⟩) :
    (Action.through carryOut (.gpu r)).Meets (painting P) p fun reply p' =>
      p' = p.request r reply := by
  cases r with
  | createShader stage => exact fun _ _ => ⟨painting_owed rfl _, rfl⟩
  | shaderInfoLog shader =>
    refine fun size _ => ⟨painting_owed rfl _, ?_⟩
    cases size with
    | zero => exact rfl
    | succ n => exact fun _ _ => ⟨painting_owed rfl _, rfl⟩
  | programInfoLog program =>
    refine fun size _ => ⟨painting_owed rfl _, ?_⟩
    cases size with
    | zero => exact rfl
    | succ n => exact fun _ _ => ⟨painting_owed rfl _, rfl⟩
  | createProgram =>
    exact fun id _ => ⟨painting_owed rfl _, congrArg p.forgetLocations (createdName_handle ..).symm⟩
  | createVertexArray =>
    exact fun id _ => ⟨painting_owed rfl _, congrArg p.addArray (createdName_handle ..).symm⟩
  | createBuffer =>
    exact fun id _ => ⟨painting_owed rfl _, congrArg p.addBuffer (createdName_handle ..).symm⟩
  | uniformLocation program name | attribLocation program name =>
    refine fun found _ => ⟨painting_owed rfl _, ?_⟩
    cases found <;> exact rfl
  | floatAttribute index components =>
    exact fun _ _ => ⟨painting_owed rfl _, fun _ _ => ⟨painting_owed rfl _, rfl⟩⟩
  | enableDepthAndCulling =>
    exact fun _ _ => ⟨painting_owed rfl _, fun _ _ => ⟨painting_owed rfl _,
      fun _ _ => ⟨painting_owed rfl _, fun _ _ => ⟨painting_owed rfl _, rfl⟩⟩⟩⟩
  | clear color => exact fun _ _ => ⟨painting_owed rfl _, fun _ _ => ⟨painting_owed rfl _, rfl⟩⟩
  | uniformFloat | uniformVec2 | uniformMat4 | drawArrays | drawElements =>
    refine fun _ _ => ⟨?_, rfl⟩
    rintro _ ⟨⟩ -
    exact hr () _ _ rfl rfl
  | _ => exact fun _ _ => ⟨painting_owed rfl _, rfl⟩

end Gl

/-- **What holds of pictures request by request holds call by call.** -/
theorem Plan.Meets.overGl {P : Gl.Pipeline → Gl.Call → Prop} {p : Gl.Pipeline} {α : Type}
    {e : Engine α} {post : α → Gl.Pipeline → Prop} (h : e.Meets (painting P) p post) :
    e.overGl.Meets (Gl.painting P) p post := by
  refine h.expand (fun _ _ => trivial) fun a p ha => ?_
  cases a with
  | gpu r => exact Gl.carryOut_painting r ha
  | requestFrame | cancelFrame id | note n =>
    refine fun _ _ => ⟨?_, rfl⟩
    rintro _ ⟨⟩

end LiveShader
