import LiveShader.Gl.Fronted
import LiveShader.Proofs.Course

/-!
# The two front ends of a device

A view may be drawn by a device that answers its requests, or by a binding of OpenGL that takes
commands. If it is the same device behind both, nobody can tell the difference: not the view, not
its host, and not the device.

* The device behind the binding is any device, and nothing is assumed of what it refuses. `fronted`
  shows it as OpenGL, `spell` turns requests into commands.
* `spelling` is the translation of a log, exchange by exchange. It is fixed: it knows neither the
  device nor what was set before.
* `Plan.Simulates` says of one question at a time that a machine does on a lower one what is meant.

Results:
* `Plan.Simulates.run`: what is so of every question is so of every plan.
* `Gl.spell_simulates`: the commands for a request do to the device what the request does.
* `Gl.front_ends_agree`: whole courses over the two front ends.
-/

namespace LiveShader

variable {Q Q' : Type} {R : Q → Type} {R' : Q' → Type} {α : Type}

/-! ## Simulation -/

namespace Plan

/-- The plans `f` do on the machine `m'` what the questions mean on `m`. Behind every state of `m'`
there is one of `m`, and an exchange of `m` reads on `m'` as `spelling` says. -/
structure Simulates (f : (q : Q) → Plan R' (R q)) (m : Machine R) (m' : Machine R')
    (behind : m'.State → m.State) (spelling : Exchange R → List (Exchange R')) : Prop where
  value : ∀ q s, ((f q).run m' s).value = (m.answer q (behind s)).1
  state : ∀ q s, behind ((f q).run m' s).state = (m.answer q (behind s)).2
  log : ∀ q s, ((f q).run m' s).log = spelling ⟨q, (m.answer q (behind s)).1⟩

/-- **What is so of every question is so of every plan.** -/
theorem Simulates.run {f : (q : Q) → Plan R' (R q)} {m : Machine R} {m' : Machine R'}
    {behind : m'.State → m.State} {spelling : Exchange R → List (Exchange R')}
    (h : Simulates f m m' behind spelling) (p : Plan R α) (s : m'.State) :
    ((p.expand f).run m' s).value = (p.run m (behind s)).value ∧
      behind ((p.expand f).run m' s).state = (p.run m (behind s)).state ∧
      ((p.expand f).run m' s).log = (p.run m (behind s)).log.flatMap spelling := by
  induction p generalizing s with
  | done a => exact ⟨rfl, rfl, rfl⟩
  | ask q k ih =>
    obtain ⟨hvalue, hstate, hlog⟩ := ih (m.answer q (behind s)).1 ((f q).run m' s).state
    rw [h.state] at hvalue hstate hlog
    simp only [expand, run_bind, Plan.run, List.flatMap_cons, h.value, h.log]
    exact ⟨hvalue, hstate, congrArg _ hlog⟩

/-- What is exchanged with the device, seen from its host. -/
def onHost (e : Exchange R) : Exchange (Action.Reply R) :=
  ⟨.gpu e.question, e.reply⟩

/-- A plan for the device, carried out by a host. -/
theorem run_onHost {m : Machine R} (p : Plan R α) (s : Host m) :
    (p.expand fun q => (.ask (.gpu q) .done : Plan (Action.Reply R) (R q))).run m.host s =
      let o := p.run m s.device
      ⟨o.value, { s with device := o.state }, o.log.map onHost⟩ := by
  induction p generalizing s with
  | done a => rfl
  | ask q k ih => simp [expand, Plan.bind, Plan.run, ih, onHost]

end Plan

namespace Gl

/-! ## Exchanges in commands -/

/-- The exchange of a request, spelled out: each request becomes a fixed list of commands, and the
reply is that to the last of them. -/
def spelling : Exchange Request.Reply → List (Exchange Command.Reply)
  | ⟨.createShader stage, r⟩ => [⟨.createShader (stageKind stage), r⟩]
  | ⟨.shaderSource shader text, r⟩ => [⟨.shaderSource shader text, r⟩]
  | ⟨.compileShader shader, r⟩ => [⟨.compileShader shader, r⟩]
  | ⟨.shaderCompileStatus shader, r⟩ => [⟨.shaderCompileStatus shader, r⟩]
  | ⟨.shaderInfoLog shader, r⟩ => [⟨.shaderInfoLog shader, r⟩]
  | ⟨.deleteShader shader, r⟩ => [⟨.deleteShader shader, r⟩]
  | ⟨.createProgram, r⟩ => [⟨.createProgram, r⟩]
  | ⟨.attachShader program shader, r⟩ => [⟨.attachShader program shader, r⟩]
  | ⟨.detachShader program shader, r⟩ => [⟨.detachShader program shader, r⟩]
  | ⟨.linkProgram program, r⟩ => [⟨.linkProgram program, r⟩]
  | ⟨.programLinkStatus program, r⟩ => [⟨.programLinkStatus program, r⟩]
  | ⟨.programInfoLog program, r⟩ => [⟨.programInfoLog program, r⟩]
  | ⟨.deleteProgram program, r⟩ => [⟨.deleteProgram program, r⟩]
  | ⟨.useProgram program, r⟩ => [⟨.useProgram program, r⟩]
  | ⟨.uniformLocation program name, r⟩ => [⟨.uniformLocation program name, r⟩]
  | ⟨.attribLocation program name, r⟩ => [⟨.attribLocation program name, r⟩]
  | ⟨.createVertexArray, r⟩ => [⟨.createVertexArray, r⟩]
  | ⟨.bindVertexArray array, r⟩ => [⟨.bindVertexArray array, r⟩]
  | ⟨.deleteVertexArray array, r⟩ => [⟨.deleteVertexArray array, r⟩]
  | ⟨.createBuffer, r⟩ => [⟨.createBuffer, r⟩]
  | ⟨.bindBuffer target buffer, r⟩ => [⟨.bindBuffer (targetKind target) buffer, r⟩]
  | ⟨.bufferData target data, r⟩ => [⟨.bufferData (targetKind target) data staticDraw, r⟩]
  | ⟨.deleteBuffer buffer, r⟩ => [⟨.deleteBuffer buffer, r⟩]
  | ⟨.floatAttribute index components, r⟩ =>
    [⟨.enableVertexAttribArray index, ()⟩,
      ⟨.vertexAttribPointer index components float false 0 0, r⟩]
  | ⟨.enableDepthAndCulling, r⟩ =>
    [⟨.enable depthTest, ()⟩, ⟨.enable cullFaces, ()⟩, ⟨.frontFace counterClockwise, ()⟩,
      ⟨.cullFace back, r⟩]
  | ⟨.viewport width height, r⟩ => [⟨.viewport 0 0 width height, r⟩]
  | ⟨.clear color, r⟩ =>
    [⟨.clearColor color.r color.g color.b color.a, ()⟩, ⟨.clear (colorBit + depthBit), r⟩]
  | ⟨.uniformFloat location value, r⟩ => [⟨.uniformFloat location value, r⟩]
  | ⟨.uniformVec2 location x y, r⟩ => [⟨.uniformVec2 location x y, r⟩]
  | ⟨.uniformMat4 location value, r⟩ => [⟨.uniformMat4 location false value, r⟩]
  | ⟨.drawArrays count, r⟩ => [⟨.drawArrays triangles 0 count, r⟩]
  | ⟨.drawElements count, r⟩ => [⟨.drawElements triangles count unsignedShort 0, r⟩]

/-- **The commands for a request do to the device what the request does**, and the reply is the
device's. -/
theorem spell_simulates (d : Device) :
    Plan.Simulates spell d (fronted d) Fronted.device spelling where
  value r s := by
    cases r with
    | createShader stage => cases stage <;> rfl
    | bindBuffer target _ | bufferData target _ => cases target <;> rfl
    | _ => rfl
  state r s := by
    cases r with
    | createShader stage => cases stage <;> rfl
    | bindBuffer target _ | bufferData target _ => cases target <;> rfl
    | floatAttribute index components =>
      have hrun : ((spell (.floatAttribute index components)).run (fronted d) s).state =
          (Fronted.effect (index ∈ index :: s.attributes && true && true && true && true)
            (.floatAttribute index components)
            { s with attributes := index :: s.attributes }).2 := rfl
      have henabled : index ∈ index :: s.attributes := List.mem_cons_self
      rw [hrun, decide_eq_true henabled]
      rfl
    | _ => rfl
  log r s := by
    cases r with
    | createShader stage => cases stage <;> rfl
    | bindBuffer target _ | bufferData target _ => cases target <;> rfl
    | _ => rfl

/-! ## Hosts of the two front ends -/

/-- The host that sees the device and nothing of what is set before it. -/
def behind {d : Device} (s : Host (fronted d)) : Host d :=
  ⟨s.device.device, s.queue⟩

/-- The exchange of an action, spelled out. Only requests have anything to spell. -/
def actionSpelling :
    Exchange (Action.Reply Request.Reply) → List (Exchange (Action.Reply Command.Reply))
  | ⟨.gpu r, reply⟩ => (spelling ⟨r, reply⟩).map Plan.onHost
  | ⟨.requestFrame, id⟩ => [⟨.requestFrame, id⟩]
  | ⟨.cancelFrame id, reply⟩ => [⟨.cancelFrame id, reply⟩]
  | ⟨.note n, reply⟩ => [⟨.note n, reply⟩]

/-- **A host with the binding does what a host with the device does.** -/
theorem through_simulates (d : Device) :
    Plan.Simulates (Action.through spell) d.host (fronted d).host behind actionSpelling where
  value a s := by
    cases a with
    | gpu r =>
      have hrun := congrArg (·.value) (Plan.run_onHost (spell r) s)
      exact hrun.trans ((spell_simulates d).value r s.device)
    | _ => rfl
  state a s := by
    cases a with
    | gpu r =>
      have hrun := congrArg (fun o => behind o.state) (Plan.run_onHost (spell r) s)
      have hdevice := (spell_simulates d).state r s.device
      exact hrun.trans (congrArg (Host.mk · s.queue) hdevice)
    | _ => rfl
  log a s := by
    cases a with
    | gpu r =>
      have hrun := congrArg (·.log) (Plan.run_onHost (spell r) s)
      have hlog := (spell_simulates d).log r s.device
      exact hrun.trans (congrArg (List.map Plan.onHost) hlog)
    | _ => rfl

/-! ## Courses over a binding -/

/-- What has happened on a binding. -/
inductive BoundEvent where
  | performed (operation : Operation) (result : Result)
      (log : List (Exchange (Action.Reply Command.Reply)))
  | drained (ids : List FrameId)

/-- An event on the device, told as one on a binding. -/
def BoundEvent.of : Event → BoundEvent
  | .performed op result log _ => .performed op result (log.flatMap actionSpelling)
  | .drained ids => .drained ids

/-- A view over a binding and its host at one moment, and what has happened so far. -/
structure BoundCourse (b : Binding) where
  view : View
  host : Host b
  past : List BoundEvent := []

namespace BoundCourse

variable {b : Binding}

/-- A fresh view with an empty frame queue. -/
def start (device : b.State) (view : View) : BoundCourse b where
  view
  host := { device }

/-- The host takes a turn. -/
def step (c : BoundCourse b) : Turn → BoundCourse b
  | .perform op =>
    let o := (c.view.perform op).spelled.run b.host c.host
    ⟨o.value.2, o.state, c.past ++ [.performed op o.value.1 o.log]⟩
  | .drain =>
    let (ids, queue) := c.host.queue.drain
    ⟨c.view, { c.host with queue }, c.past ++ [.drained ids]⟩

/-- The host takes turns. -/
def run (c : BoundCourse b) (turns : List Turn) : BoundCourse b :=
  turns.foldl step c

end BoundCourse

variable {d : Device}

/-- The courses of a device and of the binding that fronts it have come to the same. -/
structure Agree (c : Course d) (c' : BoundCourse (fronted d)) : Prop where
  view : c'.view = c.view
  host : behind c'.host = c.host
  past : c'.past = c.past.map BoundEvent.of

/-- One turn keeps the two courses together. -/
theorem Agree.step {c : Course d} {c' : BoundCourse (fronted d)} (h : Agree c c') (t : Turn) :
    Agree (c.step t) (c'.step t) := by
  cases t with
  | perform op =>
    obtain ⟨hvalue, hstate, hlog⟩ := (through_simulates d).run (c'.view.perform op) c'.host
    rw [h.host] at hvalue hstate hlog
    refine ⟨?_, ?_, ?_⟩
    · exact (congrArg Prod.snd hvalue).trans (by rw [h.view]; rfl)
    · exact hstate.trans (by rw [h.view]; rfl)
    · simp [BoundCourse.step, Course.step, Course.perform, Course.outcome, h.past, ← h.view,
        BoundEvent.of, Engine.spelled, hvalue, hlog]
  | drain =>
    have hqueue : c'.host.queue = c.host.queue := congrArg Host.queue h.host
    refine ⟨h.view, ?_, ?_⟩
    · have hdevice : c'.host.device.device = c.host.device := congrArg Host.device h.host
      simp [BoundCourse.step, Course.step, Course.drain, behind, hqueue, hdevice]
    · simp [BoundCourse.step, Course.step, Course.drain, h.past, hqueue, BoundEvent.of]

/-- So do all turns. -/
theorem Agree.run {c : Course d} {c' : BoundCourse (fronted d)} (h : Agree c c')
    (turns : List Turn) : Agree (c.run turns) (c'.run turns) := by
  induction turns generalizing c c' with
  | nil => exact h
  | cons t turns ih => exact ih (h.step t)

/-- **The two front ends of a device cannot be told apart.** After any turns with any device, the
views are the same, the device and the frame queue are in the same state, and everything that was
said, drawn and asked is the same, with each request spelled out in commands. Dropping the view
changes nothing of this. -/
theorem front_ends_agree (front : Fronted d) (view : View) (turns : List Turn) :
    let c := (Course.start front.device view).run turns
    let c' := (BoundCourse.start (b := fronted d) front view).run turns
    let o := c.view.drop.run d.host c.host
    let o' := c'.view.drop.spelled.run (fronted d).host c'.host
    c'.view = c.view ∧ behind c'.host = c.host ∧ c'.past = c.past.map BoundEvent.of ∧
      behind o'.state = o.state ∧ o'.log = o.log.flatMap actionSpelling := by
  intro c c' o o'
  have hstart : Agree (Course.start front.device view)
      (BoundCourse.start (b := fronted d) front view) := ⟨rfl, rfl, rfl⟩
  have hrun : Agree c c' := hstart.run turns
  obtain ⟨-, hstate, hlog⟩ := (through_simulates d).run c'.view.drop c'.host
  rw [hrun.host] at hstate hlog
  refine ⟨hrun.view, hrun.host, hrun.past, hstate.trans ?_, hlog.trans ?_⟩
  · rw [hrun.view]
  · rw [hrun.view]

end Gl

end LiveShader
