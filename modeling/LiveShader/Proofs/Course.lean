import LiveShader.Device.Scripted
import LiveShader.Proofs.Contract
import LiveShader.View

/-!
# What a host may do with a view

A host makes a view of a canvas and gives it a frame queue. Then it takes turns, as many as it
likes and in any order: it performs an operation on the view, or it drains the queue. A `Course` is
the view and the host at one moment, together with everything that has happened so far.

* Nothing is assumed of the device: a course runs on any `Device`, whatever it answers.
* The ids that the host delivers are any numbers at all, whether the queue has made them or not.
* `Event.charges` is the log of an event with each exchange charged to a change, which is known by
  its place in the past. What `View.retire` and a frame do is done for the session that is live, so
  it is charged to the change that launched it, the `owner`; the rest is done for the change itself.

Results:
* `charges_log`: the charges of an operation are its log.
* `run_append`, `run_induction`: courses are extended and reasoned about turn by turn.
-/

namespace LiveShader

/-- The combined log of the device, the frame queue and the notices. -/
abbrev Log := List (Exchange (Action.Reply Request.Reply))

/-- A log in which each exchange is charged to the change that it is made for. -/
abbrev Charges := List (Nat × Exchange (Action.Reply Request.Reply))

/-! ## Operations -/

/-- What a host can do with a view. -/
inductive Operation where
  | react (change : Change) (now : Nat)
  | submit (answer : Answer) (now : Nat)
  | render (code : ShaderCode) (now : Nat)
  | setVisible (visible : Bool) (now : Nat)
  | close
  | frame (id : FrameId) (now : Nat)
  | resize (size : PixelSize)
  deriving DecidableEq, Repr

/-- What an operation says to the host. -/
inductive Result where
  | reacted (r : Except Failure Unit)
  /-- Whether a frame was drawn. -/
  | drawn (b : Bool)
  | done

namespace Operation

/-- The change that an operation tells the view of, and when. -/
def change : Operation → Option (Change × Nat)
  | .react change now => some (change, now)
  | .submit answer now => some (.answered answer, now)
  | .render code now => some (.supplied code, now)
  | .setVisible visible now => some (if visible then .shown else .hidden, now)
  | .close | .frame .. | .resize _ => none

/-- Whether an operation is a change that does not only repeat what is so already. -/
def renews (op : Operation) (v : View) : Bool :=
  op.change.any fun c => !v.isRedundant c.1

/-- Whether an operation lets go of the session that is live. -/
def retires (op : Operation) (v : View) : Bool :=
  op.renews v || op = .close

end Operation

/-- Perform an operation. -/
def View.perform (v : View) : Operation → Engine (Result × View)
  | .react change now => do
    let (r, v) ← v.react change now
    return (.reacted r, v)
  | .submit answer now => do
    let (r, v) ← v.submit answer now
    return (.reacted r, v)
  | .render code now => do
    let (r, v) ← v.render code now
    return (.reacted r, v)
  | .setVisible visible now => do
    let (r, v) ← v.setVisible visible now
    return (.reacted r, v)
  | .close => do
    let v ← v.close
    return (.done, v)
  | .frame id now => do
    let (b, v) ← v.frame id now
    return (.drawn b, v)
  | .resize size => return (.done, v.resize size)

/-- An operation that tells of a change is the view's reaction to it. -/
theorem View.perform_of_change {op : Operation} {change : Change} {now : Nat}
    (h : op.change = some (change, now)) (v : View) :
    v.perform op = do
      let (r, v) ← v.react change now
      return (.reacted r, v) := by
  cases op <;> cases h <;> rfl

namespace Operation

variable {op : Operation} {change : Change} {now : Nat} {v : View}

/-- A redundant change does not let go of the session. -/
theorem retires_of_redundant (h : op.change = some (change, now))
    (hr : v.isRedundant change = true) : op.retires v = false := by
  have hne : op ≠ .close := by
    rintro rfl
    cases h
  simp [retires, renews, h, hr, hne]

theorem renews_of_not_redundant (h : op.change = some (change, now))
    (hr : v.isRedundant change = false) : op.renews v = true := by
  simp [renews, h, hr]

theorem retires_of_renews (h : op.renews v = true) : op.retires v = true := by
  simp [retires, h]

theorem renews_of_no_change (h : op.change = none) : op.renews v = false := by
  simp [renews, h]

end Operation

/-! ## Courses -/

/-- What has happened. -/
inductive Event where
  | performed (operation : Operation) (result : Result) (log : Log) (charges : Charges)
  /-- The host has taken these requests from the frame queue. -/
  | drained (ids : List FrameId)

namespace Event

/-- The log of an event. -/
def log : Event → Log
  | .performed _ _ log _ => log
  | .drained _ => []

/-- The log of an event with everything charged. -/
def charges : Event → Charges
  | .performed _ _ _ charges => charges
  | .drained _ => []

end Event

/-- What a host does next. -/
inductive Turn where
  | perform (operation : Operation)
  /-- Take every request from the frame queue. -/
  | drain
  deriving DecidableEq, Repr

/-- A view of a canvas that is not rendered to yet. -/
def View.onCanvas (hasContext : Bool) (display : PixelSize) (parameters : Parameters) : View :=
  { canvas := { created := hasContext, display }, parameters }

/-- A view and its host at one moment, and what has happened so far. -/
structure Course (d : Device) where
  view : View
  host : Host d
  past : List Event := []
  /-- The change that launched the session that is live, or was so last. -/
  owner : Nat := 0

namespace Course

variable {d : Device}

/-- A fresh view with an empty frame queue. -/
def start (device : d.State) (view : View) : Course d where
  view
  host := { device }

/-- Everything that was asked and answered so far. -/
def log (c : Course d) : Log :=
  c.past.flatMap Event.log

/-- The same, with everything charged. -/
def charges (c : Course d) : Charges :=
  c.past.flatMap Event.charges

/-- The run of an operation. -/
def outcome (c : Course d) (op : Operation) : Plan.Outcome d.host (Result × View) :=
  (c.view.perform op).run d.host c.host

/-- The log of an operation with everything charged. The number of a change is its place in the
past. -/
def chargesOf (c : Course d) (op : Operation) : Charges :=
  match op.change with
  | none => (c.outcome op).log.map (c.owner, ·)
  | some (change, now) =>
    match c.view.isRedundant change with
    | true => []
    | false =>
      let o := c.view.retire.run d.host c.host
      let o' := (o.value.takeUp change now).run d.host o.state
      o.log.map (c.owner, ·) ++ o'.log.map (c.past.length, ·)

/-- The host performs an operation. -/
def perform (c : Course d) (op : Operation) : Course d :=
  let o := c.outcome op
  { view := o.value.2
    host := o.state
    past := c.past ++ [.performed op o.value.1 o.log (c.chargesOf op)]
    owner := if op.renews c.view && o.value.2.session.isSome then c.past.length else c.owner }

/-- The host drains the frame queue. -/
def drain (c : Course d) : Course d :=
  let (ids, queue) := c.host.queue.drain
  { c with host := { c.host with queue }, past := c.past ++ [.drained ids] }

/-- The host takes a turn. -/
def step (c : Course d) : Turn → Course d
  | .perform op => c.perform op
  | .drain => c.drain

/-- The host takes turns. -/
def run (c : Course d) (turns : List Turn) : Course d :=
  turns.foldl step c

theorem run_append (c : Course d) (turns turns' : List Turn) :
    c.run (turns ++ turns') = (c.run turns).run turns' :=
  List.foldl_append

/-- What each turn keeps is so after every course. -/
theorem run_induction {P : Course d → Prop} {c : Course d} (h : P c)
    (hstep : ∀ c t, P c → P (c.step t)) (turns : List Turn) : P (c.run turns) := by
  induction turns generalizing c with
  | nil => exact h
  | cons t turns ih => exact ih (hstep c t h)

/-! ### Parts of an operation -/

/-- An operation that is not a change is charged to the owner alone. -/
theorem chargesOf_of_no_change {op : Operation} (h : op.change = none) (c : Course d) :
    c.chargesOf op = (c.outcome op).log.map (c.owner, ·) := by
  unfold chargesOf
  rw [h]

/-- What a redundant change comes to. -/
theorem redundant_outcome {op : Operation} {change : Change} {now : Nat}
    (h : op.change = some (change, now)) (c : Course d)
    (hr : c.view.isRedundant change = true) :
    c.outcome op = ⟨(.reacted (.ok ()), c.view), c.host, []⟩ ∧ c.chargesOf op = [] := by
  unfold outcome chargesOf
  rw [View.perform_of_change h, h]
  simp [View.react, hr]

/-- Any other change is a retirement for the owner and then the change taken up for itself. -/
theorem change_outcome {op : Operation} {change : Change} {now : Nat}
    (h : op.change = some (change, now)) (c : Course d)
    (hr : c.view.isRedundant change = false) :
    let o := c.view.retire.run d.host c.host
    let o' := (o.value.takeUp change now).run d.host o.state
    c.outcome op = ⟨(.reacted o'.value.1, o'.value.2), o'.state, o.log ++ o'.log⟩ ∧
      c.chargesOf op = o.log.map (c.owner, ·) ++ o'.log.map (c.past.length, ·) := by
  unfold outcome chargesOf
  rw [View.perform_of_change h, h]
  simp [View.react, hr]

/-- **The charges of an operation are its log.** -/
theorem charges_log (c : Course d) (op : Operation) :
    (c.chargesOf op).map Prod.snd = (c.outcome op).log := by
  cases h : op.change with
  | none => simp [chargesOf_of_no_change h, Function.comp_def]
  | some change =>
    obtain ⟨change, now⟩ := change
    cases hr : c.view.isRedundant change with
    | true =>
      obtain ⟨ho, hc⟩ := c.redundant_outcome h hr
      rw [ho, hc]
      rfl
    | false =>
      obtain ⟨ho, hc⟩ := c.change_outcome h hr
      rw [ho, hc]
      simp [Function.comp_def]

/-- Whom an operation charges. -/
theorem mem_chargesOf {c : Course d} {op : Operation}
    {x : Nat × Exchange (Action.Reply Request.Reply)} (hx : x ∈ c.chargesOf op) :
    x.1 = c.owner ∨ x.1 = c.past.length := by
  cases h : op.change with
  | none =>
    rw [chargesOf_of_no_change h, List.mem_map] at hx
    obtain ⟨e, -, rfl⟩ := hx
    exact .inl rfl
  | some change =>
    obtain ⟨change, now⟩ := change
    cases hr : c.view.isRedundant change with
    | true =>
      rw [(c.redundant_outcome h hr).2] at hx
      cases hx
    | false =>
      rw [(c.change_outcome h hr).2, List.mem_append, List.mem_map, List.mem_map] at hx
      rcases hx with ⟨e, -, rfl⟩ | ⟨e, -, rfl⟩
      · exact .inl rfl
      · exact .inr rfl

/-! ### Numbers of changes -/

/-- Everything is charged to what has happened, and so is what the live session does. -/
structure Numbered (c : Course d) : Prop where
  charges : ∀ x ∈ c.charges, x.1 < c.past.length
  owner : c.owner ≤ c.past.length
  live : c.view.session.isSome → c.owner < c.past.length

theorem numbered_start (device : d.State) {v : View} (h : v.session = none) :
    (start device v).Numbered where
  charges x hx := by cases hx
  owner := Nat.le_refl _
  live hs := by simp [start, h] at hs

@[simp] theorem charges_perform (c : Course d) (op : Operation) :
    (c.perform op).charges = c.charges ++ c.chargesOf op := by
  simp [charges, perform, Event.charges]

@[simp] theorem charges_drain (c : Course d) : c.drain.charges = c.charges := by
  simp [charges, drain, Event.charges]

@[simp] theorem log_perform (c : Course d) (op : Operation) :
    (c.perform op).log = c.log ++ (c.outcome op).log := by
  simp [log, perform, Event.log]

@[simp] theorem log_drain (c : Course d) : c.drain.log = c.log := by
  simp [log, drain, Event.log]

/-- All charges together are the whole log. -/
theorem charges_log_run {c : Course d} (h : c.charges.map Prod.snd = c.log) (turns : List Turn) :
    (c.run turns).charges.map Prod.snd = (c.run turns).log :=
  run_induction (P := fun c => c.charges.map Prod.snd = c.log) h (fun c t h => by
    cases t with
    | drain => simpa [step] using h
    | perform op => simp [step, h, charges_log]) turns

theorem owner_perform_le {c : Course d} (h : c.Numbered) (op : Operation) :
    (c.perform op).owner ≤ c.past.length := by
  unfold perform
  dsimp only
  split
  · exact Nat.le_refl _
  · exact h.owner

theorem Numbered.drain {c : Course d} (h : c.Numbered) : c.drain.Numbered := by
  have hl : c.drain.past.length = c.past.length + 1 := by simp [Course.drain]
  have ho : c.drain.owner ≤ c.past.length := h.owner
  refine ⟨fun x hx => ?_, by omega, fun _ => by omega⟩
  rw [charges_drain] at hx
  have := h.charges x hx
  omega

theorem Numbered.perform {c : Course d} (h : c.Numbered) (op : Operation) :
    (c.perform op).Numbered := by
  have hl : (c.perform op).past.length = c.past.length + 1 := by simp [Course.perform]
  have ho := owner_perform_le h op
  refine ⟨fun x hx => ?_, by omega, fun _ => by omega⟩
  rw [charges_perform, List.mem_append] at hx
  rcases hx with hx | hx
  · have := h.charges x hx
    omega
  · have := h.owner
    rcases mem_chargesOf hx with hx | hx <;> omega

end Course

/-! ## A course on the scripted device -/

namespace Scripted

/-- Shader code that the scripted device compiles and links, and draws on a quad. -/
def code : ShaderCode :=
  { vertex := some "void main", fragment := some "void main" }

/-- A view of a small canvas of the scripted device. -/
def course : Course device :=
  Course.start (d := device) ({} : Objects) (.onCanvas true ⟨4, 4⟩ {})

/-- The code is rendered, and the callback of the first frame is delivered twice. -/
def turns : List Turn :=
  [.perform (.render code 0), .drain, .perform (.frame ⟨1⟩ 1), .perform (.frame ⟨1⟩ 2)]

end Scripted

end LiveShader
