import LiveShader.Proofs.Building

/-!
# What becomes of a view

However the device answers, there are only few things that an operation can make of a view.
`View.TakesUp` and `View.Performs` list them, with everything that is known of the view afterwards,
so that what a whole course does to the fields of a view is proved by cases on what happened.

* A change that is taken up refuses, rests, fails or begins a session, and `View.asks` tells which
  of the first two it is; whether it fails or begins is up to the device.
* The device is left out on purpose: what depends on its answers belongs into a contract.

Results:
* `View.perform_performs`: an operation does one of the things that are listed.
* `Course.perform_performs`: the same of the course that performs it.
-/

namespace LiveShader

open Engine

/-! ## What is asked for -/

namespace Operation

/-- What an operation asks to be rendered, if it is a change that does not only repeat what is so
already. -/
def asks (op : Operation) (v : View) : Option (Except Failure (Option ShaderCode)) :=
  match op.change with
  | none => none
  | some (change, _) => if v.isRedundant change then none else some (v.asks change)

variable {op : Operation} {change : Change} {now : Nat} {v : View}

theorem asks_of_no_change (h : op.change = none) : op.asks v = none := by
  simp [asks, h]

theorem asks_of_redundant (h : op.change = some (change, now))
    (hr : v.isRedundant change = true) : op.asks v = none := by
  simp [asks, h, hr]

theorem asks_of_change (h : op.change = some (change, now))
    (hr : v.isRedundant change = false) : op.asks v = some (v.asks change) := by
  simp [asks, h, hr]

end Operation

@[simp] theorem View.asks_retired (v : View) (change : Change) :
    v.retired.asks change = v.asks change := by
  unfold retired
  split
  · rfl
  · simp only [asks, recorded_eq, toRender]

/-! ## What becomes of a view -/

namespace View

variable {v : View}

/-- What becomes of a view without a session that takes up a change. -/
inductive TakesUp (v : View) (change : Change) (now : Nat) : Except Failure Unit → View → Prop where
  /-- The change is a failure itself. -/
  | refuses (e : Failure) (ha : v.asks change = .error e) :
      TakesUp v change now (.error e) ((v.recorded change).failed e)
  /-- There is nothing to render. -/
  | rests (ha : v.asks change = .ok none) : TakesUp v change now (.ok ()) (v.recorded change)
  /-- There is, but no session begins. -/
  | fails (code : ShaderCode) (e : Failure) (ha : v.asks change = .ok (some code)) :
      TakesUp v change now (.error e) ((v.recorded change).fitted.failed e)
  /-- A session begins. -/
  | begins (code : ShaderCode) (s : Session) (p : Program) (m : PlacedMesh) (id : FrameId)
      (ha : v.asks change = .ok (some code)) (hc : v.canvas.hasContext = true) (hl : s.Live p m id)
      (hmesh : s.mesh = code.stages.mesh) (hstart : s.startedAt = some now) :
      TakesUp v change now (.ok ()) ((v.recorded change).fitted.launched s)

/-- What becomes of a view by an operation. -/
inductive Performs (v : View) (op : Operation) : Result → View → Prop where
  /-- A change only repeats what is so already. -/
  | repeats (change : Change) (now : Nat) (hop : op.change = some (change, now))
      (hr : v.isRedundant change = true) : Performs v op (.reacted (.ok ())) v
  /-- The session is retired and the change is taken up. -/
  | changes (change : Change) (now : Nat) (hop : op.change = some (change, now))
      (hr : v.isRedundant change = false) (r : Except Failure Unit) (v' : View)
      (ht : v.retired.TakesUp change now r v') : Performs v op (.reacted r) v'
  | closes (hop : op = .close) : Performs v op .done v.retired.closed
  | resizes (size : PixelSize) (hop : op = .resize size) : Performs v op .done (v.resize size)
  /-- A callback is delivered that is not awaited. -/
  | ignores (id : FrameId) (now : Nat) (hop : op = .frame id now) : Performs v op (.drawn false) v
  /-- A frame is drawn. -/
  | draws (id : FrameId) (now : Nat) (hop : op = .frame id now) (s : Session) (next : FrameId)
      (hs : v.session = some s) :
      Performs v op (.drawn true) { v with session := some (s.advanced next) }

/-! ## Every operation does one of these -/

theorem free_ignoresNotes : Contract.IgnoresNotes (Plan.free (R := Action.Reply Request.Reply)) :=
  fun _ _ _ => ⟨rfl, trivial⟩

theorem free_ignoresFeeds : Contract.IgnoresFeeds (Plan.free (R := Action.Reply Request.Reply)) :=
  fun _ _ _ => ⟨rfl, trivial⟩

theorem retire_yields (hv : v.Sound) : v.retire.Yields (· = v.retired) := by
  refine retire_meets free_ignoresNotes hv (fun _ => rfl) ?_ ?_
  · intro s p m id _ _ _
    cases hm : m.indices <;> simp [Plan.free, Build.deleteProgram, PlacedMesh.delete, hm]
  · intro s p m id _ _ _
    simp [Plan.free]

/-- A session that is prepared and started is live. -/
theorem begin_yields (code : ShaderCode) (parameters : Parameters) (now : Nat) :
    (Session.prepare code.stages parameters).Yields fun r => ∀ s, r = .ok s →
      (s.start now).Yields fun s => (∃ p m id, s.Live p m id) ∧ s.mesh = code.stages.mesh ∧
        s.startedAt = some now := by
  have hl := Session.prepare_yields code.stages parameters
  refine (hl.and_yields (Session.prepare_carries code.stages parameters)).mono ?_
  rintro r _ ⟨hl, hc⟩ s hs
  obtain ⟨p, m, hl⟩ := hl s hs
  obtain ⟨hmesh, -⟩ := hc s hs
  rw [hl.start_eq]
  simp only [Plan.Yields, PlacedMesh.select, Plan.meets_bind, meets_gpu, meets_requestFrame,
    meets_note, Plan.meets_pure, Plan.free, forall_const, true_and]
  exact fun id => ⟨⟨p, m, id, hl.live now id⟩, hmesh, rfl⟩

theorem takeUp_yields (v : View) (change : Change) (now : Nat) :
    (v.takeUp change now).Yields fun a => v.TakesUp change now a.1 a.2 := by
  refine takeUp_rule free_ignoresNotes (fun e ha => .refuses e ha) (fun ha => .rests ha)
    fun code ha => ?_
  refine launch_rule free_ignoresNotes (fun _ => .fails code _ ha) fun hc => ?_
  rw [Plan.meets_bind, meets_gpu]
  refine fun _ _ => ⟨trivial, (begin_yields code _ now).mono fun r _ hr => ?_⟩
  cases r with
  | error e => exact .fails code e ha
  | ok s =>
    refine (hr s rfl).mono ?_
    rintro s _ ⟨⟨p, m, id, hl⟩, hmesh, hstart⟩
    exact .begins code s p m id ha ((v.recorded_resembles change).hasContext ▸ hc) hl hmesh hstart

theorem frame_yields (hv : v.Sound) (id : FrameId) (now : Nat) :
    (v.frame id now).Yields fun a => v.Performs (.frame id now) (.drawn a.1) a.2 := by
  refine frame_meets free_ignoresNotes free_ignoresFeeds hv (fun _ => .ignores id now rfl) ?_
  intro s p m hs _ _ color
  simp only [PlacedMesh.select, Session.draw, Plan.meets_bind, meets_gpu, meets_requestFrame,
    Plan.free, forall_const, true_and]
  split <;> simpa using fun next => Performs.draws id now rfl s next hs

/-- **An operation does one of the things that are listed**, on every device. -/
theorem perform_performs (hv : v.Sound) (op : Operation) :
    (v.perform op).Yields fun a => v.Performs op a.1 a.2 := by
  refine perform_rule free_ignoresNotes (fun change now hop hr => .repeats change now hop hr)
    (fun change now hop hr => ?_) (fun hop => ?_) (fun id now hop => ?_)
    fun size hop => .resizes size hop
  · refine (retire_yields hv).mono ?_
    rintro _ _ rfl
    exact (takeUp_yields _ change now).mono fun a _ ht => .changes change now hop hr a.1 a.2 ht
  · refine (retire_yields hv).mono ?_
    rintro _ _ rfl
    exact .closes hop
  · subst hop
    exact frame_yields hv id now

end View

namespace Course

variable {d : Device} {c : Course d}

/-- What a course makes of its view. -/
theorem perform_performs (hv : c.view.Sound) (op : Operation) :
    ∃ r, c.view.Performs op r (c.perform op).view :=
  ⟨_, ((View.perform_performs hv op).run_free (fun _ _ => trivial) d.host c.host).2⟩

end Course

end LiveShader
