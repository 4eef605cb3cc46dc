import LiveShader.Proofs.Attempt
import LiveShader.Proofs.Mirror
import LiveShader.Proofs.Token

/-!
# A session owes nothing to those before it

A view that has lived through any number of sessions renders new shader code as a fresh view would.
Its session cannot be told from one that was the first: not by what the device is asked, not by what
it answers, not by the frames that are drawn, and not by how attempts end.

* Devices number their objects and hosts their frame requests, so the two differ in the numbers,
  each kind by one constant. The clock is another matter that the two need not agree on.
* The device is `Orderly` when the new code comes, and whatever it was before. The host has been
  `Honest`, so that it has no request left of a session that is retired.
* Neither view is compared with the other, but both with one on the device that is nothing but a
  ledger, and that has not seen anything yet.

Results:
* `Course.Mirrors.run`: courses that mirror each other keep doing so.
* `Course.renders_mirrors`: rendering makes a course the mirror of one that has only begun.
* `Course.isolated`: two runs, one with a past and one without.
-/

namespace LiveShader

open Engine

/-! ## What is seen -/

/-- What can be seen of an event; notices are left aside. -/
inductive Observed where
  | performed (result : Result) (dealings : Log)
  | drained (ids : List FrameId)

/-- What can be seen of an event. -/
def Event.observed : Event → Observed
  | .performed _ result log _ => .performed result (Log.dealings log)
  | .drained ids => .drained ids

/-- The same under larger numbers. -/
def Observed.shift (ρ : Shift) : Observed → Observed
  | .performed result dealings => .performed result (dealings.map (Exchange.shift ρ))
  | .drained ids => .drained (ids.map (FrameId.shift ρ.frames))

/-- A turn at a later time, for frame requests with larger numbers. -/
def Turn.shift (k : Int) (time : Nat) : Turn → Turn
  | .perform op => .perform (op.shift k time)
  | .drain => .drain

theorem Observed.shift_shift (a b c d : Nat) (o : Observed) :
    (o.shift (.up a b)).shift ⟨c - a, d - b⟩ = o.shift (.up c d) := by
  cases o with
  | performed result dealings =>
    exact congrArg (performed result) (Log.shift_shift a b c d dealings)
  | drained ids => simp [shift, Shift.up, FrameId.shift_shift]

namespace Course

variable {d : Device} {judge : Judge} {n f time : Nat}

/-- What can be seen while the host takes turns. -/
def seen (c : Course d) (turns : List Turn) : List Observed :=
  ((c.run turns).past.drop c.past.length).map Event.observed

/-! ## Courses that mirror each other -/

/-- A course on any device mirrors one on the ledger device. -/
structure Mirrors (judge : Judge) (n f time : Nat) (c : Course d) (c' : Course judge.device) :
    Prop where
  view : c.view = c'.view.shift (.up n f) time
  host : c.host.Mirrors judge n f c'.host

variable {c : Course d} {c' : Course judge.device}

/-- One turn keeps the mirror, and what can be seen of it is mirrored. -/
theorem Mirrors.step (h : c.Mirrors judge n f time c') (t : Turn) :
    (c.step (t.shift f time)).Mirrors judge n f time (c'.step t) ∧
      ∃ e e', (c.step (t.shift f time)).past = c.past ++ [e] ∧
        (c'.step t).past = c'.past ++ [e'] ∧ e.observed = e'.observed.shift (.up n f) := by
  cases t with
  | perform op =>
    obtain ⟨hvalue, hlog, hstate⟩ := (c'.view.perform_mirrors op).run h.host
    rw [← h.view] at hvalue hlog hstate
    refine ⟨⟨congrArg Prod.snd hvalue, hstate⟩, _, _, rfl, rfl, ?_⟩
    exact congr (congrArg Observed.performed (congrArg Prod.fst hvalue)) hlog
  | drain =>
    refine ⟨⟨h.view, h.host.device, h.host.issued, rfl⟩, _, _, rfl, rfl, ?_⟩
    exact congrArg Observed.drained h.host.outstanding

/-- **Courses that mirror each other keep doing so.** -/
theorem Mirrors.run (h : c.Mirrors judge n f time c') (turns : List Turn) :
    (c.run (turns.map (Turn.shift f time))).Mirrors judge n f time (c'.run turns) ∧
      c.seen (turns.map (Turn.shift f time)) =
        (c'.seen turns).map (Observed.shift (.up n f)) := by
  suffices hrun : (c.run (turns.map (Turn.shift f time))).Mirrors judge n f time (c'.run turns) ∧
      ∃ es es', (c.run (turns.map (Turn.shift f time))).past = c.past ++ es ∧
        (c'.run turns).past = c'.past ++ es' ∧
        es.map Event.observed = (es'.map Event.observed).map (Observed.shift (.up n f)) by
    obtain ⟨hmirrors, es, es', hes, hes', hobserved⟩ := hrun
    refine ⟨hmirrors, ?_⟩
    rwa [seen, seen, hes, hes', List.drop_left, List.drop_left]
  induction turns generalizing c c' with
  | nil => exact ⟨h, [], [], by simp [Course.run], by simp [Course.run], rfl⟩
  | cons t turns ih =>
    obtain ⟨hstep, e, e', he, he', hobserved⟩ := h.step t
    obtain ⟨hrun, es, es', hes, hes', hrest⟩ := ih hstep
    refine ⟨hrun, e :: es, e' :: es', ?_, ?_, ?_⟩
    · exact hes.trans (by rw [he, List.append_assoc]; rfl)
    · exact hes'.trans (by rw [he', List.append_assoc]; rfl)
    · simp only [List.map_cons, hobserved, hrest]

end Course

/-! ## What a view is made for -/

namespace View

variable {v v' : View}

/-- The view was made for a canvas with or without a context, and for these parameters. -/
structure MadeFor (v : View) (hasContext : Bool) (parameters : Parameters) : Prop where
  created : v.canvas.created = hasContext
  lost : v.canvas.lost = false
  parameters : v.parameters = parameters

variable {hasContext : Bool} {parameters : Parameters}

theorem MadeFor.retired (h : v.MadeFor hasContext parameters) :
    v.retired.MadeFor hasContext parameters := by
  unfold View.retired
  split <;> exact ⟨h.created, h.lost, h.parameters⟩

theorem MadeFor.recorded (h : v.MadeFor hasContext parameters) (change : Change) :
    (v.recorded change).MadeFor hasContext parameters := by
  rw [recorded_eq]
  exact ⟨h.created, h.lost, h.parameters⟩

/-- No operation changes what a view was made for. -/
theorem MadeFor.performs (h : v.MadeFor hasContext parameters) {op : Operation} {r : Result}
    (hp : v.Performs op r v') : v'.MadeFor hasContext parameters := by
  cases hp with
  | repeats => exact h
  | changes change now _ _ r v' ht =>
    have hw := h.retired.recorded change
    cases ht with
    | rests => exact hw
    | refuses => exact ⟨hw.created, hw.lost, hw.parameters⟩
    | fails => exact ⟨hw.created, hw.lost, hw.parameters⟩
    | begins => exact ⟨hw.created, hw.lost, hw.parameters⟩
  | closes => exact ⟨h.retired.created, h.retired.lost, h.retired.parameters⟩
  | resizes => exact ⟨h.created, h.lost, h.parameters⟩
  | ignores => exact h
  | draws => exact ⟨h.created, h.lost, h.parameters⟩

/-- Shader code that comes to a view that is shown is launched. -/
theorem takeUp_supplied (hvisible : v.visible = true) (hgone : v.gone = false) (code : ShaderCode)
    (now : Nat) :
    v.takeUp (.supplied code) now = (v.recorded (.supplied code)).launch code now := by
  simp [takeUp, recorded, record, hvisible, hgone]

/-- Two views that were made for the same are launched alike, whatever they have been through. -/
theorem anew_of_madeFor (ρ : Shift) (time : Nat) (h : v.MadeFor hasContext parameters)
    (hvisible : v.visible = true) (hgone : v.gone = false) (hs : v.session = none)
    (code : ShaderCode) :
    (v.recorded (.supplied code)).anew =
      (((onCanvas hasContext v.canvas.display parameters).recorded (.supplied code)).anew).shift ρ
        time := by
  obtain ⟨⟨created, lost, display, backing⟩, parameters, visible, gone, rendered, session,
    lastPhase, lastFailure⟩ := v
  obtain ⟨rfl, rfl, rfl⟩ := h
  cases hvisible
  cases hgone
  cases hs
  rfl

/-- Retiring a session gives no number away and enters nothing. -/
theorem retire_ends (judge : Judge) {n : Nat} (hv : v.Sound) (host : Host judge.device)
    (h : Ledger.Ends host.device n) :
    Ledger.Ends (v.retire.run judge.device.host host).state.device n := by
  cases hs : v.session with
  | none =>
    rw [retire_of_none hs]
    exact h
  | some s =>
    obtain ⟨p, m, id, hl⟩ := hv s hs
    cases hc : v.canvas.hasContext with
    | false =>
      rw [retire_of_lost hs hc hl]
      exact h
    | true =>
      rw [retire_eq hs hc hl]
      obtain ⟨mesh, array, vertices, indices⟩ := m
      cases indices <;> exact h.onProgram p _

end View

namespace Course

variable {d : Device} {judge : Judge} {n f time : Nat} {c : Course d}

theorem madeFor_run (device : d.State) (hasContext : Bool) (display : PixelSize)
    (parameters : Parameters) (turns : List Turn) :
    ((start device (.onCanvas hasContext display parameters)).run turns).view.MadeFor hasContext
      parameters := by
  have hready := View.ready_of_none (v := .onCanvas hasContext display parameters) rfl
  refine (run_induction (P := fun c => c.view.Ready ∧ c.view.MadeFor hasContext parameters)
    (c := start device (.onCanvas hasContext display parameters)) ⟨hready, rfl, rfl, rfl⟩
    (fun c t h => ⟨ready_step h.1 t, ?_⟩) turns).2
  cases t with
  | drain => exact h.2
  | perform op =>
    obtain ⟨r, hp⟩ := perform_performs h.1.sound op
    exact h.2.performs hp

/-! ## Rendering -/

/-- A course that has only begun, on the ledger device. -/
def blank (judge : Judge) (hasContext : Bool) (display : PixelSize) (parameters : Parameters) :
    Course judge.device :=
  start (d := judge.device) ({} : Ledger) (.onCanvas hasContext display parameters)

/-- A host whose session was retired mirrors one that has only begun. -/
theorem retired_mirrors (hc : c.Conserves) (hd : Orderly judge d c.host.device n)
    (hasContext : Bool) (display : PixelSize) (parameters : Parameters) :
    (c.view.retire.run d.host c.host).state.Mirrors judge n c.host.queue.issued
      (blank judge hasContext display parameters).host := by
  obtain ⟨l, hends, hexplains⟩ := hd
  obtain ⟨-, -, -, hdevice⟩ := hexplains.run_host c.view.retire c.host.queue
  obtain ⟨-, hqueue⟩ := (View.retire_queueing hc.ready.sound).queue (h := c.host)
  have hl := View.retire_ends judge hc.ready.sound ⟨l, c.host.queue⟩ hends
  refine ⟨⟨_, hdevice, hl.over⟩, ?_, ?_⟩
  · rw [hqueue, View.issued_revoked]
    exact (Nat.zero_add _).symm
  · rw [hqueue, hc.outstanding_revoked]
    rfl

/-- **Rendering makes a course the mirror of one that has only begun.** What it does before that is
to retire the session that is live. -/
theorem renders_mirrors (hc : c.Conserves) {hasContext : Bool} {parameters : Parameters}
    (hv : c.view.MadeFor hasContext parameters) (hvisible : c.view.visible = true)
    (hgone : c.view.gone = false) (hd : Orderly judge d c.host.device n) (code : ShaderCode)
    (now time : Nat) :
    let f := c.host.queue.issued
    let c' := blank judge hasContext c.view.canvas.display parameters
    let o := c.outcome (.render code (now + time))
    let o' := c'.outcome (.render code now)
    o.value.1 = o'.value.1 ∧
      Log.dealings o.log = Log.dealings (c.view.retire.run d.host c.host).log ++
        (Log.dealings o'.log).map (Exchange.shift (.up n f)) ∧
      (c.perform (.render code (now + time))).Mirrors judge n f time
        (c'.perform (.render code now)) := by
  intro f c' o o'
  have hop : (Operation.render code (now + time)).change = some (.supplied code, now + time) := rfl
  have hop' : (Operation.render code now).change = some (.supplied code, now) := rfl
  obtain ⟨ho, -⟩ := c.change_outcome hop rfl
  obtain ⟨ho', -⟩ := c'.change_outcome hop' rfl
  -- The live session is retired; nothing is left of its request.
  obtain ⟨hview, -⟩ := (View.retire_queueing hc.ready.sound).queue (h := c.host)
  have hhost := retired_mirrors hc hd hasContext c.view.canvas.display parameters
  -- From there both launch the code.
  have hlaunch : Engine.Mirrors (.up n f) (fun a b => a = View.shiftValue (.up n f) time b)
      (c.view.retired.takeUp (.supplied code) (now + time))
      (c'.view.retired.takeUp (.supplied code) now) := by
    have hvisible' : c.view.retired.visible = true := by rw [View.visible_retired, hvisible]
    have hgone' : c.view.retired.gone = false := by rw [View.gone_retired, hgone]
    rw [View.takeUp_supplied hvisible' hgone', View.takeUp_supplied rfl rfl]
    have hanew := View.anew_of_madeFor (.up n f) time hv.retired hvisible' hgone'
      c.view.session_retired code
    rw [View.canvas_retired] at hanew
    exact View.launch_mirrors hanew code now
  obtain ⟨hvalue, hlog, hstate⟩ := hlaunch.run hhost
  rw [hview] at ho
  have hwhole : o = _ := ho
  have hwhole' : o' = _ := ho'
  rw [View.retire_of_none rfl, Plan.run_pure] at hwhole'
  refine ⟨?_, ?_, ?_, ?_⟩
  · rw [hwhole, hwhole']
    exact congrArg (fun a => Result.reacted a.1) hvalue
  · rw [hwhole, hwhole']
    simp only [Log.dealings, List.filter_append] at hlog ⊢
    exact congrArg _ hlog
  · change o.value.2 = o'.value.2.shift _ _
    rw [hwhole, hwhole']
    exact congrArg Prod.snd hvalue
  · change o.state.Mirrors judge n f o'.state
    rw [hwhole, hwhole']
    exact hstate

/-- A fresh view has nothing to retire. -/
theorem fresh_mirrors {device : d.State} (hd : Orderly judge d device n) (hasContext : Bool)
    (display : PixelSize) (parameters : Parameters) (code : ShaderCode) (now time : Nat) :
    let c := start device (.onCanvas hasContext display parameters)
    let c' := blank judge hasContext display parameters
    let o := c.outcome (.render code (now + time))
    let o' := c'.outcome (.render code now)
    o.value.1 = o'.value.1 ∧
      Log.dealings o.log = (Log.dealings o'.log).map (Exchange.shift (.up n 0)) ∧
      (c.perform (.render code (now + time))).Mirrors judge n 0 time
        (c'.perform (.render code now)) :=
  renders_mirrors (conserves_start device hasContext display parameters) ⟨rfl, rfl, rfl⟩ rfl rfl hd
    code now time

/-! ## Two runs -/

/-- **A session owes nothing to those before it.** Take any course of an honest host that leaves the
view shown, and a fresh view of a canvas of the same size, with the same parameters, on a device
that judges alike. Both render the same code, at times of their own. Then, after the calls that
retire what the first view had live, the two ask and are answered the same, and whatever the hosts
go on to do alike has the same results; all numbers of objects differ by one constant, and so do
those of frame requests. -/
theorem isolated (judge : Judge) {d' : Device} (device : d.State) (hasContext : Bool)
    (display : PixelSize) (parameters : Parameters) (before : List Turn)
    (hhonest : (start device (.onCanvas hasContext display parameters)).Honest before)
    (hc : (start device (.onCanvas hasContext display parameters)).run before = c)
    (hvisible : c.view.visible = true) (hgone : c.view.gone = false) {n n' : Nat}
    (hd : Orderly judge d c.host.device n) {device' : d'.State} (hd' : Orderly judge d' device' n')
    (code : ShaderCode) (now time time' : Nat) (turns : List Turn) :
    let fresh := start device' (.onCanvas hasContext c.view.canvas.display parameters)
    let ρ : Shift := ⟨n - n', c.host.queue.issued⟩
    let o := c.outcome (.render code (now + time))
    let o' := fresh.outcome (.render code (now + time'))
    let c₁ := c.perform (.render code (now + time))
    let fresh₁ := fresh.perform (.render code (now + time'))
    let turns₁ := turns.map (Turn.shift ρ.frames time)
    let turns' := turns.map (Turn.shift 0 time')
    o.value.1 = o'.value.1 ∧
      Log.dealings o.log = Log.dealings (c.view.retire.run d.host c.host).log ++
        (Log.dealings o'.log).map (Exchange.shift ρ) ∧
      c₁.seen turns₁ = (fresh₁.seen turns').map (Observed.shift ρ) ∧
      (c₁.run turns₁).view.phase = (fresh₁.run turns').view.phase ∧
      (c₁.run turns₁).view.lastFailure = (fresh₁.run turns').view.lastFailure := by
  intro fresh ρ o o' c₁ fresh₁ turns₁ turns'
  have hconserves := conserves_run (conserves_start device hasContext display parameters) hhonest
  have hmade := madeFor_run device hasContext display parameters before
  rw [hc] at hconserves hmade
  obtain ⟨hresult, hlog, hmirrors⟩ :=
    renders_mirrors hconserves hmade hvisible hgone hd code now time
  obtain ⟨hresult', hlog', hmirrors'⟩ :=
    fresh_mirrors hd' hasContext c.view.canvas.display parameters code now time'
  obtain ⟨hrun, hseen⟩ := hmirrors.run turns
  obtain ⟨hrun', hseen'⟩ := hmirrors'.run turns
  -- Both are under larger numbers than the course on the ledger device.
  have hρ : ρ = ⟨(n : Int) - n', (c.host.queue.issued : Int) - (0 : Nat)⟩ := by simp [ρ]
  have hview : (c₁.run turns₁).view = _ := hrun.view
  have hview' : (fresh₁.run turns').view = _ := hrun'.view
  rw [hρ, hview, hview']
  refine ⟨hresult.trans hresult'.symm, hlog.trans ?_, hseen.trans ?_, ?_, rfl⟩
  · refine congrArg _ ?_
    have hdealings : Log.dealings o'.log = _ := hlog'
    rw [hdealings, Log.shift_shift n' 0 n c.host.queue.issued]
  · have hdealings : fresh₁.seen turns' = _ := hseen'
    rw [hdealings, List.map_map]
    exact List.map_congr_left fun x _ => (x.shift_shift n' 0 n c.host.queue.issued).symm
  · rw [View.phase_shift, View.phase_shift]

/-- On the scripted device a second session draws its first frame as the first session did. -/
theorem isolated_again :
    let c := Scripted.course.run Scripted.turns
    Scripted.course.Honest Scripted.turns ∧ c.view.session.isSome ∧
      (c.perform (.render Scripted.code 7)).seen [.drain, .perform (.frame ⟨3⟩ 8)] =
        ((Scripted.course.perform (.render Scripted.code 2)).seen
          [.drain, .perform (.frame ⟨1⟩ 3)]).map (Observed.shift ⟨5, 2⟩) := by
  intro c
  have hhonest : Scripted.course.Honest Scripted.turns := by decide +kernel
  have horderly : Orderly (Objects.judge Scripted.rules) Scripted.device c.host.device
      (Objects.issued c.host.device) := Objects.orderly_run _ _ _
  have hfresh : Orderly (Objects.judge Scripted.rules) Scripted.device ({} : Objects) 0 :=
    Objects.tracks_fresh.orderly
  have hissued : Objects.issued c.host.device = 5 := by decide +kernel
  have hrequests : c.host.queue.issued = 2 := by decide +kernel
  obtain ⟨-, -, hseen, -⟩ := isolated (d := Scripted.device) (c := c) _ ({} : Objects) true
    ⟨4, 4⟩ {} Scripted.turns hhonest rfl (by decide +kernel) (by decide +kernel) horderly hfresh
    Scripted.code 2 5 0 [.drain, .perform (.frame ⟨1⟩ 3)]
  rw [hissued, hrequests] at hseen
  exact ⟨hhonest, by decide +kernel, hseen⟩

end Course

end LiveShader
