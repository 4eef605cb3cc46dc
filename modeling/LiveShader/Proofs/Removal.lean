import LiveShader.Proofs.Handoff
import LiveShader.Proofs.Memory

/-!
# Taking the canvas away

A host takes the canvas away by closing the view, or by telling the view of a change like any other.
Either way the live session is retired first, with the same calls, and the view is `Over`: its
canvas is gone and no session is live. Nothing brings it back, because a session is only launched
for a canvas that is there, and no operation says that it is there again.

The two ways differ in one field. A change that is taken up clears the failure of the last attempt,
and closing does not. So a view that is told of the change after a failed attempt goes on to say
that the attempt failed but not why, where a view that is closed still knows.

* A view that is over may still be told of changes: it records shader code and visibility, and it
  says that a failed answer is one. What it does then is to report (`reporting`), and nothing else.

Results:
* `removals_agree`: closing a view and telling it that the canvas was removed, field by field.
* `View.perform_over`: a view that is over only reports, and is over afterwards.
* `removal_final`: every course after the canvas was taken away.
-/

namespace LiveShader

open Engine

/-! ## Plans that only report -/

/-- The contract of those who do nothing but report. -/
def reporting : Contract (Action.Reply Request.Reply) Unit where
  next _ _ := ()
  owed _ e := e.question.isNote = true

theorem reporting_ignoresNotes : reporting.IgnoresNotes :=
  fun _ _ _ => ⟨rfl, rfl⟩

/-- A plan that only reports makes no calls and leaves the host as it is. -/
theorem Plan.Meets.run_reporting {d : Device} {α : Type} {p : Engine α} {post : α → Unit → Prop}
    (h : p.Meets reporting () post) (host : Host d) :
    (p.run d.host host).state = host ∧ Log.calls (p.run d.host host).log = [] ∧
      post (p.run d.host host).value () := by
  induction p with
  | done a => exact ⟨rfl, rfl, h⟩
  | ask q k ih =>
    cases q with
    | note n => exact ih () (h () trivial).2
    | requestFrame => cases (h (d.host.answer .requestFrame host).1 trivial).1
    | cancelFrame id => cases (h () trivial).1
    | gpu r => cases (h (d.host.answer (.gpu r) host).1 trivial).1

/-! ## Views whose canvas is gone -/

/-- Whether an operation may end like this when nothing is rendered: no frame is drawn, and the only
failure is that of an answer without usable shader code. -/
def Operation.Idles (op : Operation) : Result → Prop
  | .drawn b => b = false
  | .reacted (.error e) => ∃ answer now text, op.change = some (.answered answer, now) ∧
      (answer.success = false ∨ answer.code = none) ∧ e = .service text
  | _ => True

/-- A change that is a failure itself is an answer without usable shader code. -/
theorem Change.eq_answered_of_failure {change : Change} {e : Failure}
    (h : change.failure? = some e) : ∃ answer text, change = .answered answer ∧
      (answer.success = false ∨ answer.code = none) ∧ e = .service text := by
  cases change with
  | answered answer =>
    simp only [failure?, Answer.codeToRender] at h
    cases hs : answer.success with
    | false =>
      simp only [hs, Bool.false_eq_true, if_false, Option.some_inj] at h
      exact ⟨answer, _, rfl, .inl hs, h.symm⟩
    | true =>
      cases hc : answer.code with
      | none =>
        simp only [hs, hc, if_true, Option.some_inj] at h
        exact ⟨answer, _, rfl, .inr hc, h.symm⟩
      | some code => simp [hs, hc] at h
  | _ => cases h

namespace View

variable {v v' : View} {op : Operation}

/-- The canvas is gone and no session is live. -/
structure Over (v : View) : Prop where
  gone : v.gone = true
  session : v.session = none

theorem Over.retired_eq (h : v.Over) : v.retired = v := by
  simp [retired, h.session]

theorem Over.recorded (h : v.Over) (change : Change) : (v.recorded change).Over where
  gone := by simp [recorded_eq, h.gone]
  session := (v.recorded_resembles change).session.trans h.session

/-- Nothing is left to render of a canvas that is gone. -/
theorem toRender_of_gone (h : v.gone = true) : v.toRender = none := by
  simp [toRender, h]

theorem Over.asks_ne (h : v.Over) (change : Change) (code : ShaderCode) :
    v.asks change ≠ .ok (some code) := by
  rw [asks, toRender_of_gone (h.recorded change).gone]
  cases change.failure? <;> simp

/-- **A view that is over only reports**, and is over afterwards. -/
theorem perform_over (h : v.Over) (op : Operation) :
    (v.perform op).Meets reporting () fun a _ => a.2.Over ∧ op.Idles a.1 := by
  refine perform_rule reporting_ignoresNotes (fun _ _ _ _ => ⟨h, trivial⟩)
    (fun change now hop _ => ?_) (fun _ => ?_) (fun id now _ => ?_)
    fun _ _ => ⟨⟨h.gone, h.session⟩, trivial⟩
  · rw [retire_of_none h.session, Plan.meets_pure, h.retired_eq]
    refine takeUp_rule reporting_ignoresNotes (fun e ha => ?_)
      (fun _ => ⟨h.recorded change, trivial⟩) fun code ha => absurd ha (h.asks_ne change code)
    have hf : change.failure? = some e := by
      unfold asks at ha
      split at ha
      · simp_all
      · cases ha
    obtain ⟨answer, text, rfl, hcode, rfl⟩ := Change.eq_answered_of_failure hf
    exact ⟨⟨(h.recorded _).gone, (h.recorded _).session⟩, answer, now, text, hop, hcode, rfl⟩
  · rw [retire_of_none h.session, Plan.meets_pure, h.retired_eq]
    exact ⟨⟨rfl, h.session⟩, trivial⟩
  · rw [frame_of_none h.session, Plan.meets_bind]
    exact reporting_ignoresNotes.note ⟨h, rfl⟩

/-- The change that the canvas was removed is taken up and leaves nothing to render. -/
theorem asks_removed (v : View) : v.asks .removed = .ok none := by
  simp [asks, Change.failure?, recorded_eq, toRender]

/-- However the canvas is taken away, the view is over then. -/
theorem Performs.over {r : Result} (h : v.Performs op r v') (hop : op.removes = true) :
    v'.Over := by
  have hchange {change : Change} {now : Nat} (hc : op.change = some (change, now)) :
      change = .removed := by
    have hne : op ≠ .close := by
      rintro rfl
      cases hc
    simpa [Operation.removes, hne, hc] using hop
  have hnone (hc : op.change = none) : op = .close := by
    simpa [Operation.removes, hc] using hop
  cases h with
  | repeats change now hc hr =>
    obtain rfl := hchange hc
    cases hr
  | changes change now hc _ r _ ht =>
    obtain rfl := hchange hc
    have ha := v.retired.asks_removed
    cases ht with
    | rests _ =>
      refine ⟨by simp [recorded_eq], ?_⟩
      exact (v.retired.recorded_resembles .removed).session.trans v.session_retired
    | refuses e ha' => cases ha.symm.trans ha'
    | fails code e ha' => cases ha.symm.trans ha'
    | begins code s p m id ha' => cases ha.symm.trans ha'
  | closes _ => exact ⟨rfl, v.session_retired⟩
  | resizes size hc =>
    subst hc
    cases hnone rfl
  | ignores id now hc =>
    subst hc
    cases hnone rfl
  | draws id now hc =>
    subst hc
    cases hnone rfl

/-- Closing a view. -/
theorem perform_close_eq (v : View) : v.perform .close = do
    noteIf (!v.gone) .canvasRemoved
    let v ← v.retire
    return (.done, v.closed) := by
  simp [perform, close, closed]

/-- Telling a view that its canvas was removed. -/
theorem perform_removed_eq (v : View) (now : Nat) : v.perform (.react .removed now) = do
    let v ← v.retire
    return (.reacted (.ok ()), { v.closed with lastFailure := none }) := by
  have hr {v : View} : v.recorded .removed = { v.closed with lastFailure := none } := by
    simp [recorded_eq, closed, Change.visible?, Change.code?]
  simp [perform, react, isRedundant, takeUp_eq, asks_removed, hr]

end View

/-! ## Courses -/

/-- Nothing was called in an event, and what the view said was that nothing was rendered. -/
def Event.Idle : Event → Prop
  | .performed op r log _ => Log.calls log = [] ∧ op.Idles r
  | .drained _ => True

namespace Course

variable {d : Device} {c : Course d}

/-- A view that is over stays so whatever the host does, and the device is left alone. -/
theorem over_step (h : c.view.Over) (t : Turn) :
    (c.step t).view.Over ∧ (c.step t).host.device = c.host.device ∧
      ∃ e, (c.step t).past = c.past ++ [e] ∧ e.Idle := by
  cases t with
  | drain => exact ⟨h, rfl, _, rfl, trivial⟩
  | perform op =>
    obtain ⟨hhost, hcalls, hover, hidles⟩ := (View.perform_over h op).run_reporting c.host
    exact ⟨hover, congrArg Host.device hhost, _, rfl, hcalls, hidles⟩

theorem over_run (h : c.view.Over) (turns : List Turn) :
    (c.run turns).view.Over ∧ (c.run turns).host.device = c.host.device ∧
      ∃ later, (c.run turns).past = c.past ++ later ∧ ∀ e ∈ later, e.Idle := by
  induction turns generalizing c with
  | nil => exact ⟨h, rfl, [], by simp [run]⟩
  | cons t turns ih =>
    obtain ⟨hover, hdevice, e, hpast, he⟩ := over_step h t
    obtain ⟨hover', hdevice', later, hpast', hlater⟩ := ih hover
    refine ⟨hover', hdevice'.trans hdevice, e :: later, ?_, List.forall_mem_cons.mpr ⟨he, hlater⟩⟩
    rw [run, List.foldl_cons, ← run, hpast', hpast, List.append_assoc]
    rfl

/-- **Closing a view and telling it that the canvas was removed come to the same**, on any device
and with or without a context, except for the failure of the last attempt: the retired session, the
calls, the host afterwards and every other field of the view agree. A view that is closed still has
the failure that it had, and a view that is told has none. -/
theorem removals_agree (device : d.State) (hasContext : Bool) (display : PixelSize)
    (parameters : Parameters) (turns : List Turn) (now : Nat) :
    let c := (start device (.onCanvas hasContext display parameters)).run turns
    let closed := c.perform .close
    let removed := c.perform (.react .removed now)
    closed.view.Over ∧ removed.view.Over ∧
      Log.calls (c.outcome .close).log = Log.calls (c.outcome (.react .removed now)).log ∧
      closed.host = removed.host ∧
      closed.view.lastFailure = c.view.lastFailure ∧
      removed.view = { closed.view with lastFailure := none } ∧
      (closed.view = removed.view ↔ c.view.lastFailure = none) := by
  intro c closed removed
  have hready : c.view.Ready := ready_run (View.ready_of_none rfl) turns
  have hover {op : Operation} (hop : op.removes = true) : (c.perform op).view.Over := by
    obtain ⟨r, hr⟩ := perform_performs hready.sound op
    exact hr.over hop
  have hvalue : (c.view.retire.run d.host c.host).value = c.view.retired :=
    (View.retire_queueing hready.sound).queue.1
  have hfailure : c.view.retired.lastFailure = c.view.lastFailure := by
    unfold View.retired
    split <;> rfl
  -- The notice that the canvas is gone comes before anything that the host would notice.
  have hnote : ∀ b : Bool, ((noteIf b .canvasRemoved).run d.host c.host).state = c.host ∧
      Log.calls ((noteIf b .canvasRemoved).run d.host c.host).log = [] := by
    rintro (_ | _) <;> exact ⟨rfl, rfl⟩
  obtain ⟨hstate, hcalls⟩ := hnote (!c.view.gone)
  have hclosed : c.outcome .close = ⟨(.done, c.view.retired.closed),
      (c.view.retire.run d.host c.host).state,
      ((noteIf (!c.view.gone) .canvasRemoved).run d.host c.host).log ++
        (c.view.retire.run d.host c.host).log⟩ := by
    simp [outcome, View.perform_close_eq, hstate, hvalue]
  have hremoved : c.outcome (.react .removed now) =
      ⟨(.reacted (.ok ()), { c.view.retired.closed with lastFailure := none }),
        (c.view.retire.run d.host c.host).state, (c.view.retire.run d.host c.host).log⟩ := by
    simp [outcome, View.perform_removed_eq, hvalue]
  have hview : closed.view = c.view.retired.closed := congrArg (·.value.2) hclosed
  have hview' : removed.view = { c.view.retired.closed with lastFailure := none } :=
    congrArg (·.value.2) hremoved
  refine ⟨hover rfl, hover rfl, ?_, ?_, ?_, ?_, ?_⟩
  · rw [hclosed, hremoved]
    simpa [Log.calls] using hcalls
  · exact (congrArg (·.state) hclosed).trans (congrArg (·.state) hremoved).symm
  · rw [hview]
    exact hfailure
  · rw [hview', hview]
  · rw [hview, hview', ← hfailure]
    exact ⟨fun h => congrArg View.lastFailure h, fun h => by rw [← h]; rfl⟩

/-- A failed answer, and then the canvas goes away. A view that is closed says why its last attempt
failed, and a view that is told of the change does not, although both say that it failed. -/
theorem removal_forgets_failure :
    let c := Scripted.course.run [.perform (.submit (.failed "boom") 0)]
    let closed := (c.perform .close).view
    let removed := (c.perform (.react .removed 0)).view
    closed.phase = .errored ∧ closed.lastFailure = some (.service "boom") ∧
      removed.phase = .errored ∧ removed.lastFailure = none ∧ closed ≠ removed := by
  decide

/-- **A canvas that was taken away is gone for good.** However a course went so far, on any device
and with or without a context, once the canvas was taken away, in either way,

* no session is ever live again, and the device stays as it is;
* in whatever happens later, no operation makes a call of the device or of the frame queue, no
  callback draws a frame, and a change only fails if it is an answer without usable shader code,
  with a failure of the service;
* letting go of the view makes no call either. -/
theorem removal_final (device : d.State) (hasContext : Bool) (display : PixelSize)
    (parameters : Parameters) (before : List Turn) (op : Operation) (h : op.removes = true)
    (after : List Turn) :
    let c := ((start device (.onCanvas hasContext display parameters)).run before).perform op
    let c' := c.run after
    c'.view.session = none ∧ c'.host.device = c.host.device ∧
      (∃ later, c'.past = c.past ++ later ∧ ∀ e ∈ later, e.Idle) ∧ c'.finalCalls = [] := by
  intro c c'
  have hready : ((start device (.onCanvas hasContext display parameters)).run before).view.Ready :=
    ready_run (View.ready_of_none rfl) before
  obtain ⟨r, hr⟩ := perform_performs hready.sound op
  obtain ⟨hover, hdevice, hlater⟩ := over_run (hr.over h) after
  exact ⟨hover.session, hdevice, hlater, finalCalls_of_none hover.session⟩

/-- The canvas of a view with a live session is removed, and then the code is rendered again. -/
theorem removal_final_rendered :
    (Operation.react .removed 3).removes = true ∧
      (Scripted.course.run Scripted.turns).view.session.isSome = true ∧
      (((Scripted.course.run Scripted.turns).perform (.react .removed 3)).run
        Scripted.turns).view.session = none := by
  have h : (Operation.react .removed 3).removes = true := rfl
  have hf := removal_final (d := Scripted.device) ({} : Objects) true ⟨4, 4⟩ {} Scripted.turns _ h
    Scripted.turns
  exact ⟨h, by decide +kernel, hf.1⟩

end Course

end LiveShader
