import LiveShader.Proofs.Handoff
import LiveShader.Proofs.Ledger
import LiveShader.Proofs.Memory
import LiveShader.Proofs.Verdict

/-!
# What a view says of a change

A change is answered with a success or a failure, and the view keeps a record of its last attempt:
the phase, the failure and the session. Here the answer is compared with the record, and both with
what has become of the device and of the frame queue.

* A change that only repeats the visibility has no effect and leaves no trace in any of them.
* Any other change first retires the live session, so a failed attempt cannot bring it back.
  `Course.Cleared` is what is left then: no request, no object, nothing scheduled.

Results:
* `View.TakesUp.tells`: the record of a change that is taken up is its answer.
* `Course.cleared_of_error`: after a failure nothing is left of the session that was live.
* `react_accounts`: both, for every change in every course.
-/

namespace LiveShader

open Engine

/-! ## The record -/

namespace View

variable {v v' : View} {change : Change} {now : Nat} {r : Except Failure Unit}

/-- The record of a view agrees with the answer to the last change: a failure is known, and after a
success a session is live exactly if the view is to be seen and has shader code. -/
def Tells (v : View) : Except Failure Unit → Prop
  | .error e => v.lastFailure = some e ∧ v.phase = .errored ∧ v.session = none
  | .ok () => v.lastFailure = none ∧
      (v.session.isSome = true ↔ v.visible = true ∧ v.gone = false ∧ v.code.isSome = true)

theorem revoked_of_live {s : Session} {p : Program} {m : PlacedMesh} {id : FrameId}
    (hs : v.session = some s) (hl : s.Live p m id) (q : CallbackQueue) :
    v.revoked q = q.cancel id := by
  simp [revoked, hs, hl.awaited]

theorem toRender_isSome (v : View) :
    v.toRender.isSome = true ↔ v.visible = true ∧ v.gone = false ∧ v.code.isSome = true := by
  simp only [Option.isSome_iff_exists, toRender_eq_some, exists_and_left]

theorem tells_failed (h : v.session = none) (e : Failure) : (v.failed e).Tells (.error e) :=
  ⟨rfl, phase_of_none h, h⟩

/-- **The record of a change that is taken up is its answer.** -/
theorem TakesUp.tells (h : v.TakesUp change now r v') (hv : v.session = none) : v'.Tells r := by
  have hs : (v.recorded change).session = none :=
    (v.recorded_resembles change).session.trans hv
  have hf : (v.recorded change).lastFailure = none := by rw [recorded_eq]
  have hasks := (v.toRender_recorded change).2
  cases h with
  | refuses e ha => exact tells_failed hs e
  | fails code e ha => exact tells_failed (v := (v.recorded change).fitted) hs e
  | rests ha =>
    refine ⟨hf, ?_⟩
    rw [← toRender_isSome, hasks _ ha, hs]
    exact Iff.rfl
  | begins code s p m id ha =>
    refine ⟨hf, iff_of_true rfl ?_⟩
    have hr : (v.recorded change).toRender.isSome = true := by
      rw [hasks _ ha]
      rfl
    exact (v.recorded change).toRender_isSome.mp hr

/-- What a view says of a change that does not only repeat what is so already. -/
theorem react_tells (hv : v.Sound) (hr : v.isRedundant change = false) :
    (v.react change now).Yields fun a => a.2.Tells a.1 := by
  unfold react Plan.Yields
  rw [hr]
  dsimp only
  rw [Plan.meets_bind]
  refine (retire_yields hv).mono ?_
  rintro _ _ rfl
  exact (takeUp_yields _ change now).mono fun a _ ht => ht.tells v.session_retired

end View

/-! ## What is left after a failure -/

/-- The calls among charges are the calls of the log. -/
theorem Charges.map_snd_calls (charges : Charges) :
    (Charges.calls charges).map Prod.snd = Log.calls (charges.map Prod.snd) := by
  simp [Charges.calls, Log.calls, Function.comp_def, List.filter_map]

namespace Course

variable {d : Device} {c : Course d}

/-- The calls of an operation are those for the live session and then those for itself. -/
theorem Handoff.log_calls {op : Operation} {earlier later : List (Action Request)}
    (h : c.Handoff op earlier later) : Log.calls (c.outcome op).log = earlier ++ later := by
  rw [← c.charges_log op, ← Charges.map_snd_calls, h.calls]
  simp [Function.comp_def]

/-- An operation that lets go of the live session and begins no other leaves the queue without the
request of the former. -/
theorem queue_of_ends (hv : c.view.Sound) {op : Operation} (hop : op.retires c.view = true)
    (hs : (c.outcome op).value.2.session = none) :
    (c.outcome op).state.queue = c.view.revoked c.host.queue := by
  have hd : c.view.Deals op c.host.queue (c.outcome op).value.2 (c.outcome op).state.queue :=
    perform_deals hv op
  cases hd with
  | stays hop' => simp [hop'] at hop
  | ends _ _ hq => exact hq
  | begins _ _ s p m hs' => simp [hs'] at hs
  | draws id now _ s p m _ _ hs' => simp [hs'] at hs

/-- The run of a change as an operation. -/
theorem outcome_react (c : Course d) (change : Change) (now : Nat) :
    let o := (c.view.react change now).run d.host c.host
    c.outcome (.react change now) = ⟨(.reacted o.value.1, o.value.2), o.state, o.log⟩ := by
  simp [outcome, View.perform]

/-- Nothing is left of the session that was live, and nothing of the attempt that came after. -/
structure Cleared (c : Course d) {α : Type} (o : Plan.Outcome d.host α) : Prop where
  /-- The live session was retired before anything else, and its request was revoked. -/
  retired : ∀ s, c.view.session = some s → ∃ p m id rest, s.Live p m id ∧
    Log.calls o.log = retirement p m id ++ rest ∧ id ∉ o.state.queue.outstanding
  /-- Every object that was ever made has been deleted. -/
  deleted : ledger.after 0 (c.log ++ o.log) = 0
  unscheduled : .requestFrame ∉ Log.calls o.log

/-- An operation that fails has let go of the live session before. -/
theorem retires_of_error {op : Operation} {e : Failure}
    (he : (c.outcome op).value.1 = .reacted (.error e)) : op.retires c.view = true := by
  cases hop : op.change with
  | none => exact absurd he (result_of_no_change hop _)
  | some change =>
    cases hr : c.view.isRedundant change.1 with
    | false => exact Operation.retires_of_renews (Operation.renews_of_not_redundant hop hr)
    | true =>
      rw [(c.redundant_outcome hop hr).1] at he
      cases he

/-- **An operation that fails clears everything away.** -/
theorem cleared_of_error (hready : c.view.Ready) (hkept : c.view.Kept (ledger.after 0 c.log))
    {op : Operation} {e : Failure} (he : (c.outcome op).value.1 = .reacted (.error e)) :
    c.Cleared (c.outcome op) := by
  obtain ⟨earlier, later, h⟩ := c.handoff hready op
  obtain ⟨hnone, hlater⟩ := h.failed e he
  have hret : op.retires c.view = true := retires_of_error he
  refine ⟨?_, ?_, ?_⟩
  · intro s hs
    obtain ⟨p, m, id, hl, rfl⟩ := h.retires s hs hret
    refine ⟨p, m, id, later, hl, h.log_calls, ?_⟩
    rw [queue_of_ends hready.sound hret hnone, View.revoked_of_live hs hl]
    simp
  · have hk : ledger.after 0 (c.log ++ (c.outcome op).log) = (c.outcome op).value.2.parts := by
      rw [← log_perform]
      exact (kept_step hkept (.perform op)).entries
    rw [hk, View.parts_of_none hnone]
    rfl
  · rw [h.log_calls, List.mem_append, not_or]
    refine ⟨fun hmem => ?_, fun hmem => by cases hlater _ hmem⟩
    obtain ⟨s, hs⟩ := Option.isSome_iff_exists.mp (h.isSome hmem)
    obtain ⟨p, m, id, -, rfl⟩ := h.retires s hs hret
    simp [retirement] at hmem

/-- **What a change returns is what the view has a record of.** In every course of a view, with or
without a context and on any device, whatever it refuses,

* a change that only repeats the visibility succeeds and leaves everything as it was;
* after any other change the view tells of its last attempt what the change has returned: with a
  failure it is that failure, the phase is `errored` and no session is live; with a success there is
  no failure, and a session is live exactly if the view is visible, the canvas is there and shader
  code is kept;
* if it has failed, the session that was live was retired and its request was revoked, no object is
  left that was ever made, and no frame was requested. -/
theorem react_accounts (device : d.State) (hasContext : Bool) (display : PixelSize)
    (parameters : Parameters) (turns : List Turn) (change : Change) (now : Nat) :
    let c := (start device (.onCanvas hasContext display parameters)).run turns
    let o := (c.view.react change now).run d.host c.host
    (change.visible? = some c.view.visible → o = ⟨(.ok (), c.view), c.host, []⟩) ∧
      (change.visible? ≠ some c.view.visible → o.value.2.Tells o.value.1 ∧
        ∀ e, o.value.1 = .error e → c.Cleared o) := by
  intro c o
  have hready : c.view.Ready := ready_run (View.ready_of_none rfl) turns
  have hkept : c.view.Kept (ledger.after 0 c.log) := ledger_run (View.kept_of_none rfl) turns
  have ho : c.outcome (.react change now) = ⟨(.reacted o.value.1, o.value.2), o.state, o.log⟩ :=
    c.outcome_react change now
  constructor
  · intro hr
    have hr' : c.view.isRedundant change = true := by
      rw [View.isRedundant_eq, hr, decide_eq_true rfl]
    simp [o, View.react, hr']
  · intro hr
    have hr' : c.view.isRedundant change = false := by
      rw [View.isRedundant_eq, decide_eq_false hr]
    refine ⟨((View.react_tells hready.sound hr').run_free (fun _ _ => trivial) d.host c.host).2, ?_⟩
    intro e he
    have hcleared : c.Cleared (c.outcome (.react change now)) :=
      cleared_of_error hready hkept (by rw [ho, he])
    rw [ho] at hcleared
    exact ⟨hcleared.retired, hcleared.deleted, hcleared.unscheduled⟩

end Course

end LiveShader
