import LiveShader.Proofs.Building

/-!
# What operations do to the frame queue

The contract `queueing` follows the frame queue through a log and assumes that its replies are those
of a queue; a host makes it so. Every operation of a view deals with the queue in one of four ways,
which `View.Deals` lists: nothing happens, the session ends and its request is revoked, a new
session makes the first request, or a frame makes the next.

Results:
* `Machine.host_queueing`: the log of a host is that of its queue.
* `View.perform_queueing`: what an operation does to the session and to the queue together.
-/

namespace LiveShader

open Engine

/-- The frame queue through a log. -/
def queueing : Contract (Action.Reply Request.Reply) CallbackQueue where
  next
    | q, ⟨.requestFrame, _⟩ => q.request.2
    | q, ⟨.cancelFrame id, _⟩ => q.cancel id
    | q, _ => q
  assumed
    | q, ⟨.requestFrame, id⟩ => id = q.request.1
    | _, _ => True

/-- **A host keeps a frame queue**: its replies are those of the queue that its state holds. -/
theorem Machine.host_queueing (d : Device) {α : Type} (p : Engine α) (h : Host d) :
    queueing.Assumed h.queue (p.run d.host h).log ∧
      queueing.after h.queue (p.run d.host h).log = (p.run d.host h).state.queue := by
  induction p generalizing h with
  | done a => exact ⟨trivial, rfl⟩
  | ask q k ih =>
    cases q with
    | gpu r =>
      obtain ⟨ha, hq⟩ := ih (d.answer r h.device).1 { h with device := (d.answer r h.device).2 }
      exact ⟨⟨trivial, ha⟩, hq⟩
    | requestFrame =>
      obtain ⟨ha, hq⟩ := ih h.queue.request.1 { h with queue := h.queue.request.2 }
      exact ⟨⟨rfl, ha⟩, hq⟩
    | cancelFrame id =>
      obtain ⟨ha, hq⟩ := ih () { h with queue := h.queue.cancel id }
      exact ⟨⟨trivial, ha⟩, hq⟩
    | note n =>
      obtain ⟨ha, hq⟩ := ih () h
      exact ⟨⟨trivial, ha⟩, hq⟩

/-- What meets the contract of the queue ends, on a host, with the host's own queue. -/
theorem Plan.Meets.queue {d : Device} {α : Type} {p : Engine α} {h : Host d}
    {post : α → CallbackQueue → Prop} (hp : p.Meets queueing h.queue post) :
    post (p.run d.host h).value (p.run d.host h).state.queue := by
  obtain ⟨ha, hq⟩ := Machine.host_queueing d p h
  rw [← hq]
  exact (hp.run d.host h ha).2

theorem queueing_indifferent : queueing.Indifferent := by
  rintro q ⟨a, r⟩ - hs
  cases a with
  | gpu r => exact ⟨rfl, trivial⟩
  | note n => exact ⟨rfl, trivial⟩
  | requestFrame => cases hs
  | cancelFrame id => cases hs

namespace View

variable {v : View} {q : CallbackQueue} {op : Operation}

/-- The queue without the request of the live session. -/
def revoked (v : View) (q : CallbackQueue) : CallbackQueue :=
  match v.session.bind Session.awaited with
  | none => q
  | some id => q.cancel id

@[simp] theorem issued_revoked (v : View) (q : CallbackQueue) :
    (v.revoked q).issued = q.issued := by
  unfold revoked
  split <;> rfl

/-- The ways in which an operation may deal with the session and the queue. -/
inductive Deals (v : View) (op : Operation) (q : CallbackQueue) (v' : View) (q' : CallbackQueue) :
    Prop where
  /-- Nothing happens, in particular to a frame that is not awaited. -/
  | stays (hop : op.retires v = false) (hs : v'.session = v.session) (hq : q' = q)
      (hf : ∀ id now, op = .frame id now → v.Ignores id)
  /-- The session ends and no other begins. -/
  | ends (hop : op.retires v = true) (hs : v'.session = none) (hq : q' = v.revoked q)
  /-- The session ends and another begins. -/
  | begins (hop : op.renews v = true) (hc : v.canvas.hasContext = true) (s : Session)
      (p : Program) (m : PlacedMesh) (hs : v'.session = some s)
      (hl : s.Live p m (v.revoked q).request.1) (hq : q' = (v.revoked q).request.2)
  /-- The session draws a frame and waits for the next. -/
  | draws (id : FrameId) (now : Nat) (hop : op = .frame id now) (s : Session) (p : Program)
      (m : PlacedMesh) (hs : v.session = some s) (hl : s.Live p m id)
      (hs' : v'.session = some (s.advanced q.request.1)) (hq : q' = q.request.2)

theorem retire_queueing (hv : v.Sound) :
    v.retire.Meets queueing q fun v' q' => v' = v.retired ∧ q' = v.revoked q := by
  refine retire_meets queueing_indifferent.ignoresNotes hv ?_ ?_ ?_
  · intro hs
    exact ⟨rfl, by simp [revoked, hs]⟩
  · intro s p m id hs _ hl
    cases hm : m.indices <;>
      simp [queueing, Build.deleteProgram, PlacedMesh.delete, revoked, hs, hl.awaited, hm]
  · intro s p m id hs _ hl
    simp [queueing, revoked, hs, hl.awaited]

theorem takeUp_queueing (hv : v.session = none) (change : Change) (now : Nat) :
    (v.takeUp change now).Meets queueing q fun a q' =>
      a.2.canvas.hasContext = v.canvas.hasContext ∧
      (a.2.session = none ∧ q' = q ∨
        v.canvas.hasContext = true ∧ ∃ s p m, a.2.session = some s ∧
          s.Live p m q.request.1 ∧ q' = q.request.2) := by
  have hidle : ∀ (r : Except Failure Unit) (v' : View), v'.Resembles v →
      v'.canvas.hasContext = v.canvas.hasContext ∧ (v'.session = none ∧ q = q ∨
        v.canvas.hasContext = true ∧ ∃ s p m, v'.session = some s ∧
          s.Live p m q.request.1 ∧ q = q.request.2) :=
    fun r v' h => ⟨h.hasContext, .inl ⟨h.session.trans hv, rfl⟩⟩
  refine takeUp_meets queueing_indifferent.ignoresNotes hidle
    (launches_of_indifferent queueing_indifferent hidle ?_)
  intro hc s p m hl
  rw [hl.start_eq]
  simp only [queueing, PlacedMesh.select, Plan.meets_bind, meets_gpu, meets_requestFrame,
    meets_note, Plan.meets_pure, true_and, forall_const]
  rintro _ rfl v' hv' hc'
  exact ⟨hc'.trans hc.symm, .inr ⟨hc, _, p, m, hv', hl.live now _, trivial⟩⟩

theorem frame_queueing (hv : v.Sound) (id : FrameId) (now : Nat) :
    (v.frame id now).Meets queueing q fun a q' =>
      a.2.canvas.hasContext = v.canvas.hasContext ∧ v.Deals (.frame id now) q a.2 q' := by
  refine frame_meets queueing_indifferent.ignoresNotes queueing_indifferent.ignoresFeeds hv ?_ ?_
  · intro hi
    refine ⟨rfl, .stays rfl rfl rfl ?_⟩
    rintro _ _ ⟨⟩
    exact hi
  · intro s p m hs hc hl color
    simp only [queueing, PlacedMesh.select, Session.draw, Plan.meets_bind, meets_gpu,
      meets_requestFrame, true_and, forall_const]
    have hd : ∀ next, next = q.request.1 →
        v.Deals (.frame id now) q { v with session := some (s.advanced next) } q.request.2 := by
      rintro _ rfl
      exact .draws id now rfl s p m hs hl rfl rfl
    split <;> simpa using hd

/-- **What an operation does to the session and to the queue together.** -/
theorem perform_queueing (hv : v.Sound) (op : Operation) :
    (v.perform op).Meets queueing q fun a q' =>
      a.2.canvas.hasContext = v.canvas.hasContext ∧ v.Deals op q a.2 q' := by
  refine perform_meets queueing_indifferent.ignoresNotes ?_ ?_ ?_ ?_
  · intro hop hne r v' hv'
    exact ⟨hv'.hasContext, .stays hop hv'.session rfl fun id now h => absurd h (hne id now)⟩
  · intro hop
    refine (retire_queueing hv).mono ?_
    rintro _ _ ⟨rfl, rfl⟩ change now
    refine (takeUp_queueing v.session_retired change now).mono ?_
    rintro ⟨r, v'⟩ q' ⟨hc, ⟨hs, rfl⟩ | ⟨hc', s, p, m, hs, hl, rfl⟩⟩
    · exact ⟨by rw [hc, v.canvas_retired], .ends (by simp [Operation.retires, hop]) hs rfl⟩
    · exact ⟨by rw [hc, v.canvas_retired], .begins hop (v.canvas_retired ▸ hc') s p m hs hl rfl⟩
  · rintro rfl
    refine (retire_queueing hv).mono ?_
    rintro _ _ ⟨rfl, rfl⟩ v' hv'
    exact ⟨by rw [hv'.hasContext, v.canvas_retired],
      .ends rfl (by rw [hv'.session, v.session_retired]) rfl⟩
  · rintro id now rfl
    exact frame_queueing hv id now

/-- Whatever an operation does, the session it leaves is live. -/
theorem Deals.sound {v' : View} {q' : CallbackQueue} (h : v.Deals op q v' q') (hv : v.Sound) :
    v'.Sound := by
  intro s hs'
  cases h with
  | stays _ hs => exact hv s (hs ▸ hs')
  | ends _ hs => simp [hs] at hs'
  | begins _ _ s p m hs hl =>
    rw [hs, Option.some_inj] at hs'
    exact ⟨p, m, _, hs' ▸ hl⟩
  | draws id now _ s p m _ hl hs =>
    rw [hs, Option.some_inj] at hs'
    exact ⟨p, m, _, hs' ▸ hl.advanced _⟩

/-- A session only begins where there is a context. -/
theorem Deals.ready {v' : View} {q' : CallbackQueue} (h : v.Deals op q v' q') (hv : v.Ready)
    (hc : v'.canvas.hasContext = v.canvas.hasContext) : v'.Ready := by
  refine ⟨h.sound hv.sound, fun hs' => hc.trans ?_⟩
  cases h with
  | stays _ hs => exact hv.hasContext (hs ▸ hs')
  | ends _ hs => simp [hs] at hs'
  | begins _ hc => exact hc
  | draws id now _ s p m hs => exact hv.hasContext (by simp [hs])

end View

namespace Course

variable {d : Device} {c : Course d}

theorem perform_deals (hv : c.view.Sound) (op : Operation) :
    c.view.Deals op c.host.queue (c.perform op).view (c.perform op).host.queue :=
  (View.perform_queueing hv op).queue.2

theorem hasContext_perform (hv : c.view.Sound) (op : Operation) :
    (c.perform op).view.canvas.hasContext = c.view.canvas.hasContext :=
  (View.perform_queueing hv op).queue.1

theorem owner_of_renews {op : Operation} (h : op.renews c.view = true)
    (hs : (c.perform op).view.session.isSome) : (c.perform op).owner = c.past.length := by
  have hv : (c.perform op).view = (c.outcome op).value.2 := rfl
  rw [hv] at hs
  simp [perform, h, hs]

theorem owner_of_not_retires {op : Operation} (h : op.retires c.view = false) :
    (c.perform op).owner = c.owner := by
  have hr : op.renews c.view = false := by
    rw [Operation.retires, Bool.or_eq_false_iff] at h
    exact h.1
  simp [perform, hr]

/-- A session that is live after an operation was launched by it, or has been live before. -/
theorem live_perform (hv : c.view.Sound) {op : Operation}
    (hs : (c.perform op).view.session.isSome) :
    op.renews c.view = true ∧ (c.perform op).owner = c.past.length ∨
      op.retires c.view = false ∧ c.view.session.isSome ∧ (c.perform op).owner = c.owner := by
  cases perform_deals hv op with
  | stays hop hs' => exact .inr ⟨hop, hs' ▸ hs, owner_of_not_retires hop⟩
  | ends _ hs' => simp [hs'] at hs
  | begins hop => exact .inl ⟨hop, owner_of_renews hop hs⟩
  | draws id now hop s p m hs' =>
    subst hop
    exact .inr ⟨rfl, by simp [hs'], owner_of_not_retires rfl⟩

theorem ready_step (h : c.view.Ready) (t : Turn) : (c.step t).view.Ready := by
  cases t with
  | drain => exact h
  | perform op => exact (perform_deals h.sound op).ready h (hasContext_perform h.sound op)

theorem ready_run (h : c.view.Ready) (turns : List Turn) : (c.run turns).view.Ready :=
  run_induction (P := fun c => c.view.Ready) h (fun _ t h => ready_step h t) turns

end Course

end LiveShader
