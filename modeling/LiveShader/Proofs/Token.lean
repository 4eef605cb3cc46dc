import LiveShader.Proofs.Queue

/-!
# The frame token

A live session waits for one callback. The request for it is like a token that is at one place at a
time: it is outstanding in the frame queue, or the host has drained it and has yet to deliver it.
So a live session never waits for a callback that nobody holds, and a session that is retired
leaves no request behind.

* The host is `Honest`: it delivers only ids that it has drained, though late, twice, in any order
  or never.
* `Conserves` is the invariant. Besides the place of the token it says that the queue never makes
  an id again: what is outstanding was never drained.

Results:
* `conserves_step`: every turn of an honest host keeps the invariant.
* `frame_token_conserved`: where the token is after any course.
-/

namespace LiveShader

/-- The requests that the host took from the queue in an event. -/
def Event.drainedIds : Event → List FrameId
  | .performed .. => []
  | .drained ids => ids

/-- The callback that a turn delivers. -/
def Turn.delivered : Turn → Option FrameId
  | .perform (.frame id _) => some id
  | _ => none

/-- Whether the host delivers a callback in an event. -/
def Event.delivers (id : FrameId) : Event → Bool
  | .performed (.frame id' _) .. => id' = id
  | _ => false

namespace Course

variable {d : Device} {c : Course d}

/-- The requests that the host has ever drained. -/
def drainedIds (c : Course d) : List FrameId :=
  c.past.flatMap Event.drainedIds

/-- What an honest host may do: an id that it delivers is one that it has drained before. -/
def Honest (c : Course d) : List Turn → Prop
  | [] => True
  | t :: turns => (∀ id ∈ t.delivered, id ∈ c.drainedIds) ∧ (c.step t).Honest turns

instance decidableHonest (c : Course d) : (turns : List Turn) → Decidable (c.Honest turns)
  | [] => isTrue trivial
  | t :: turns =>
    haveI := decidableHonest (c.step t) turns
    inferInstanceAs (Decidable (_ ∧ _))

/-- The host has drained the request `id` and has not delivered it since. -/
def InHand (c : Course d) (id : FrameId) : Prop :=
  ∃ before ids after, c.past = before ++ .drained ids :: after ∧ id ∈ ids ∧
    ∀ e ∈ after, e.delivers id = false

/-- Where the frame token is, and that ids are never made again. -/
structure Conserves (c : Course d) : Prop where
  ready : c.view.Ready
  idle : c.view.session = none → c.host.queue.outstanding = []
  live : ∀ s, c.view.session = some s → ∃ p m id, s.Live p m id ∧
    (c.host.queue.outstanding = [id] ∨ c.host.queue.outstanding = [] ∧ c.InHand id)
  issued : ∀ id, id ∈ c.drainedIds ∨ id ∈ c.host.queue.outstanding → id.raw ≤ c.host.queue.issued
  unseen : ∀ id ∈ c.host.queue.outstanding, id ∉ c.drainedIds

/-! ## What a turn adds to the past -/

@[simp] theorem drainedIds_perform (op : Operation) :
    (c.perform op).drainedIds = c.drainedIds := by
  simp [drainedIds, perform, Event.drainedIds]

@[simp] theorem drainedIds_drain :
    c.drain.drainedIds = c.drainedIds ++ c.host.queue.outstanding := by
  simp [drainedIds, drain, Event.drainedIds, CallbackQueue.drain]

/-- A request stays in the host's hand until it is delivered. -/
theorem InHand.perform {id : FrameId} (h : c.InHand id) {op : Operation}
    (hop : ∀ now, op ≠ .frame id now) : (c.perform op).InHand id := by
  obtain ⟨before, ids, after, hp, hid, ha⟩ := h
  refine ⟨before, ids, after ++ [.performed op (c.outcome op).value.1 (c.outcome op).log
    (c.chargesOf op)], ?_, hid, ?_⟩
  · simp [Course.perform, hp]
  · intro e he
    rw [List.mem_append, List.mem_singleton] at he
    rcases he with he | rfl
    · exact ha e he
    · cases op with
      | frame id' now =>
        have hne : id' ≠ id := fun h => hop now (h ▸ rfl)
        simp [Event.delivers, hne]
      | _ => rfl

theorem InHand.drain {id : FrameId} (h : c.InHand id) : c.drain.InHand id := by
  obtain ⟨before, ids, after, hp, hid, ha⟩ := h
  refine ⟨before, ids, after ++ [.drained c.host.queue.outstanding], ?_, hid, ?_⟩
  · simp [Course.drain, CallbackQueue.drain, hp]
  · intro e he
    rw [List.mem_append, List.mem_singleton] at he
    rcases he with he | rfl
    · exact ha e he
    · rfl

/-- What the host drains is in its hand. -/
theorem inHand_drain {id : FrameId} (h : id ∈ c.host.queue.outstanding) : c.drain.InHand id :=
  ⟨c.past, c.host.queue.outstanding, [], rfl, h, fun _ he => absurd he List.not_mem_nil⟩

/-! ## The invariant -/

theorem conserves_start (device : d.State) (hasContext : Bool) (display : PixelSize)
    (parameters : Parameters) :
    (start device (.onCanvas hasContext display parameters)).Conserves where
  ready := View.ready_of_none rfl
  idle _ := rfl
  live s hs := by cases hs
  issued id h := by simp [start, drainedIds] at h
  unseen id h := by simp [start] at h

/-- Without the request of its session a view has none. -/
theorem Conserves.outstanding_revoked (h : c.Conserves) :
    (c.view.revoked c.host.queue).outstanding = [] := by
  unfold View.revoked
  cases hs : c.view.session with
  | none => exact h.idle hs
  | some s =>
    obtain ⟨p, m, id, hl, hq⟩ := h.live s hs
    rw [Option.bind_some, hl.awaited]
    rcases hq with hq | ⟨hq, -⟩ <;> simp [CallbackQueue.cancel, hq]

theorem Conserves.drain (h : c.Conserves) : c.drain.Conserves where
  ready := h.ready
  idle _ := rfl
  live s hs := by
    obtain ⟨p, m, id, hl, hq⟩ := h.live s hs
    refine ⟨p, m, id, hl, .inr ⟨rfl, ?_⟩⟩
    rcases hq with hq | ⟨-, hq⟩
    · exact inHand_drain (by simp [hq])
    · exact hq.drain
  issued id hid := by
    rw [drainedIds_drain, List.mem_append] at hid
    rcases hid with hid | hid
    · exact h.issued id hid
    · cases hid
  unseen id hid := by cases hid

/-- After a request to a queue without others that request is the token. -/
theorem Conserves.request (h : c.Conserves) {q : CallbackQueue}
    (hi : q.issued = c.host.queue.issued) (ho : q.outstanding = []) {c' : Course d}
    (hd : c'.drainedIds = c.drainedIds) (hq : c'.host.queue = q.request.2) (hr : c'.view.Ready)
    {s : Session} {p : Program} {m : PlacedMesh} (hs : c'.view.session = some s)
    (hl : s.Live p m q.request.1) :
    c'.Conserves where
  ready := hr
  idle hn := by simp [hs] at hn
  live s' hs' := by
    rw [hs, Option.some_inj] at hs'
    refine ⟨p, m, _, hs' ▸ hl, .inl ?_⟩
    rw [hq]
    simp [CallbackQueue.request, ho]
  issued id hid := by
    rw [hd, hq, CallbackQueue.mem_request, ho] at hid
    rw [hq, CallbackQueue.request_issued]
    rcases hid with hid | hid | rfl
    · have hle := h.issued id (.inl hid)
      rw [CallbackQueue.raw_request]
      omega
    · cases hid
    · exact Nat.le_refl _
  unseen id hid hid' := by
    rw [hd] at hid'
    have hle := h.issued id (.inl hid')
    rw [hq, CallbackQueue.mem_request, ho] at hid
    rcases hid with hid | rfl
    · cases hid
    · rw [CallbackQueue.raw_request] at hle
      omega

theorem Conserves.perform (h : c.Conserves) {op : Operation}
    (ho : ∀ id ∈ (Turn.perform op).delivered, id ∈ c.drainedIds) : (c.perform op).Conserves := by
  have hr : (c.perform op).view.Ready := ready_step h.ready (.perform op)
  have hd := drainedIds_perform (c := c) op
  cases perform_deals h.ready.sound op with
  | stays _ hs hq hf =>
    refine ⟨hr, ?_, ?_, ?_, ?_⟩
    · rw [hs, hq]
      exact h.idle
    · intro s hs'
      rw [hs] at hs'
      obtain ⟨p, m, id, hl, hq'⟩ := h.live s hs'
      refine ⟨p, m, id, hl, ?_⟩
      rw [hq]
      refine hq'.imp_right (And.imp_right fun hi => hi.perform ?_)
      rintro now rfl
      exact hf id now rfl s hs' (h.ready.hasContext (by simp [hs'])) hl.awaited
    · rw [hd, hq]
      exact h.issued
    · rw [hd, hq]
      exact h.unseen
  | ends _ hs hq =>
    refine ⟨hr, ?_, ?_, ?_, ?_⟩
    · rw [hq]
      exact fun _ => h.outstanding_revoked
    · simp [hs]
    · rw [hd, hq, h.outstanding_revoked, View.issued_revoked]
      rintro id (hid | hid)
      · exact h.issued id (.inl hid)
      · cases hid
    · rw [hq, h.outstanding_revoked]
      simp
  | begins _ _ s p m hs hl hq =>
    exact h.request (View.issued_revoked _ _) h.outstanding_revoked hd hq hr hs hl
  | draws id now hop s p m hs hl hs' hq =>
    -- An honest host has drained `id`, so it is not outstanding any more.
    subst hop
    have hdrained : c.host.queue.outstanding = [] := by
      obtain ⟨p', m', id', hl', hq' | ⟨hq', -⟩⟩ := h.live s hs
      · have hid : id' = id := by
          have := hl'.awaited.symm.trans hl.awaited
          simpa using this
        exact absurd (ho id rfl) (h.unseen id (by simp [hq', hid]))
      · exact hq'
    exact h.request rfl hdrained hd hq hr hs' (hl.advanced _)

/-- **Every turn of an honest host keeps the token.** -/
theorem conserves_step (h : c.Conserves) {t : Turn} (ht : ∀ id ∈ t.delivered, id ∈ c.drainedIds) :
    (c.step t).Conserves := by
  cases t with
  | perform op => exact h.perform ht
  | drain => exact h.drain

theorem conserves_run (h : c.Conserves) {turns : List Turn} (ht : c.Honest turns) :
    (c.run turns).Conserves := by
  induction turns generalizing c with
  | nil => exact h
  | cons t turns ih => exact ih (conserves_step h ht.1) ht.2

/-- **Conservation of the frame token.** After every course of an honest host, on any device, the
queue holds at most one request; it holds none if no session is live; and a live session waits for
a request that is the one outstanding, or that the host has drained and not delivered since. -/
theorem frame_token_conserved (device : d.State) (hasContext : Bool) (display : PixelSize)
    (parameters : Parameters) (turns : List Turn)
    (h : (start device (.onCanvas hasContext display parameters)).Honest turns) :
    let c := (start device (.onCanvas hasContext display parameters)).run turns
    c.host.queue.pending ≤ 1 ∧
      (c.view.session = none → c.host.queue.hasPending = false) ∧
      ∀ s, c.view.session = some s → s.phase = .rendering ∧
        ∃ p, s.awaited = some p ∧
          (c.host.queue.outstanding = [p] ∨ c.host.queue.outstanding = [] ∧ c.InHand p) := by
  intro c
  have hc : c.Conserves := conserves_run (conserves_start device hasContext display parameters) h
  refine ⟨?_, ?_, ?_⟩
  · cases hs : c.view.session with
    | none => simp [CallbackQueue.pending, hc.idle hs]
    | some s =>
      obtain ⟨p, m, id, -, hq | ⟨hq, -⟩⟩ := hc.live s hs <;> simp [CallbackQueue.pending, hq]
  · intro hs
    simp [CallbackQueue.hasPending, hc.idle hs]
  · intro s hs
    obtain ⟨p, m, id, hl, hq⟩ := hc.live s hs
    exact ⟨hl.phase, id, hl.awaited, hq⟩

/-- The token goes round while a callback is drained once and delivered twice. -/
theorem frame_token_conserved_twice :
    Scripted.course.Honest Scripted.turns ∧
      (Scripted.course.run Scripted.turns).host.queue.outstanding = [⟨2⟩] ∧
      (Scripted.course.run Scripted.turns).host.queue.pending ≤ 1 := by
  have h : Scripted.course.Honest Scripted.turns := by decide +kernel
  have ht := frame_token_conserved (d := Scripted.device) ({} : Objects) true ⟨4, 4⟩ {} _ h
  exact ⟨h, by decide +kernel, ht.1⟩

end Course

end LiveShader
