import LiveShader.Proofs.Queue

/-!
# No stale or repeated frames

Callbacks may arrive at any time and in any order, also ones that were revoked, delivered before,
or never asked for. Still a frame is drawn only for the callback that the live session asked for
last. Here the host may do what it likes, and the canvas may lose its context and get it back
between any two turns (`Incident`).

* `tally` counts draws and keeps the last request; `drawing` follows the scene and owes that a draw
  uses only what was created since the start.
* `Fresh` is the invariant: the awaited callback is the last request of the live session, and was
  never drawn for.

Results:
* `View.perform_drawing`: an operation draws only with what was created since, if it retires the
  live session or that session was created since.
* `no_stale_frames`: draws and callbacks in every history.
-/

namespace LiveShader

open Engine

/-! ## Counting draws -/

/-- How many draws there were, and the last frame request. -/
structure Tally where
  draws : Nat := 0
  last : Option FrameId := none
  deriving DecidableEq, Repr

/-- The tally through a log. -/
def tally : Contract (Action.Reply Request.Reply) Tally where
  next t e :=
    { draws := t.draws + if e.question.isDraw then 1 else 0
      last := match e with
        | ⟨.requestFrame, id⟩ => some id
        | _ => t.last }

/-- The last frame request in a log. -/
def Log.lastRequest (log : Log) : Option FrameId :=
  (tally.after {} log).last

/-- How many draws there are in a log. -/
def Log.draws (log : Log) : Nat :=
  log.countP fun e => e.question.isDraw

theorem tally_draws (t : Tally) (log : Log) :
    (tally.after t log).draws = t.draws + Log.draws log := by
  induction log generalizing t with
  | nil => rfl
  | cons e log ih =>
    have hn : (tally.next t e).draws = t.draws + if e.question.isDraw then 1 else 0 := rfl
    rw [Contract.after_cons, ih, hn, Log.draws, Log.draws, List.countP_cons]
    omega

theorem tally_indifferent : tally.Indifferent := by
  rintro t ⟨a, r⟩ hd hs
  have hl : (tally.next t ⟨a, r⟩).last = t.last := by
    cases a with
    | requestFrame => cases hs
    | _ => rfl
  have hn : (tally.next t ⟨a, r⟩).draws = t.draws := by simp only [tally, hd]; rfl
  generalize tally.next t ⟨a, r⟩ = t' at hl hn
  cases t'
  cases t
  exact ⟨by simp_all, trivial⟩

namespace View

variable {v : View} {t : Tally}

theorem retire_tally (hv : v.Sound) :
    v.retire.Meets tally t fun v' t' => v' = v.retired ∧ t' = t := by
  refine retire_meets tally_indifferent.ignoresNotes hv (fun _ => ⟨rfl, rfl⟩) ?_ ?_
  · intro s p m id _ _ _
    cases hm : m.indices <;> simp [tally, Build.deleteProgram, PlacedMesh.delete, hm]
  · intro s p m id _ _ _
    simp [tally]

/-- A change that is taken up draws nothing, and its session awaits what it asked for last. -/
theorem takeUp_tally (hv : v.session = none) (change : Change) (now : Nat) :
    (v.takeUp change now).Meets tally t fun a t' => t'.draws = t.draws ∧
      ∀ s, a.2.session = some s → t'.last = s.awaited := by
  have hidle : ∀ (r : Except Failure Unit) (v' : View), v'.Resembles v → t.draws = t.draws ∧
      ∀ s, v'.session = some s → t.last = s.awaited := by
    intro r v' hv'
    refine ⟨rfl, fun s hs => ?_⟩
    rw [hv'.session, hv] at hs
    cases hs
  refine takeUp_meets tally_indifferent.ignoresNotes hidle
    (launches_of_indifferent tally_indifferent hidle ?_)
  intro _ s p m hl
  rw [hl.start_eq]
  simp only [tally, PlacedMesh.select, Plan.meets_bind, meets_gpu, meets_requestFrame, meets_note,
    Plan.meets_pure, true_and, forall_const]
  intro _ _ id v' hs _
  refine ⟨rfl, fun s' hs' => ?_⟩
  rw [hs, Option.some_inj] at hs'
  rw [← hs']
  rfl

/-- A frame that is not ignored draws once and asks for the next. -/
theorem frame_tally (hv : v.Sound) (id : FrameId) (now : Nat) :
    (v.frame id now).Meets tally t fun a t' => a.2.session = v.session ∧ t' = t ∨
      v.canvas.hasContext = true ∧ ∃ s s', v.session = some s ∧ s.awaited = some id ∧
        a.2.session = some s' ∧ t' = ⟨t.draws + 1, s'.awaited⟩ := by
  refine frame_meets tally_indifferent.ignoresNotes tally_indifferent.ignoresFeeds hv
    (fun _ => .inl ⟨rfl, rfl⟩) ?_
  intro s p m hs hc hl color
  cases hi : s.mesh.isIndexed <;>
    simp [tally, PlacedMesh.select, Session.draw, Session.advanced, hi, hs, hc, hl.awaited]

/-- An operation draws only in a frame for the awaited callback, and then once. -/
theorem perform_draws (hv : v.Sound) (op : Operation) :
    (v.perform op).Meets tally t fun _ t' => t'.draws = t.draws ∨
      ∃ id now s, op = .frame id now ∧ v.canvas.hasContext = true ∧ v.session = some s ∧
        s.awaited = some id ∧ t'.draws = t.draws + 1 := by
  refine perform_meets tally_indifferent.ignoresNotes (fun _ _ _ _ _ => .inl rfl) ?_ ?_ ?_
  · intro _
    refine (retire_tally hv).mono ?_
    rintro _ _ ⟨rfl, rfl⟩ change now
    exact (takeUp_tally v.session_retired change now).mono fun _ _ h => .inl h.1
  · rintro -
    refine (retire_tally hv).mono ?_
    rintro _ _ ⟨rfl, rfl⟩ _ _
    exact .inl rfl
  · rintro id now rfl
    refine (frame_tally hv id now).mono ?_
    rintro a t' (⟨-, rfl⟩ | ⟨hc, s, s', hs, ha, -, rfl⟩)
    · exact .inl rfl
    · exact .inr ⟨id, now, s, rfl, hc, hs, ha, rfl⟩

/-- The last request is the awaited one, also after an operation that leaves the session alone. -/
theorem perform_last (hv : v.Sound) {op : Operation} (hop : op.retires v = false)
    (ht : ∀ s, v.session = some s → t.last = s.awaited) :
    (v.perform op).Meets tally t fun a t' => ∀ s, a.2.session = some s → t'.last = s.awaited := by
  refine perform_meets tally_indifferent.ignoresNotes ?_ ?_ ?_ ?_
  · intro _ _ r v' hv' s hs
    exact ht s (hv'.session ▸ hs)
  · intro h
    simp [Operation.retires_of_renews h] at hop
  · rintro rfl
    cases hop
  · rintro id now rfl
    refine (frame_tally hv id now).mono ?_
    rintro a t' (⟨hs, rfl⟩ | ⟨-, s, s', hs, ha, hs', rfl⟩) s'' hs''
    · exact ht s'' (hs ▸ hs'')
    · rw [hs', Option.some_inj] at hs''
      rw [← hs'']

end View

/-! ## What is drawn -/

/-- A draw would use a program and a vertex array that were created since the start. -/
def Scene.Current (s : Scene) : Prop :=
  (∃ p ∈ s.programs, s.current = some p) ∧ ∃ a ∈ s.arrays, s.bound = some a

/-- The scene through a log, in which every draw is to use what was created in the log. -/
def drawing : Contract (Action.Reply Request.Reply) Scene where
  next := Scene.next
  owed s e := e.question.isDraw = true → s.Current

theorem drawing_ignoresNotes : drawing.IgnoresNotes :=
  fun _ _ _ => ⟨rfl, fun h => by cases h⟩

theorem drawing_ignoresFeeds : drawing.IgnoresFeeds := by
  rintro s ⟨a, r⟩ he
  refine ⟨?_, fun hd => ?_⟩
  · cases a with
    | gpu q => cases q <;> first | rfl | cases he
    | _ => cases he
  · simp [(Action.quiet_of_isFeed he).1] at hd

namespace View

variable {v : View} {s : Scene}

/-- The session that is live holds a program and a vertex array that were created since the
start. -/
def Shows (v : View) (s : Scene) : Prop :=
  ∀ session, v.session = some session →
    ∃ p m id, session.Live p m id ∧ p ∈ s.programs ∧ m.array ∈ s.arrays

theorem shows_of_none (h : v.session = none) : v.Shows s := by
  intro session hs
  rw [h] at hs
  cases hs

theorem Shows.sound (h : v.Shows s) : v.Sound := by
  intro session hs
  obtain ⟨p, m, id, hl, -⟩ := h session hs
  exact ⟨p, m, id, hl⟩

theorem shows_of_some {session : Session} {p : Program} {m : PlacedMesh} {id : FrameId}
    (hs : v.session = some session) (hl : session.Live p m id) (hp : p ∈ s.programs)
    (ha : m.array ∈ s.arrays) : v.Shows s := by
  intro session' hs'
  rw [hs, Option.some_inj] at hs'
  exact ⟨p, m, id, hs' ▸ hl, hp, ha⟩

theorem Resembles.shows {v' : View} (h : v'.Resembles v) (hv : v.Shows s) : v'.Shows s := by
  intro session hs
  rw [h.session] at hs
  exact hv session hs

theorem retire_drawing (hv : v.Sound) :
    v.retire.Meets drawing s fun v' _ => v' = v.retired := by
  refine retire_meets drawing_ignoresNotes hv (fun _ => rfl) ?_ ?_
  · intro s p m id _ _ _
    cases hm : m.indices <;> simp [drawing, Build.deleteProgram, PlacedMesh.delete, hm]
  · intro s p m id _ _ _
    simp [drawing]

theorem takeUp_drawing (hv : v.session = none) (change : Change) (now : Nat) :
    (v.takeUp change now).Meets drawing s fun a s' => a.2.Shows s' := by
  refine takeUp_meets drawing_ignoresNotes
    (fun r v' hv' => shows_of_none (hv'.session.trans hv)) ?_
  intro _ width height stages parameters
  rw [Plan.meets_bind, meets_gpu]
  refine fun _ _ => ⟨(by simp [drawing]), ?_⟩
  have hb := (Session.prepare_building (s := s) stages parameters).mono
    fun _ _ h session hs => (h session hs).1
  have hd : (Session.prepare stages parameters).Meets drawing s fun r s' =>
      ∀ session, r = .ok session → session.Fresh s' :=
    hb.of_owed rfl (fun _ _ => trivial) fun _ e he hd => by simp [he.1] at hd
  refine hd.mono fun r s hr => ?_
  cases r with
  | error e => exact fun v' hv' => shows_of_none (hv'.session.trans hv)
  | ok session =>
    obtain ⟨p, m, hl, hp, ha⟩ := hr session rfl
    dsimp only
    rw [hl.start_eq]
    simp only [drawing, Scene.next, PlacedMesh.select, Plan.meets_bind, meets_gpu,
      meets_requestFrame, meets_note, Plan.meets_pure, forall_const, Action.isDraw_gpu,
      Request.isDraw, Action.isDraw_note, Action.isDraw_requestFrame, Bool.false_eq_true,
      false_implies, true_and]
    exact fun _ v' hs _ => shows_of_some hs (hl.live now _) hp ha

theorem frame_drawing (hv : v.Shows s) (id : FrameId) (now : Nat) :
    (v.frame id now).Meets drawing s fun a s' => a.2.Shows s' := by
  refine frame_meets drawing_ignoresNotes drawing_ignoresFeeds hv.sound (fun _ => hv) ?_
  intro session p m hs _ hl color
  obtain ⟨p', m', id', hl', hp, ha⟩ := hv session hs
  obtain ⟨rfl, rfl⟩ := hl.unique hl'.toHolds
  have hc : Scene.Current { s with current := some p', bound := some m'.array } :=
    ⟨⟨p', hp, rfl⟩, m'.array, ha, rfl⟩
  have hs' : ∀ next, View.Shows { v with session := some (session.advanced next) }
      { s with current := some p', bound := some m'.array } :=
    fun next => shows_of_some rfl (hl.advanced next) hp ha
  cases hi : session.mesh.isIndexed <;>
    simpa [drawing, Scene.next, PlacedMesh.select, Session.draw, hi] using ⟨hc, hs'⟩

/-- **An operation draws only with what was created since**, if it retires the live session or if
that session was created since. -/
theorem perform_drawing (hv : v.Sound) {op : Operation} (h : op.retires v = true ∨ v.Shows s) :
    (v.perform op).Meets drawing s fun a s' => a.2.Shows s' := by
  refine perform_meets drawing_ignoresNotes ?_ ?_ ?_ ?_
  · intro hop _ r v' hv'
    rw [hop] at h
    exact hv'.shows (h.resolve_left Bool.false_ne_true)
  · intro _
    refine (retire_drawing hv).mono ?_
    rintro _ s rfl change now
    exact takeUp_drawing v.session_retired change now
  · rintro -
    refine (retire_drawing hv).mono ?_
    rintro _ s rfl v' hv'
    exact shows_of_none (hv'.session.trans v.session_retired)
  · rintro id now rfl
    exact frame_drawing (h.resolve_left Bool.false_ne_true) id now

end View

/-! ## Histories -/

/-- What may happen: the host takes a turn, or the canvas loses its context or gets it back. -/
inductive Incident where
  | turn (t : Turn)
  | context (lost : Bool)
  deriving DecidableEq, Repr

/-- The part of charges that is for one change. -/
def Charges.of (charges : Charges) (number : Nat) : Log :=
  charges.filterMap fun x => if x.1 = number then some x.2 else none

@[simp] theorem Charges.of_append (charges charges' : Charges) (number : Nat) :
    Charges.of (charges ++ charges') number =
      Charges.of charges number ++ Charges.of charges' number :=
  List.filterMap_append

@[simp] theorem Charges.of_map (log : Log) (number : Nat) :
    Charges.of (log.map (number, ·)) number = log := by
  unfold Charges.of
  rw [List.filterMap_map]
  have hf : (fun x => if x.1 = number then some x.2 else none) ∘ (number, ·) =
      @some (Exchange (Action.Reply Request.Reply)) := by
    funext e
    exact if_pos rfl
  rw [hf]
  exact List.filterMap_some

theorem Charges.of_eq_nil {charges : Charges} {number : Nat} (h : ∀ x ∈ charges, x.1 ≠ number) :
    Charges.of charges number = [] := by
  unfold Charges.of
  rw [List.filterMap_eq_nil_iff]
  exact fun x hx => if_neg (h x hx)

/-- The callbacks in which draws were made, one for each draw. -/
def Event.drawnIds : Event → List FrameId
  | .performed (.frame id _) _ log _ => List.replicate (Log.draws log) id
  | _ => []

namespace Course

variable {d : Device} {c : Course d}

/-- The canvas loses its context or gets it back. -/
def setLost (c : Course d) (lost : Bool) : Course d :=
  { c with view := { c.view with canvas := { c.view.canvas with lost } } }

/-- What comes of an incident. -/
def next (c : Course d) : Incident → Course d
  | .turn t => c.step t
  | .context lost => c.setLost lost

/-- What comes of one incident after the other. -/
def history (c : Course d) (incidents : List Incident) : Course d :=
  incidents.foldl next c

/-- The callbacks in which draws were made so far, one for each draw. -/
def drawnIds (c : Course d) : List FrameId :=
  c.past.flatMap Event.drawnIds

/-- What was last requested for the live session, or for the one that was live last. -/
def lastRequest (c : Course d) : Option FrameId :=
  Log.lastRequest (Charges.of c.charges c.owner)

/-- What every incident keeps is so after every history. -/
theorem history_induction {P : Course d → Prop} (h : P c) (hnext : ∀ c i, P c → P (c.next i))
    (incidents : List Incident) : P (c.history incidents) := by
  induction incidents generalizing c with
  | nil => exact h
  | cons i incidents ih => exact ih (hnext c i h)

/-- An operation draws only in a frame for the awaited callback, and then once. -/
theorem draws_outcome (h : c.view.Sound) (op : Operation) :
    Log.draws (c.outcome op).log = 0 ∨
      ∃ id now s, op = .frame id now ∧ c.view.canvas.hasContext = true ∧
        c.view.session = some s ∧ s.awaited = some id ∧ Log.draws (c.outcome op).log = 1 := by
  have hd := ((View.perform_draws (t := {}) h op).run_free (fun _ _ => trivial) d.host c.host).2
  simp only [tally_draws, Nat.zero_add] at hd
  exact hd

/-- The awaited callback is the last request of the live session, and no draw was made for it. -/
structure Fresh (c : Course d) : Prop where
  sound : c.view.Sound
  numbered : c.Numbered
  requested : ∀ s, c.view.session = some s → c.lastRequest = s.awaited
  undrawn : ∀ s id, c.view.session = some s → s.awaited = some id →
    id.raw ≤ c.host.queue.issued ∧ id ∉ c.drawnIds
  issued : ∀ id ∈ c.drawnIds, id.raw ≤ c.host.queue.issued
  nodup : c.drawnIds.Nodup

theorem fresh_start (device : d.State) {v : View} (h : v.session = none) :
    (start device v).Fresh where
  sound := View.sound_of_none h
  numbered := numbered_start device h
  requested s hs := by simp [start, h] at hs
  undrawn s id hs := by simp [start, h] at hs
  issued id hid := by cases hid
  nodup := List.nodup_nil

theorem drawnIds_perform (op : Operation) :
    (c.perform op).drawnIds = c.drawnIds ++ Event.drawnIds
      (.performed op (c.outcome op).value.1 (c.outcome op).log (c.chargesOf op)) := by
  simp [drawnIds, perform]

/-- An operation that does not draw adds nothing to what was drawn. -/
theorem drawnIds_of_no_draw {op : Operation} (h : Log.draws (c.outcome op).log = 0) :
    (c.perform op).drawnIds = c.drawnIds := by
  rw [drawnIds_perform]
  cases op <;> simp [Event.drawnIds, h]

/-- What an operation that leaves the session alone does is charged to the owner. -/
theorem of_chargesOf_owner {op : Operation} (h : op.retires c.view = false) :
    Charges.of (c.chargesOf op) c.owner = (c.outcome op).log := by
  cases hop : op.change with
  | none => rw [chargesOf_of_no_change hop, Charges.of_map]
  | some change =>
    obtain ⟨change, now⟩ := change
    cases hr : c.view.isRedundant change with
    | true =>
      obtain ⟨ho, hc⟩ := c.redundant_outcome hop hr
      rw [ho, hc]
      rfl
    | false =>
      rw [Operation.retires_of_renews (Operation.renews_of_not_redundant hop hr)] at h
      cases h

theorem Fresh.requested_of_stays (h : c.Fresh) {op : Operation} (hop : op.retires c.view = false) :
    ∀ s, (c.perform op).view.session = some s → (c.perform op).lastRequest = s.awaited := by
  unfold lastRequest
  rw [owner_of_not_retires hop, charges_perform, Charges.of_append, of_chargesOf_owner hop,
    Log.lastRequest, Contract.after_append]
  exact ((View.perform_last h.sound hop h.requested).run_free (fun _ _ => trivial)
    d.host c.host).2

/-- Retiring a session is not done for the change that is taken up next. -/
theorem Fresh.of_retire (h : c.Fresh) :
    Charges.of ((c.view.retire.run d.host c.host).log.map (c.owner, ·)) c.past.length = [] := by
  cases hs : c.view.session with
  | none =>
    rw [View.retire_of_none hs]
    rfl
  | some s =>
    refine Charges.of_eq_nil fun x hx => ?_
    rw [List.mem_map] at hx
    obtain ⟨e, -, rfl⟩ := hx
    exact Nat.ne_of_lt (h.numbered.live (by simp [hs]))

theorem Fresh.requested_of_begins (h : c.Fresh) {op : Operation} (hop : op.renews c.view = true) :
    ∀ s, (c.perform op).view.session = some s → (c.perform op).lastRequest = s.awaited := by
  intro s hs
  have ho : (c.perform op).owner = c.past.length := owner_of_renews hop (by simp [hs])
  cases hch : op.change with
  | none =>
    rw [Operation.renews_of_no_change hch] at hop
    cases hop
  | some change =>
    obtain ⟨change, now⟩ := change
    have hr : c.view.isRedundant change = false := by simpa [Operation.renews, hch] using hop
    obtain ⟨hout, hchs⟩ := c.change_outcome hch hr
    have hold : Charges.of c.charges c.past.length = [] :=
      Charges.of_eq_nil fun x hx => Nat.ne_of_lt (h.numbered.charges x hx)
    have hret := h.of_retire
    have hv := (View.retire_queueing (q := c.host.queue) h.sound).queue.1
    have hl := ((View.takeUp_tally (t := {}) (hv ▸ c.view.session_retired) change now).run_free
      (fun _ _ => trivial) d.host (c.view.retire.run d.host c.host).state).2.2
    have hview : (c.perform op).view = (c.outcome op).value.2 := rfl
    rw [hview, hout] at hs
    rw [lastRequest, ho, charges_perform, hchs, Charges.of_append, Charges.of_append,
      Charges.of_map, hold, hret, List.nil_append, List.nil_append]
    exact hl s hs

/-- An operation draws for no callback, or once for the awaited one. -/
theorem drawnIds_cases (h : c.view.Sound) (op : Operation) :
    (c.perform op).drawnIds = c.drawnIds ∨
      ∃ id now s, op = .frame id now ∧ c.view.canvas.hasContext = true ∧
        c.view.session = some s ∧ s.awaited = some id ∧
        (c.perform op).drawnIds = c.drawnIds ++ [id] := by
  rcases draws_outcome h op with hd | ⟨id, now, s, rfl, hc, hs, ha, hd⟩
  · exact .inl (drawnIds_of_no_draw hd)
  · exact .inr ⟨id, now, s, rfl, hc, hs, ha, by simp [drawnIds_perform, Event.drawnIds, hd]⟩

theorem drawnIds_of_retires (h : c.view.Sound) {op : Operation} (hop : op.retires c.view = true) :
    (c.perform op).drawnIds = c.drawnIds := by
  rcases drawnIds_cases h op with hd | ⟨id, now, s, rfl, -⟩
  · exact hd
  · cases hop

/-- A request that was made last is greater than all that was drawn for. -/
theorem fresh_request (hsound : c.view.Sound) (hnumbered : c.Numbered)
    (hrequested : ∀ s, c.view.session = some s → c.lastRequest = s.awaited) {q : CallbackQueue}
    (hq : c.host.queue = q.request.2) (hissued : ∀ id ∈ c.drawnIds, id.raw ≤ q.issued)
    (hnodup : c.drawnIds.Nodup) {s : Session} (hs : c.view.session = some s)
    (ha : s.awaited = some q.request.1) : c.Fresh where
  sound := hsound
  numbered := hnumbered
  requested := hrequested
  undrawn s' id hs' ha' := by
    rw [hs, Option.some_inj] at hs'
    rw [← hs', ha, Option.some_inj] at ha'
    rw [← ha', hq, CallbackQueue.request_issued]
    refine ⟨Nat.le_refl _, fun hid => ?_⟩
    have hle := hissued _ hid
    rw [CallbackQueue.raw_request] at hle
    omega
  issued id hid := by
    have hle := hissued id hid
    rw [hq, CallbackQueue.request_issued, CallbackQueue.raw_request]
    omega
  nodup := hnodup

theorem Fresh.perform (h : c.Fresh) (op : Operation) : (c.perform op).Fresh := by
  have hn := h.numbered.perform op
  have hs := (perform_deals h.sound op).sound h.sound
  cases perform_deals h.sound op with
  | stays hop hs' hq hf =>
    have hd : (c.perform op).drawnIds = c.drawnIds := by
      rcases drawnIds_cases h.sound op with hd | ⟨id, now, s, rfl, hc, hs, ha, -⟩
      · exact hd
      · exact absurd ha (hf id now rfl s hs hc)
    refine ⟨hs, hn, h.requested_of_stays hop, ?_, ?_, ?_⟩
    · rw [hs', hq, hd]
      exact h.undrawn
    · rw [hq, hd]
      exact h.issued
    · rw [hd]
      exact h.nodup
  | ends hop hs' hq =>
    have hd := drawnIds_of_retires h.sound hop
    refine ⟨hs, hn, ?_, ?_, ?_, ?_⟩
    · simp [hs']
    · simp [hs']
    · rw [hq, View.issued_revoked, hd]
      exact h.issued
    · rw [hd]
      exact h.nodup
  | begins hop _ s p m hs' hl hq =>
    have hd := drawnIds_of_retires h.sound (Operation.retires_of_renews hop)
    refine fresh_request hs hn (h.requested_of_begins hop) hq ?_ ?_ hs' hl.awaited
    · rw [hd, View.issued_revoked]
      exact h.issued
    · rw [hd]
      exact h.nodup
  | draws id now hop s p m hs' hl hs'' hq =>
    subst hop
    obtain ⟨hle, hnew⟩ := h.undrawn s id hs' hl.awaited
    have hids : (c.perform (.frame id now)).drawnIds = c.drawnIds ∨
        (c.perform (.frame id now)).drawnIds = c.drawnIds ++ [id] := by
      rcases drawnIds_cases h.sound (.frame id now) with hd | ⟨_, _, _, ⟨⟩, -, -, -, hd⟩
      · exact .inl hd
      · exact .inr hd
    refine fresh_request hs hn (h.requested_of_stays rfl) hq ?_ ?_ hs'' rfl
    · intro id' hid
      rcases hids with hids | hids
      · exact h.issued id' (hids ▸ hid)
      · rw [hids, List.mem_append, List.mem_singleton] at hid
        rcases hid with hid | rfl
        · exact h.issued id' hid
        · exact hle
    · rcases hids with hids | hids
      · rw [hids]
        exact h.nodup
      · rw [hids, List.nodup_append]
        refine ⟨h.nodup, (by simp), fun a ha b hb hab => ?_⟩
        rw [List.mem_singleton] at hb
        subst hb
        exact hnew (hab ▸ ha)

@[simp] theorem drawnIds_drain : c.drain.drawnIds = c.drawnIds := by
  simp [drawnIds, drain, Event.drawnIds]

theorem Fresh.drain (h : c.Fresh) : c.drain.Fresh where
  sound := h.sound
  numbered := h.numbered.drain
  requested s hs := by
    rw [lastRequest, charges_drain]
    exact h.requested s hs
  undrawn s id hs ha := by
    rw [drawnIds_drain]
    exact h.undrawn s id hs ha
  issued id hid := by
    rw [drawnIds_drain] at hid
    exact h.issued id hid
  nodup := by
    rw [drawnIds_drain]
    exact h.nodup

theorem Fresh.next (h : c.Fresh) (i : Incident) : (c.next i).Fresh := by
  rcases i with (op | _) | lost
  · exact h.perform op
  · exact h.drain
  · exact ⟨h.sound, ⟨h.numbered.charges, h.numbered.owner, h.numbered.live⟩, h.requested, h.undrawn,
      h.issued, h.nodup⟩

/-! ## After a retirement -/

/-- Since the course `c₀` every draw was made with what was created since, and what the live session
holds was created since. -/
def DrawsSince (c₀ c : Course d) : Prop :=
  ∃ log, c.log = c₀.log ++ log ∧ drawing.Owed {} log ∧ c.view.Shows (drawing.after {} log)

theorem drawsSince_perform (h : c.view.Sound) {op : Operation} (hop : op.retires c.view = true) :
    DrawsSince c (c.perform op) := by
  obtain ⟨ho, hs⟩ := (View.perform_drawing (s := {}) h (.inl hop)).run_free (fun _ _ => trivial)
    d.host c.host
  exact ⟨(c.outcome op).log, log_perform c op, ho, hs⟩

theorem DrawsSince.next {c₀ : Course d} (h : DrawsSince c₀ c) (i : Incident) :
    DrawsSince c₀ (c.next i) := by
  obtain ⟨log, hlog, ho, hs⟩ := h
  rcases i with (op | _) | lost
  · obtain ⟨ho', hs'⟩ := (View.perform_drawing hs.sound (.inr hs)).run_free (fun _ _ => trivial)
      d.host c.host
    refine ⟨log ++ (c.outcome op).log, ?_, ?_, ?_⟩
    · rw [← List.append_assoc, ← hlog]
      exact log_perform c op
    · exact drawing.owed_append.mpr ⟨ho, ho'⟩
    · rw [Contract.after_append]
      exact hs'
  · exact ⟨log, (log_drain c).trans hlog, ho, hs⟩
  · exact ⟨log, hlog, ho, hs⟩

/-- **No stale or repeated frames.** In every history of a view, on any device and whatever the
host delivers,

* a draw is made only in a frame for the callback that the live session asked for last;
* no two draws are made for the same callback;
* after an operation that retires the live session every draw uses a program and a vertex array
  that were created since, and so none that the retired session has held. -/
theorem no_stale_frames (device : d.State) (hasContext : Bool) (display : PixelSize)
    (parameters : Parameters) (incidents : List Incident) :
    let c := (start device (.onCanvas hasContext display parameters)).history incidents
    (∀ op, ∀ e ∈ (c.outcome op).log, e.question.isDraw = true →
      ∃ id now s, op = .frame id now ∧ c.view.session = some s ∧ s.awaited = some id ∧
        c.lastRequest = some id) ∧
      c.drawnIds.Nodup ∧
      ∀ op incidents', op.retires c.view = true →
        ∃ log, ((c.perform op).history incidents').log = c.log ++ log ∧ drawing.Owed {} log := by
  intro c
  have hc : c.Fresh := history_induction (P := Fresh) (fresh_start device rfl)
    (fun _ i h => h.next i) incidents
  refine ⟨?_, hc.nodup, ?_⟩
  · intro op e he hdraw
    rcases draws_outcome hc.sound op with hno | ⟨id, now, s, hop, -, hs, ha, -⟩
    · exact absurd hdraw (List.countP_eq_zero.mp hno e he)
    · exact ⟨id, now, s, hop, hs, ha, (hc.requested s hs).trans ha⟩
  · intro op incidents' hop
    obtain ⟨log, hlog, ho, -⟩ := history_induction (P := DrawsSince c)
      (drawsSince_perform hc.sound hop) (fun _ i h => h.next i) incidents'
    exact ⟨log, hlog, ho⟩

end Course

end LiveShader
