import LiveShader.Proofs.Ledger
import LiveShader.Proofs.Preparation
import LiveShader.Proofs.Removal

/-!
# The tenure of a session

Here a session is not kept by a view. Whoever has prepared it may start it, deliver callbacks to it,
revoke the callback that it awaits, and close it, in any order and as often as they like. A `Tenure`
is the session and the host at one moment, with everything that was logged since the session was
prepared.

* A session stands in one of three ways (`Session.Stands`): it is linked, it is rendering, or it is
  closed and has nothing left. `Biography` keeps the moves from phase to phase and the objects that
  were deleted, which tell the three apart.
* A call is idle (`Session.Idles`) if it makes no call of its own and the session stays as it is.

Results:
* `Session.Stands.obey`: what one call makes of a session.
* `Tenure.stands_run`: how a session stands after any calls.
* `tenure_by_calls`: phases, moves and deletions after any calls, and which calls are idle.
-/

namespace LiveShader

open Engine

/-! ## Calls -/

/-- What may be asked of a session. -/
inductive Session.Call where
  | start (now : Nat)
  | frame (id : FrameId) (size : PixelSize) (now : Nat)
  /-- Revoke the awaited callback. -/
  | revoke
  | close
  deriving DecidableEq, Repr

namespace Session

/-- Do what is asked. Says whether a frame was drawn. -/
def obey (s : Session) : Call → Engine (Bool × Session)
  | .start now => do
    let s ← s.start now
    return (false, s)
  | .frame id size now => s.frame id size now
  | .revoke => do
    let s ← s.revoke
    return (false, s)
  | .close => do
    let s ← s.close
    return (false, s)

namespace Call

/-- Whether a call starts a session. -/
def isStart : Call → Bool
  | .start _ => true
  | _ => false

/-- The phase to which a call leads. -/
def leads : Call → Phase → Phase
  | .start _, .linked => .rendering
  | .close, .linked | .close, .rendering => .disposed
  | _, phase => phase

/-- The phase of a session after calls: it is disposed of once it was closed, and is rendering once
it was started. -/
def phaseAfter (calls : List Call) : Phase :=
  if .close ∈ calls then .disposed
  else if calls.any isStart then .rendering
  else .linked

theorem phaseAfter_snoc (calls : List Call) (call : Call) :
    phaseAfter (calls ++ [call]) = call.leads (phaseAfter calls) := by
  unfold phaseAfter
  by_cases hclose : .close ∈ calls
  · cases call <;> simp [hclose, leads]
  · cases hstart : calls.any isStart <;> cases call <;> simp [hclose, hstart, leads, isStart]

theorem phaseAfter_eq_disposed {calls : List Call} :
    phaseAfter calls = .disposed ↔ .close ∈ calls := by
  unfold phaseAfter
  split
  · simp [*]
  · split <;> simp [*]

theorem phaseAfter_ne_linked {calls : List Call} :
    phaseAfter calls ≠ .linked ↔ ∃ call ∈ calls, call.isStart = true ∨ call = .close := by
  have hany : (∃ call ∈ calls, call.isStart = true ∨ call = .close) ↔
      calls.any isStart = true ∨ .close ∈ calls := by
    simp only [and_or_left, exists_or, List.any_eq_true, exists_eq_right]
  rw [hany]
  unfold phaseAfter
  by_cases hclose : .close ∈ calls
  · simp [hclose]
  · cases hstart : calls.any isStart <;> simp [hclose]

end Call

end Session

/-! ## Idle calls -/

/-- The contract of those who only remark on something, but tell of no move. -/
def remarking : Contract (Action.Reply Request.Reply) Unit where
  next _ _ := ()
  owed _ e := ∃ n, e.question = .note n ∧ ∀ before after, n ≠ .moved before after

namespace Session

/-- Nothing comes of a call. -/
def Idles (s : Session) (call : Call) : Prop :=
  (s.obey call).Meets remarking () fun a _ => a = (false, s)

variable {s : Session} {p : Program} {m : PlacedMesh} {id : FrameId}

/-- A session that is not linked does not start. -/
theorem idles_start (h : s.phase ≠ .linked) (now : Nat) : s.Idles (.start now) := by
  unfold Idles obey start
  cases hp : s.phase with
  | linked => exact absurd hp h
  | _ => simp [remarking]

/-- A frame that is not awaited is not drawn. -/
theorem idles_frame (h : s.awaited ≠ some id) (size : PixelSize) (now : Nat) :
    s.Idles (.frame id size now) := by
  simp [Idles, obey, frame, h, remarking]

/-- There is nothing to revoke if nothing is awaited. -/
theorem idles_revoke (h : s.awaited = none) : s.Idles .revoke := by
  simp [Idles, obey, revoke, h]

/-- A session that is closed and has nothing left stays so. -/
theorem idles_of_closed (hholdings : s.holdings = {}) (hphase : s.phase = .disposed)
    (hawaited : s.awaited = none) (call : Call) : s.Idles call := by
  cases call with
  | start now =>
    have hne : s.phase ≠ .linked := by
      rw [hphase]
      decide
    exact idles_start hne now
  | frame id size now =>
    have hne : s.awaited ≠ some id := by
      rw [hawaited]
      simp
    exact idles_frame hne size now
  | revoke => exact idles_revoke hawaited
  | close =>
    have hs : { s with holdings := {}, phase := .disposed, awaited := none } = s := by
      rw [← hholdings, ← hphase, ← hawaited]
    simpa [Idles, obey, close, revoke, hawaited, hholdings, Holdings.giveUp, hphase,
      Phase.isTerminal] using hs

/-- An idle call leaves the host alone. -/
theorem Idles.run {d : Device} {call : Call} (h : s.Idles call) (host : Host d) :
    ((s.obey call).run d.host host).value = (false, s) ∧
      ((s.obey call).run d.host host).state = host ∧
      Log.calls ((s.obey call).run d.host host).log = [] := by
  have hreports : (s.obey call).Meets reporting () fun a _ => a = (false, s) := by
    have h : (s.obey call).Meets remarking () fun a _ => a = (false, s) := h
    refine h.of_owed rfl (fun _ _ => trivial) ?_
    rintro _ ⟨_, _⟩ ⟨n, rfl, -⟩
    rfl
  obtain ⟨hstate, hcalls, hvalue⟩ := hreports.run_reporting host
  exact ⟨hvalue, hstate, hcalls⟩

end Session

/-! ## Moves and deletions -/

/-- The move that an exchange tells of, if any. -/
def movedBy : Exchange (Action.Reply Request.Reply) → List (Phase × Phase)
  | ⟨.note (.moved before after), _⟩ => [(before, after)]
  | _ => []

/-- The moves from phase to phase and the objects deleted so far. -/
structure Biography where
  moves : List (Phase × Phase) := []
  deleted : List Item := []

/-- The biography through a log. -/
def biography : Contract (Action.Reply Request.Reply) Biography where
  next b e := ⟨b.moves ++ movedBy e, b.deleted ++ deletedBy e⟩

variable {b : Biography}

theorem biography_after (b : Biography) (log : Log) :
    biography.after b log =
      ⟨b.moves ++ log.flatMap movedBy, b.deleted ++ log.flatMap deletedBy⟩ := by
  induction log generalizing b with
  | nil => simp
  | cons e log ih =>
    rw [Contract.after_cons, ih]
    simp [biography]

@[simp] theorem biography_owed (e : Exchange (Action.Reply Request.Reply)) :
    biography.owed b e := trivial

section

variable {r : Request} {a : r.Reply} {n : Notice} {id : FrameId}

@[simp] theorem biography_gpu :
    biography.next b ⟨.gpu r, a⟩ = ⟨b.moves, b.deleted ++ r.deleted.toList⟩ := by
  simp [biography, movedBy, deletedBy]

@[simp] theorem biography_moved {before after : Phase} {a : Unit} :
    biography.next b ⟨.note (.moved before after), a⟩ =
      ⟨b.moves ++ [(before, after)], b.deleted⟩ := by
  simp [biography, movedBy, deletedBy]

/-- Other notices and frame requests do not concern the biography. -/
theorem biography_note (h : ∀ before after, n ≠ .moved before after) {a : Unit} :
    biography.next b ⟨.note n, a⟩ = b := by
  have hm : movedBy ⟨.note n, a⟩ = [] := by
    unfold movedBy
    split
    · next before after _ heq =>
      cases heq
      exact absurd rfl (h before after)
    · rfl
  simp [biography, hm, deletedBy]

@[simp] theorem biography_requestFrame : biography.next b ⟨.requestFrame, id⟩ = b := by
  simp [biography, movedBy, deletedBy]

@[simp] theorem biography_cancelFrame {a : Unit} :
    biography.next b ⟨.cancelFrame id, a⟩ = b := by
  simp [biography, movedBy, deletedBy]

end

theorem biography_ignoresFeeds : biography.IgnoresFeeds := by
  rintro b ⟨a, r⟩ he
  cases a with
  | gpu q => cases q <;> simp at he <;> exact ⟨by simp, trivial⟩
  | _ => cases he

namespace Session

variable {s : Session} {p : Program} {m : PlacedMesh} {id : FrameId}

/-- Nothing is written into the biography for an idle call. -/
theorem Idles.biography {call : Call} (h : s.Idles call) :
    (s.obey call).Meets biography b fun a b' => a = (false, s) ∧ b' = b := by
  have hframe : (s.obey call).Meets LiveShader.biography b fun _ b' => b' = b := by
    refine Plan.Meets.frame h (fun _ _ => trivial) ?_
    rintro _ ⟨_, _⟩ ⟨n, rfl, hn⟩ b
    exact ⟨biography_note hn, trivial⟩
  have hyields : (s.obey call).Yields fun a => a = (false, s) :=
    Plan.Meets.yields h fun _ _ => trivial
  exact (hframe.and_yields hyields).mono fun _ _ h => h.symm

/-! ## Calls that are not idle -/

/-- The frame that is awaited, call for call. -/
theorem Live.frame_eq (h : s.Live p m id) (size : PixelSize) (now : Nat) :
    s.frame id size now = do
      gpu (.clear s.parameters.background)
      gpu (.useProgram (some p))
      m.select
      s.feed size (s.elapsed now)
      draw s.mesh
      note (.frameDrawn (s.frames + 1) (s.elapsed now))
      let next ← requestFrame
      return (true, s.advanced next) := by
  simp [frame, h.phase, h.awaited, h.holdings, Holdings.of, Session.advanced]

theorem Linked.start_biography (h : s.Linked p m) (now : Nat) :
    (s.start now).Meets LiveShader.biography b fun s' b' =>
      (∃ id, s' = s.started now id) ∧ b' = ⟨b.moves ++ [(.linked, .rendering)], b.deleted⟩ := by
  have hnote : LiveShader.biography.next ⟨b.moves ++ [(.linked, .rendering)], b.deleted⟩
      ⟨.note (.rendering s.mesh), ()⟩ = ⟨b.moves ++ [(.linked, .rendering)], b.deleted⟩ :=
    biography_note (by simp)
  rw [h.start_eq]
  simp [PlacedMesh.select, hnote]

theorem revoke_biography (s : Session) :
    s.revoke.Meets LiveShader.biography b fun s' b' =>
      s' = { s with awaited := none } ∧ b' = b := by
  unfold revoke
  cases ha : s.awaited with
  | none =>
    rw [Plan.meets_pure, ← ha]
    exact ⟨rfl, rfl⟩
  | some id =>
    have hnote : LiveShader.biography.next b ⟨.note (.revoking id), ()⟩ = b :=
      biography_note (by simp)
    simp [hnote]

/-- Closing a session that holds something deletes it, in order. -/
theorem Holds.close_biography (h : s.Holds p m) (hphase : s.phase.isTerminal = false) :
    s.close.Meets LiveShader.biography b fun s' b' =>
      s' = { s with awaited := none, holdings := {}, phase := .disposed } ∧
        b' = ⟨b.moves ++ [(s.phase, .disposed)], b.deleted ++ s.holdings.parts⟩ := by
  unfold close
  rw [Plan.meets_bind]
  refine s.revoke_biography.mono ?_
  rintro _ _ ⟨rfl, rfl⟩
  rw [h.holdings, Holdings.parts_of, PlacedMesh.parts]
  cases hi : m.indices <;>
    simp [Holdings.giveUp, Holdings.of, Build.deleteProgram, PlacedMesh.delete, hi, hphase]

/-- A frame that is drawn moves nothing and deletes nothing. -/
theorem Live.frame_biography (h : s.Live p m id) (size : PixelSize) (now : Nat) :
    (s.frame id size now).Meets LiveShader.biography b fun a b' =>
      (∃ next, a = (true, s.advanced next)) ∧ b' = b := by
  have hnote : LiveShader.biography.next b
      ⟨.note (.frameDrawn (s.frames + 1) (s.elapsed now)), ()⟩ = b := biography_note (by simp)
  rw [h.frame_eq size now, Plan.meets_bind, meets_gpu]
  refine fun _ _ => ⟨trivial, ?_⟩
  rw [Plan.meets_bind, meets_gpu]
  refine fun _ _ => ⟨trivial, ?_⟩
  rw [Plan.meets_bind, PlacedMesh.select, meets_gpu]
  refine fun _ _ => ⟨trivial, ?_⟩
  rw [Plan.meets_bind]
  refine biography_ignoresFeeds.feed ?_
  cases hi : s.mesh.isIndexed <;> simp [draw, hi, hnote]

/-! ## How a session stands -/

/-- The ways in which a session with this program and this mesh may stand. -/
inductive Stands (p : Program) (m : PlacedMesh) : Session → Biography → Prop
  /-- It was not started yet. -/
  | linked {s : Session} (h : s.Linked p m) (ha : s.awaited = none) : Stands p m s {}
  /-- It was started, and may have drawn frames since. -/
  | rendering {s : Session} (h : s.Holds p m) (hphase : s.phase = .rendering) :
    Stands p m s ⟨[(.linked, .rendering)], []⟩
  /-- It was closed, started before or not. -/
  | closed {s : Session} {moves : List (Phase × Phase)}
    (hmoves : moves = [(.linked, .disposed)] ∨
      moves = [(.linked, .rendering), (.rendering, .disposed)])
    (hholdings : s.holdings = {}) (hphase : s.phase = .disposed) (ha : s.awaited = none) :
    Stands p m s ⟨moves, p.item :: m.parts⟩

theorem Holds.revoked (h : s.Holds p m) : Session.Holds { s with awaited := none } p m :=
  ⟨h.holdings, h.mesh, h.indexed⟩

/-- **What one call makes of a session.** -/
theorem Stands.obey (h : s.Stands p m b) (call : Call) :
    (s.obey call).Meets LiveShader.biography b fun a b' =>
      a.2.Stands p m b' ∧ a.2.phase = call.leads s.phase := by
  have hidle (hi : s.Idles call) (hl : call.leads s.phase = s.phase) :
      (s.obey call).Meets LiveShader.biography b fun a b' =>
        a.2.Stands p m b' ∧ a.2.phase = call.leads s.phase := by
    refine hi.biography.mono ?_
    rintro _ _ ⟨rfl, rfl⟩
    exact ⟨h, hl.symm⟩
  cases h with
  | linked hl ha =>
    cases call with
    | start now =>
      unfold Session.obey
      rw [Plan.meets_bind]
      refine (hl.start_biography now).mono ?_
      rintro _ _ ⟨⟨id, rfl⟩, rfl⟩
      have hlive := hl.live now id
      exact ⟨.rendering hlive.toHolds rfl, by rw [hl.phase]; rfl⟩
    | frame id size now => exact hidle (idles_frame (by simp [ha]) size now) rfl
    | revoke => exact hidle (idles_revoke ha) rfl
    | close =>
      have hphase : s.phase.isTerminal = false := by
        rw [hl.phase]
        rfl
      unfold Session.obey
      rw [Plan.meets_bind]
      refine (hl.close_biography hphase).mono ?_
      rintro _ _ ⟨rfl, rfl⟩
      rw [hl.holdings, hl.phase]
      exact ⟨.closed (.inl rfl) rfl rfl rfl, rfl⟩
  | rendering hh hphase =>
    cases call with
    | start now => exact hidle (idles_start (by simp [hphase]) now) (by rw [hphase]; rfl)
    | frame id size now =>
      by_cases ha : s.awaited = some id
      · -- Only here a session is live in the sense of a view: it awaits this very callback.
        refine (Live.frame_biography ⟨hh, hphase, ha⟩ size now).mono ?_
        rintro _ _ ⟨⟨next, rfl⟩, rfl⟩
        exact ⟨.rendering (hh.advanced next) hphase, rfl⟩
      · exact hidle (idles_frame ha size now) rfl
    | revoke =>
      unfold Session.obey
      rw [Plan.meets_bind]
      refine s.revoke_biography.mono ?_
      rintro _ _ ⟨rfl, rfl⟩
      exact ⟨.rendering hh.revoked hphase, rfl⟩
    | close =>
      have hterminal : s.phase.isTerminal = false := by
        rw [hphase]
        rfl
      unfold Session.obey
      rw [Plan.meets_bind]
      refine (hh.close_biography hterminal).mono ?_
      rintro _ _ ⟨rfl, rfl⟩
      rw [hh.holdings, hphase]
      exact ⟨.closed (.inr rfl) rfl rfl rfl, rfl⟩
  | closed hmoves hholdings hphase ha =>
    have hl : call.leads s.phase = s.phase := by
      rw [hphase]
      cases call <;> rfl
    exact hidle (idles_of_closed hholdings hphase ha call) hl

/-- The moves of a session, and that each of them is a step of its life. -/
theorem Stands.moves (h : s.Stands p m b) :
    (b.moves <+: [(.linked, .rendering), (.rendering, .disposed)] ∨
        b.moves = [(.linked, .disposed)]) ∧
      ∀ move ∈ b.moves, Phase.Step move.1 move.2 := by
  have hstep : ∀ move ∈ [(Phase.linked, Phase.rendering), (.rendering, .disposed)],
      Phase.Step move.1 move.2 := by
    rintro _ (_ | ⟨_, _ | ⟨_, ⟨⟩⟩⟩)
    · exact .start
    · exact .stop
  cases h with
  | linked => exact ⟨.inl (List.nil_prefix), fun _ hm => by cases hm⟩
  | rendering =>
    have hfirst : [(Phase.linked, Phase.rendering)] <+:
        [(.linked, .rendering), (.rendering, .disposed)] := ⟨_, rfl⟩
    exact ⟨.inl hfirst, fun move hm => hstep move (hfirst.subset hm)⟩
  | closed hmoves =>
    rcases hmoves with rfl | rfl
    · refine ⟨.inr rfl, fun move hm => ?_⟩
      rw [List.mem_singleton.mp hm]
      exact .discard
    · exact ⟨.inl List.prefix_rfl, hstep⟩

/-- What was deleted of a session: nothing until it is disposed of, and then everything. -/
theorem Stands.deleted (h : s.Stands p m b) :
    b.deleted = if s.phase = .disposed then p.item :: m.parts else [] := by
  cases h with
  | linked hl => rw [hl.phase]; rfl
  | rendering _ hphase => rw [hphase]; rfl
  | closed _ _ hphase => rw [if_pos hphase]

/-- Nothing comes of anything that is asked of a session once it is disposed of. -/
theorem Stands.idles_of_disposed (h : s.Stands p m b) (hphase : s.phase = .disposed)
    (call : Call) : s.Idles call := by
  cases h with
  | linked hl =>
    rw [hl.phase] at hphase
    cases hphase
  | rendering _ hr =>
    rw [hr] at hphase
    cases hphase
  | closed _ hholdings _ ha => exact idles_of_closed hholdings hphase ha call

/-- The objects of a session are different from each other if its buffers are. -/
theorem Holds.nodup_parts (h : s.Holds p m) (hd : s.holdings.Distinct) :
    s.holdings.parts.Nodup := by
  have hne : m.indices ≠ some m.vertices := h.distinct hd
  rw [h.holdings, Holdings.parts_of, PlacedMesh.parts]
  cases hi : m.indices with
  | none => simp
  | some indices =>
    have hv : m.vertices ≠ indices := fun h => hne (by rw [hi, h])
    simp [hv]

/-- A session that is prepared stands as one that was not started. -/
theorem prepare_stands (stages : Stages) (parameters : Parameters) :
    (prepare stages parameters).Yields fun r => ∀ s, r = .ok s →
      ∃ p m, s.Linked p m ∧ s.awaited = none := by
  refine ((prepare_made (l := []) stages parameters).mono fun r _ hr s hs => ?_).yields
    fun _ _ => trivial
  obtain ⟨p, m, hl, ha, -⟩ := hr s hs
  exact ⟨p, m, hl, ha⟩

end Session

/-! ## Tenures -/

/-- A session and its host at one moment, and everything that was logged so far. -/
structure Tenure (d : Device) where
  session : Session
  host : Host d
  log : Log := []

namespace Tenure

variable {d : Device} {t : Tenure d}

/-- The run of a call. -/
def outcome (t : Tenure d) (call : Session.Call) : Plan.Outcome d.host (Bool × Session) :=
  (t.session.obey call).run d.host t.host

/-- The session does what is asked. -/
def perform (t : Tenure d) (call : Session.Call) : Tenure d :=
  let o := t.outcome call
  ⟨o.value.2, o.state, t.log ++ o.log⟩

/-- One call after the other. -/
def run (t : Tenure d) (calls : List Session.Call) : Tenure d :=
  calls.foldl perform t

/-- Nothing comes of a call: there is no call to the device or to the frame queue, nothing is drawn,
and the session is the same. -/
def Idle (t : Tenure d) (call : Session.Call) : Prop :=
  (t.outcome call).value = (false, t.session) ∧ (t.outcome call).state = t.host ∧
    Log.calls (t.outcome call).log = []

theorem run_snoc (t : Tenure d) (calls : List Session.Call) (call : Session.Call) :
    t.run (calls ++ [call]) = (t.run calls).perform call := by
  simp [run]

/-- **How a session stands after any calls.** -/
theorem stands_run {s : Session} {p : Program} {m : PlacedMesh} (hl : s.Linked p m)
    (ha : s.awaited = none) (host : Host d) (calls : List Session.Call) :
    let t := Tenure.run ⟨s, host, []⟩ calls
    t.session.Stands p m (biography.after {} t.log) ∧
      t.session.phase = Session.Call.phaseAfter calls := by
  induction calls using List.reverseRecOn with
  | nil => exact ⟨.linked hl ha, hl.phase⟩
  | append_singleton calls call ih =>
    obtain ⟨hstands, hphase⟩ := ih
    have hstep := (hstands.obey call).run_free (fun _ _ => trivial) d.host
      (Tenure.run ⟨s, host, []⟩ calls).host
    rw [hphase, ← Session.Call.phaseAfter_snoc] at hstep
    rw [run_snoc]
    dsimp only [perform]
    rw [Contract.after_append]
    exact hstep.2

theorem idle_of_idles {call : Session.Call} (h : t.session.Idles call) : t.Idle call :=
  h.run t.host

/-- Starting is idle exactly if the session is not linked. -/
theorem idle_start_iff {p : Program} {m : PlacedMesh} {b : Biography}
    (h : t.session.Stands p m b) (now : Nat) :
    t.Idle (.start now) ↔ t.session.phase ≠ .linked := by
  constructor
  · rintro ⟨hvalue, -, -⟩ hlinked
    have hphase := ((h.obey (.start now)).run_free (fun _ _ => trivial) d.host t.host).2.2
    have hsame : ((t.session.obey (.start now)).run d.host t.host).value = (false, t.session) :=
      hvalue
    rw [hsame, hlinked] at hphase
    cases hphase
  · exact fun hne => idle_of_idles (Session.idles_start hne now)

/-- **The tenure of a session.** Whatever was prepared, on any device, and whatever is asked of the
session that came of it:

* the phase is known from the calls alone. The session moves from linked to rendering to disposed,
  or from linked to disposed, and every move is a step of a session's life;
* a call to start is idle exactly if the session was started or closed before, so it takes effect
  once at most;
* the objects that preparing the session has left are deleted, each of them once and in order, if
  the session was closed, and otherwise nothing is deleted. They are different from each other on a
  device that makes no handle that is alive already;
* once the session was closed every call is idle. -/
theorem tenure_by_calls (stages : Stages) (parameters : Parameters) (host : Host d) (s : Session)
    (h : ((Session.prepare stages parameters).run d.host host).value = .ok s)
    (calls : List Session.Call) :
    let o := (Session.prepare stages parameters).run d.host host
    let t := Tenure.run ⟨s, o.state, []⟩ calls
    let moves := t.log.flatMap movedBy
    t.session.phase = Session.Call.phaseAfter calls ∧
      (moves <+: [(.linked, .rendering), (.rendering, .disposed)] ∨
        moves = [(.linked, .disposed)]) ∧
      (∀ move ∈ moves, Phase.Step move.1 move.2) ∧
      (∀ now, t.Idle (.start now) ↔ ∃ call ∈ calls, call.isStart = true ∨ call = .close) ∧
      t.log.flatMap deletedBy = (if .close ∈ calls then s.holdings.parts else []) ∧
      ledger.after 0 o.log = s.holdings.parts ∧
      (stock.Assumed {} o.log → s.holdings.parts.Nodup) ∧
      (.close ∈ calls → ∀ call, t.Idle call) := by
  intro o t moves
  obtain ⟨p, m, hl, ha⟩ := ((Session.prepare_stands stages parameters).run_free
    (fun _ _ => trivial) d.host host).2 s h
  obtain ⟨hstands, hphase⟩ := stands_run hl ha o.state calls
  -- The biography is read off the log, so that the statement needs no contract.
  have hstands : t.session.Stands p m ⟨moves, t.log.flatMap deletedBy⟩ := by
    have hb : biography.after {} t.log = ⟨moves, t.log.flatMap deletedBy⟩ :=
      biography_after {} t.log
    rw [← hb]
    exact hstands
  have hphase : t.session.phase = Session.Call.phaseAfter calls := hphase
  have hclosed : t.session.phase = .disposed ↔ .close ∈ calls := by
    rw [hphase, Session.Call.phaseAfter_eq_disposed]
  have hparts : s.holdings.parts = p.item :: m.parts := by rw [hl.holdings, Holdings.parts_of]
  refine ⟨hphase, hstands.moves.1, hstands.moves.2, ?_, ?_, ?_, ?_, ?_⟩
  · intro now
    rw [idle_start_iff hstands, hphase]
    exact Session.Call.phaseAfter_ne_linked
  · have hdeleted : t.log.flatMap deletedBy = _ := hstands.deleted
    rw [hdeleted, hparts]
    simp only [hclosed]
  · have hl := ((Session.prepare_ledger (s := 0) stages parameters).run_free (fun _ _ => trivial)
      d.host host).2
    rw [h] at hl
    exact hl.trans (Multiset.add_zero _)
  · intro hfresh
    have hd := ((Session.prepare_stock (s := {}) stages parameters).run d.host host hfresh).2
    rw [h] at hd
    exact hl.nodup_parts hd.1
  · exact fun hc call => idle_of_idles (hstands.idles_of_disposed (hclosed.mpr hc) call)

/-- On the scripted device the scripted shader code prepares a session. -/
theorem exists_prepared_scripted :
    ∃ s, ((Session.prepare Scripted.code.stages {}).run Scripted.device.host
      { device := ({} : Objects) }).value = .ok s := by
  have hok : ((Session.prepare Scripted.code.stages {}).run Scripted.device.host
      { device := ({} : Objects) }).value.isOk = true := by decide +kernel
  revert hok
  generalize ((Session.prepare Scripted.code.stages {}).run Scripted.device.host
    { device := ({} : Objects) }).value = r
  intro hok
  cases r with
  | error e => cases hok
  | ok s => exact ⟨s, rfl⟩

/-- On the scripted device a session that has drawn a frame is closed, and then started again. -/
theorem tenure_restarted :
    let o := (Session.prepare Scripted.code.stages {}).run Scripted.device.host
      { device := ({} : Objects) }
    ∃ s, o.value = .ok s ∧
      let t := Tenure.run (d := Scripted.device) ⟨s, o.state, []⟩
        [.start 0, .frame ⟨1⟩ ⟨4, 4⟩ 1, .close, .start 2]
      t.session.phase = .disposed ∧ ∀ call, t.Idle call := by
  intro o
  obtain ⟨s, h⟩ := exists_prepared_scripted
  obtain ⟨hphase, -, -, -, -, -, -, hidle⟩ := tenure_by_calls Scripted.code.stages {} _ s h
    [.start 0, .frame ⟨1⟩ ⟨4, 4⟩ 1, .close, .start 2]
  exact ⟨s, h, hphase.trans (by decide), hidle (by decide)⟩

end Tenure

end LiveShader
