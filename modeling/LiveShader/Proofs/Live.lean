import LiveShader.Proofs.Course

/-!
# Live sessions

Between two operations a session of a view is always of one kind: it is rendering, it awaits
exactly one callback, and it holds a program and a mesh with all its buffers (`Session.Live`).
While that is so, what a view does can be written down without a case split on the session's state.

* `View.retire_eq`, `View.frame_eq` and the like are these plans, call for call.
* The rules `View.launch_rule`, `View.takeUp_rule`, `View.frame_rule` and `View.perform_rule` say
  what has to be shown for an operation to meet a contract. They are the only places where the
  operations of a view are taken apart.
* `View.takeUp_meets`, `View.frame_meets` and `View.perform_meets` are the same for contracts that
  less has to do with.

Results:
* `Session.Linked.live`: a linked session that has started is live.
* `View.perform_meets`: an operation meets a contract if retiring, taking up and frames do.
-/

namespace LiveShader

open Engine

variable {σ : Type} {C : Contract (Action.Reply Request.Reply) σ}

/-! ## Kinds of actions -/

/-- Whether a request draws. -/
@[simp] def Request.isDraw : Request → Bool
  | .drawArrays _ | .drawElements _ => true
  | _ => false

/-- Whether a request feeds a uniform. -/
@[simp] def Request.isFeed : Request → Bool
  | .uniformFloat .. | .uniformVec2 .. | .uniformMat4 .. => true
  | _ => false

namespace Action

/-- Whether an action draws. -/
def isDraw : Action Request → Bool
  | .gpu r => r.isDraw
  | _ => false

/-- Whether an action feeds a uniform. -/
def isFeed : Action Request → Bool
  | .gpu r => r.isFeed
  | _ => false

/-- Whether an action concerns the frame queue. -/
def isScheduling : Action Request → Bool
  | .requestFrame | .cancelFrame _ => true
  | _ => false

/-- Whether an action is only a notice. -/
def isNote : Action Request → Bool
  | .note _ => true
  | _ => false

section

variable {r : Request} {n : Notice} {id : FrameId}

@[simp] theorem isDraw_gpu : isDraw (.gpu r) = r.isDraw := rfl
@[simp] theorem isDraw_note : isDraw (.note n) = false := rfl
@[simp] theorem isDraw_requestFrame : isDraw .requestFrame = false := rfl
@[simp] theorem isDraw_cancelFrame : isDraw (.cancelFrame id) = false := rfl

@[simp] theorem isFeed_gpu : isFeed (.gpu r) = r.isFeed := rfl

@[simp] theorem isScheduling_gpu : isScheduling (.gpu r) = false := rfl
@[simp] theorem isScheduling_note : isScheduling (.note n) = false := rfl
@[simp] theorem isScheduling_requestFrame : isScheduling .requestFrame = true := rfl
@[simp] theorem isScheduling_cancelFrame : isScheduling (.cancelFrame id) = true := rfl

@[simp] theorem isNote_gpu : isNote (.gpu r) = false := rfl
@[simp] theorem isNote_note : isNote (.note n) = true := rfl
@[simp] theorem isNote_requestFrame : isNote .requestFrame = false := rfl
@[simp] theorem isNote_cancelFrame : isNote (.cancelFrame id) = false := rfl

end

/-- What feeds a uniform neither draws nor concerns the frame queue. -/
theorem quiet_of_isFeed {a : Action Request} (h : a.isFeed = true) :
    a.isDraw = false ∧ a.isScheduling = false := by
  cases a with
  | gpu r => cases r <;> simp_all
  | _ => cases h

end Action

/-! ## Sessions -/

/-- A session holds a program and a mesh, with an index buffer exactly if the mesh has indices. -/
structure Session.Holds (s : Session) (program : Program) (placed : PlacedMesh) : Prop where
  holdings : s.holdings = .of program placed
  mesh : s.mesh = placed.mesh
  indexed : placed.indices.isSome = placed.mesh.isIndexed

/-- A session as it is prepared. -/
structure Session.Linked (s : Session) (program : Program) (placed : PlacedMesh) : Prop
    extends s.Holds program placed where
  phase : s.phase = .linked

/-- A session as a view keeps it. -/
structure Session.Live (s : Session) (program : Program) (placed : PlacedMesh) (id : FrameId) :
    Prop extends s.Holds program placed where
  phase : s.phase = .rendering
  awaited : s.awaited = some id

namespace Session

variable {s : Session} {p : Program} {m : PlacedMesh} {id : FrameId}

/-- A linked session that starts at `now` and awaits `id`. -/
def started (s : Session) (now : Nat) (id : FrameId) : Session :=
  { s with phase := .rendering, startedAt := some now, awaited := some id }

/-- A live session after a frame that asked for `next`. -/
def advanced (s : Session) (next : FrameId) : Session :=
  { s with awaited := some next, frames := s.frames + 1 }

/-- A session holds one program and one mesh. -/
theorem Holds.unique {p' : Program} {m' : PlacedMesh} (h : s.Holds p m) (h' : s.Holds p' m') :
    p' = p ∧ m' = m :=
  Holdings.of_inj (h'.holdings.symm.trans h.holdings)

theorem Linked.live (h : s.Linked p m) (now : Nat) (id : FrameId) :
    (s.started now id).Live p m id :=
  ⟨⟨h.holdings, h.mesh, h.indexed⟩, rfl, rfl⟩

theorem Holds.advanced (h : s.Holds p m) (next : FrameId) : (s.advanced next).Holds p m :=
  ⟨h.holdings, h.mesh, h.indexed⟩

theorem Live.advanced (h : s.Live p m id) (next : FrameId) : (s.advanced next).Live p m next :=
  ⟨h.toHolds.advanced next, h.phase, rfl⟩

theorem Linked.start_eq (h : s.Linked p m) (now : Nat) : s.start now = do
    m.select
    gpu .enableDepthAndCulling
    let id ← requestFrame
    note (.moved .linked .rendering)
    note (.rendering s.mesh)
    return s.started now id := by
  simp [start, h.phase, h.holdings, Holdings.of, started]

theorem Live.close_eq (h : s.Live p m id) : s.close = do
    note (.revoking id)
    cancelFrame id
    Build.deleteProgram p
    m.delete
    note (.moved .rendering .disposed)
    return { s with awaited := none, holdings := {}, phase := .disposed } := by
  simp [close, revoke, Holdings.giveUp, h.awaited, h.holdings, h.phase, Holdings.of,
    Phase.isTerminal]

end Session

/-! ## Changes -/

namespace Change

/-- The visibility that a change tells of. -/
def visible? : Change → Option Bool
  | .shown => some true
  | .hidden => some false
  | _ => none

/-- What a change makes of the shader code. -/
def code? : Change → Option (Option ShaderCode)
  | .answered answer => some answer.codeToRender.toOption
  | .supplied code => some (some code)
  | .removed => some none
  | _ => none

/-- The failure that a change brings: that of a failed answer. -/
def failure? : Change → Option Failure
  | .answered answer =>
    match answer.codeToRender with
    | .error e => some e
    | .ok _ => none
  | _ => none

end Change

/-! ## Views -/

namespace View

variable {v : View} {s : Session} {p : Program} {m : PlacedMesh} {id : FrameId}

/-- Every session of a view is live. -/
def Sound (v : View) : Prop :=
  ∀ s, v.session = some s → ∃ p m id, s.Live p m id

/-- Moreover there is a context for it. -/
structure Ready (v : View) : Prop where
  sound : v.Sound
  hasContext : v.session.isSome → v.canvas.hasContext = true

/-- A view differs from another at most in what does not concern its session. -/
structure Resembles (v v' : View) : Prop where
  session : v.session = v'.session
  hasContext : v.canvas.hasContext = v'.canvas.hasContext

/-- A view after its session was retired. -/
def retired (v : View) : View :=
  match v.session with
  | none => v
  | some _ => { v with session := none, lastPhase := .disposed }

/-- A view whose attempt failed. -/
def failed (v : View) (e : Failure) : View :=
  { v with lastPhase := .errored, lastFailure := some e }

/-- A view whose backing store has got the displayed size. -/
def fitted (v : View) : View :=
  { v with canvas := v.canvas.adopt }

/-- A view with a session that was launched. -/
def launched (v : View) (session : Session) : View :=
  { v with session := some session, lastPhase := session.phase }

/-- A view that was closed, after its session was retired. -/
def closed (v : View) : View :=
  { v with gone := true, code := none }

/-- A view after a change was recorded. -/
def recorded (v : View) (change : Change) : View :=
  ({ v with lastFailure := none }.record change).2

/-- The shader code of a view that is shown. -/
def toRender (v : View) : Option ShaderCode :=
  if v.visible && !v.gone then v.code else none

/-- What a change leaves to render. A failed answer leaves nothing and says why. -/
def asks (v : View) (change : Change) : Except Failure (Option ShaderCode) :=
  match change.failure? with
  | some e => .error e
  | none => .ok (v.recorded change).toRender

@[simp] theorem session_retired (v : View) : v.retired.session = none := by
  unfold retired
  split <;> simp_all

@[simp] theorem canvas_retired (v : View) : v.retired.canvas = v.canvas := by
  unfold retired
  split <;> rfl

@[simp] theorem visible_retired (v : View) : v.retired.visible = v.visible := by
  unfold retired
  split <;> rfl

@[simp] theorem gone_retired (v : View) : v.retired.gone = v.gone := by
  unfold retired
  split <;> rfl

@[simp] theorem code_retired (v : View) : v.retired.code = v.code := by
  unfold retired
  split <;> rfl

theorem Resembles.trans {v' v'' : View} (h : v.Resembles v') (h' : v'.Resembles v'') :
    v.Resembles v'' :=
  ⟨h.session.trans h'.session, h.hasContext.trans h'.hasContext⟩

theorem Resembles.sound {v' : View} (h : v.Resembles v') (hv : v'.Sound) : v.Sound := by
  intro s hs
  rw [h.session] at hs
  exact hv s hs

theorem Resembles.ready {v' : View} (h : v.Resembles v') (hv : v'.Ready) : v.Ready := by
  refine ⟨h.sound hv.sound, fun hs => ?_⟩
  rw [h.session] at hs
  rw [h.hasContext]
  exact hv.hasContext hs

theorem sound_of_none (h : v.session = none) : v.Sound := by
  intro s hs
  rw [h] at hs
  cases hs

theorem ready_of_none (h : v.session = none) : v.Ready :=
  ⟨sound_of_none h, fun hs => by simp [h] at hs⟩

theorem retire_of_none (h : v.session = none) : v.retire = pure v.retired := by
  simp [retire, retired, h]

theorem retire_eq (hs : v.session = some s) (hc : v.canvas.hasContext = true)
    (h : s.Live p m id) : v.retire = do
    note (.revoking id)
    cancelFrame id
    Build.deleteProgram p
    m.delete
    note (.moved .rendering .disposed)
    return v.retired := by
  simp [retire, release, retired, hs, hc, h.close_eq, Plan.discard_eq, map_bind]

theorem retire_of_lost (hs : v.session = some s) (hc : v.canvas.hasContext = false)
    (h : s.Live p m id) : v.retire = do
    note (.revoking id)
    cancelFrame id
    note .contextLost
    return v.retired := by
  simp [retire, release, retired, hs, hc, Session.revoke, h.awaited, Plan.discard_eq, map_bind]

theorem frame_of_none (h : v.session = none) (id : FrameId) (now : Nat) : v.frame id now = do
    note (.frameWithoutSession id)
    return (false, v) := by
  simp [frame, h]

theorem frame_of_lost (h : v.canvas.hasContext = false) (id : FrameId) (now : Nat) :
    v.frame id now = do
    note (.frameWithoutSession id)
    return (false, v) := by
  simp [frame, h]

theorem frame_eq (hs : v.session = some s) (hc : v.canvas.hasContext = true)
    (h : s.Live p m id) (now : Nat) : v.frame id now = do
    gpu (.clear s.parameters.background)
    gpu (.useProgram (some p))
    m.select
    s.feed v.canvas.backing (s.elapsed now)
    Session.draw s.mesh
    note (.frameDrawn (s.frames + 1) (s.elapsed now))
    let next ← requestFrame
    return (true, { v with session := some (s.advanced next) }) := by
  simp [frame, hs, hc, Session.frame, h.phase, h.awaited, h.holdings, Holdings.of,
    Session.advanced]

theorem frame_of_ne (hs : v.session = some s) (hc : v.canvas.hasContext = true)
    (h : s.Live p m id) {id' : FrameId} (hne : id' ≠ id) (now : Nat) : v.frame id' now = do
    note (.staleFrame id')
    return (false, v) := by
  have hv : { v with session := some s } = v := by rw [← hs]
  simp [frame, hs, hc, Session.frame, h.phase, h.awaited, hne.symm, hv]

end View

/-! ## Rules -/

/-- A contract that notices have nothing to do with. -/
def Contract.IgnoresNotes (C : Contract (Action.Reply Request.Reply) σ) : Prop :=
  ∀ s n a, C.next s ⟨.note n, a⟩ = s ∧ C.owed s ⟨.note n, a⟩

theorem Contract.IgnoresNotes.note (h : C.IgnoresNotes) {s : σ} {n : Notice}
    {post : Unit → σ → Prop} (hpost : post () s) : (note n).Meets C s post := by
  rw [meets_note]
  intro _
  obtain ⟨hn, ho⟩ := h s n ()
  rw [hn]
  exact ⟨ho, hpost⟩

theorem Contract.IgnoresNotes.noteIf (h : C.IgnoresNotes) {s : σ} {b : Bool} {n : Notice}
    {post : Unit → σ → Prop} (hpost : post () s) : (noteIf b n).Meets C s post := by
  cases b with
  | false => exact hpost
  | true => exact h.note hpost

/-- A contract that uniforms have nothing to do with. -/
def Contract.IgnoresFeeds (C : Contract (Action.Reply Request.Reply) σ) : Prop :=
  ∀ s e, e.question.isFeed = true → C.next s e = s ∧ C.owed s e

/-- The contract of those who do nothing but feed uniforms. -/
def feeding : Contract (Action.Reply Request.Reply) Unit where
  next _ _ := ()
  owed _ e := e.question.isFeed = true

theorem Session.feed_feeding (session : Session) (size : PixelSize) (t : Float32) :
    (session.feed size t).Meets feeding () fun _ _ => True := by
  unfold feed
  rcases session.feeds with ⟨_ | time, _ | resolution, _ | camera⟩ <;> simp [feeding]

theorem Contract.IgnoresFeeds.feed (h : C.IgnoresFeeds) {s : σ} {session : Session}
    {size : PixelSize} {t : Float32} {post : Unit → σ → Prop} (hpost : post () s) :
    (session.feed size t).Meets C s post := by
  have hf := session.feed_feeding size t
  refine (hf.frame (fun _ _ => trivial) fun _ e he s => h s e he).mono ?_
  rintro _ _ rfl
  exact hpost

namespace View

variable {v : View} {s : σ}

/-- Retiring the live session meets a contract if its calls do: those that revoke the request and
delete the objects, or without a context only the former. -/
theorem retire_meets (hn : C.IgnoresNotes) (hv : v.Sound) {post : View → σ → Prop}
    (hnone : v.session = none → post v.retired s)
    (hlive : ∀ session p m id, v.session = some session → v.canvas.hasContext = true →
      session.Live p m id →
        (do cancelFrame id; Build.deleteProgram p; m.delete).Meets C s fun _ s =>
          post v.retired s)
    (hlost : ∀ session p m id, v.session = some session → v.canvas.hasContext = false →
      session.Live p m id → (cancelFrame id).Meets C s fun _ s => post v.retired s) :
    v.retire.Meets C s post := by
  cases hs : v.session with
  | none =>
    rw [retire_of_none hs]
    exact hnone hs
  | some session =>
    obtain ⟨p, m, id, hl⟩ := hv session hs
    cases hc : v.canvas.hasContext with
    | true =>
      specialize hlive session p m id hs hc hl
      simp only [retire_eq hs hc hl, Plan.meets_bind] at hlive ⊢
      refine hn.note (hlive.mono fun _ s h => h.mono fun _ s h => h.mono fun _ s h => ?_)
      exact hn.note h
    | false =>
      rw [retire_of_lost hs hc hl, Plan.meets_bind]
      refine hn.note ?_
      rw [Plan.meets_bind]
      exact (hlost session p m id hs hc hl).mono fun _ s h => hn.note h

theorem fail_meets (hn : C.IgnoresNotes) {e : Failure}
    {post : Except Failure Unit × View → σ → Prop} (h : post (.error e, v.failed e) s) :
    (v.fail e).Meets C s post := by
  unfold fail
  rw [Plan.meets_bind]
  exact hn.note h

/-- What launching comes to: the backing store gets the displayed size, and if there is a context a
session is prepared and started. -/
theorem launch_rule (hn : C.IgnoresNotes) {code : ShaderCode} {now : Nat}
    {post : Except Failure Unit × View → σ → Prop}
    (hlost : v.canvas.hasContext = false → post (.error .noContext, v.fitted.failed .noContext) s)
    (hlaunch : v.canvas.hasContext = true →
      (do gpu (.viewport v.canvas.display.viewport.1 v.canvas.display.viewport.2)
          Session.prepare code.stages v.parameters).Meets C s fun r s =>
        match r with
        | .error e => post (.error e, v.fitted.failed e) s
        | .ok session => (session.start now).Meets C s fun session s =>
            post (.ok (), v.fitted.launched session) s) :
    (v.launch code now).Meets C s post := by
  unfold launch fit
  rw [bind_assoc, Plan.meets_bind]
  refine hn.noteIf ?_
  cases hc : v.canvas.hasContext with
  | false =>
    simp only [pure_bind, Canvas.hasContext_adopt, hc]
    exact fail_meets hn (hlost hc)
  | true =>
    simp only [pure_bind, Canvas.hasContext_adopt, Canvas.display_adopt, hc]
    specialize hlaunch hc
    rw [Plan.meets_bind] at hlaunch ⊢
    refine hlaunch.mono fun _ s h => ?_
    rw [Plan.meets_bind]
    refine h.mono fun r s h => ?_
    cases r with
    | error e => exact fail_meets hn h
    | ok session =>
      rw [Plan.meets_bind]
      exact h

/-- What is left to show of launching a session: that preparing and starting it meet the contract
and end, with or without a session, as demanded. -/
def Launches (C : Contract (Action.Reply Request.Reply) σ) (v : View) (now : Nat) (s : σ)
    (post : Except Failure Unit × View → σ → Prop) : Prop :=
  v.canvas.hasContext = true → ∀ width height stages parameters,
    (do gpu (.viewport width height); Session.prepare stages parameters).Meets C s fun r s =>
      match r with
      | .error e => ∀ v' : View, v'.Resembles v → post (.error e, v') s
      | .ok session => (session.start now).Meets C s fun session s =>
          ∀ v' : View, v'.session = some session → v'.canvas.hasContext = true →
            post (.ok (), v') s

theorem Launches.congr {now : Nat} {post : Except Failure Unit × View → σ → Prop} {v' : View}
    (h : Launches C v now s post) (hv : v'.Resembles v) : Launches C v' now s post := by
  intro hc width height stages parameters
  refine (h (hv.hasContext ▸ hc) width height stages parameters).mono fun r s h => ?_
  cases r with
  | error e => exact fun w hw => h w (hw.trans hv)
  | ok session => exact h

/-- Launching meets a contract if preparing and starting a session do. -/
theorem launch_meets (hn : C.IgnoresNotes) {code : ShaderCode} {now : Nat}
    {post : Except Failure Unit × View → σ → Prop}
    (hidle : ∀ r v', Resembles v' v → post (r, v') s) (hlaunch : Launches C v now s post) :
    (v.launch code now).Meets C s post := by
  refine launch_rule hn (fun _ => hidle _ _ ⟨rfl, rfl⟩) fun hc => ?_
  refine (hlaunch hc _ _ code.stages v.parameters).mono fun r s h => ?_
  cases r with
  | error e => exact h _ ⟨rfl, rfl⟩
  | ok session => exact h.mono fun session s h => h _ rfl hc

/-- Recording a change, field by field. -/
theorem recorded_eq (v : View) (change : Change) : v.recorded change =
    { v with
      visible := change.visible?.getD v.visible
      gone := v.gone || change = .removed
      code := change.code?.getD v.code
      lastFailure := none } := by
  unfold recorded record
  cases change with
  | answered answer =>
    cases h : answer.codeToRender <;>
      simp [Change.visible?, Change.code?, h, Except.toOption]
  | _ => simp [Change.visible?, Change.code?]

theorem record_eq (v : View) (change : Change) : { v with lastFailure := none }.record change =
    (match change.failure? with
      | some e => .error e
      | none => .ok (), v.recorded change) := by
  unfold recorded record
  cases change with
  | answered answer => cases h : answer.codeToRender <;> simp [Change.failure?, h]
  | _ => rfl

theorem recorded_resembles (v : View) (change : Change) : (v.recorded change).Resembles v := by
  rw [recorded_eq]
  exact ⟨rfl, rfl⟩

/-- A change is recorded, and then what it leaves to render is launched. -/
theorem takeUp_eq (v : View) (change : Change) (now : Nat) : v.takeUp change now =
    match v.asks change with
    | .error e => (v.recorded change).fail e
    | .ok none => pure (.ok (), v.recorded change)
    | .ok (some code) => (v.recorded change).launch code now := by
  unfold takeUp asks
  rw [record_eq]
  cases change.failure? with
  | some e => rfl
  | none =>
    dsimp only [toRender]
    generalize v.recorded change = w
    cases w.visible && !w.gone <;> cases w.code <;> rfl

/-- What taking up a change comes to. -/
theorem takeUp_rule (hn : C.IgnoresNotes) {change : Change} {now : Nat}
    {post : Except Failure Unit × View → σ → Prop}
    (hrefuse : ∀ e, v.asks change = .error e → post (.error e, (v.recorded change).failed e) s)
    (hrest : v.asks change = .ok none → post (.ok (), v.recorded change) s)
    (hlaunch : ∀ code, v.asks change = .ok (some code) →
      ((v.recorded change).launch code now).Meets C s post) :
    (v.takeUp change now).Meets C s post := by
  rw [takeUp_eq]
  cases ha : v.asks change with
  | error e => exact fail_meets hn (hrefuse e ha)
  | ok code =>
    cases code with
    | none => exact hrest ha
    | some code => exact hlaunch code ha

/-- Taking up a change meets a contract if preparing and starting a session do. -/
theorem takeUp_meets (hn : C.IgnoresNotes) {change : Change} {now : Nat}
    {post : Except Failure Unit × View → σ → Prop}
    (hidle : ∀ r v', Resembles v' v → post (r, v') s) (hlaunch : Launches C v now s post) :
    (v.takeUp change now).Meets C s post := by
  have hw := v.recorded_resembles change
  refine takeUp_rule hn (fun e _ => hidle _ _ ⟨hw.session, hw.hasContext⟩)
    (fun _ => hidle _ _ hw) fun code _ => ?_
  exact launch_meets hn (fun r v' hv' => hidle r v' (hv'.trans hw)) (hlaunch.congr hw)

/-- Whether a frame callback would draw nothing. -/
def Ignores (v : View) (id : FrameId) : Prop :=
  ∀ session, v.session = some session → v.canvas.hasContext = true → session.awaited ≠ some id

/-- What a frame comes to: nothing, or a picture for the callback that is awaited. -/
theorem frame_rule (hn : C.IgnoresNotes) (hv : v.Sound) {id : FrameId} {now : Nat}
    {post : Bool × View → σ → Prop} (hidle : v.Ignores id → post (false, v) s)
    (hdraw : ∀ session p m, v.session = some session → v.canvas.hasContext = true →
      session.Live p m id →
        (do gpu (.clear session.parameters.background)
            gpu (.useProgram (some p))
            m.select
            session.feed v.canvas.backing (session.elapsed now)
            Session.draw session.mesh
            requestFrame).Meets C s fun next s =>
          post (true, { v with session := some (session.advanced next) }) s) :
    (v.frame id now).Meets C s post := by
  cases hs : v.session with
  | none =>
    rw [frame_of_none hs, Plan.meets_bind]
    exact hn.note (hidle fun s' hs' => by simp [hs] at hs')
  | some session =>
    obtain ⟨p, m, id', hl⟩ := hv session hs
    cases hc : v.canvas.hasContext with
    | false =>
      rw [frame_of_lost hc, Plan.meets_bind]
      exact hn.note (hidle fun s' _ hc' => by simp [hc] at hc')
    | true =>
      by_cases hid : id = id'
      · subst hid
        specialize hdraw session p m hs hc hl
        simp only [frame_eq hs hc hl, Plan.meets_bind] at hdraw ⊢
        refine hdraw.mono fun _ s h => h.mono fun _ s h => h.mono fun _ s h => ?_
        exact h.mono fun _ s h => h.mono fun _ s h => hn.note h
      · rw [frame_of_ne hs hc hl hid, Plan.meets_bind]
        refine hn.note (hidle fun s' hs' _ ha => hid ?_)
        rw [hs, Option.some_inj] at hs'
        rw [← hs', hl.awaited, Option.some_inj] at ha
        exact ha.symm

/-- A frame meets a contract that uniforms have nothing to do with if drawing and asking for the
next do. -/
theorem frame_meets (hn : C.IgnoresNotes) (hf : C.IgnoresFeeds) (hv : v.Sound) {id : FrameId}
    {now : Nat} {post : Bool × View → σ → Prop} (hidle : v.Ignores id → post (false, v) s)
    (hdraw : ∀ session p m, v.session = some session → v.canvas.hasContext = true →
      session.Live p m id → ∀ color,
        (do gpu (.clear color)
            gpu (.useProgram (some p))
            m.select
            Session.draw session.mesh
            requestFrame).Meets C s fun next s =>
          post (true, { v with session := some (session.advanced next) }) s) :
    (v.frame id now).Meets C s post := by
  refine frame_rule hn hv hidle fun session p m hs hc hl => ?_
  specialize hdraw session p m hs hc hl session.parameters.background
  simp only [Plan.meets_bind] at hdraw ⊢
  exact hdraw.mono fun _ s h => h.mono fun _ s h => h.mono fun _ s h => hf.feed h

/-- **What an operation comes to**, case by case. -/
theorem perform_rule (hn : C.IgnoresNotes) {op : Operation} {post : Result × View → σ → Prop}
    (hrepeat : ∀ change now, op.change = some (change, now) → v.isRedundant change = true →
      post (.reacted (.ok ()), v) s)
    (hchange : ∀ change now, op.change = some (change, now) → v.isRedundant change = false →
      v.retire.Meets C s fun v s => (v.takeUp change now).Meets C s fun a s =>
        post (.reacted a.1, a.2) s)
    (hclose : op = .close → v.retire.Meets C s fun v s => post (.done, v.closed) s)
    (hframe : ∀ id now, op = .frame id now →
      (v.frame id now).Meets C s fun a s => post (.drawn a.1, a.2) s)
    (hresize : ∀ size, op = .resize size → post (.done, v.resize size) s) :
    (v.perform op).Meets C s post := by
  cases hop : op.change with
  | some c =>
    obtain ⟨change, now⟩ := c
    rw [perform_of_change hop, Plan.meets_bind, react]
    cases hr : v.isRedundant change with
    | true => exact hrepeat change now hop hr
    | false =>
      dsimp only
      rw [Plan.meets_bind]
      exact hchange change now hop hr
  | none =>
    cases op with
    | close =>
      unfold perform close
      simp only [bind_assoc, Plan.meets_bind]
      exact hn.noteIf (hclose rfl)
    | frame id now =>
      unfold perform
      dsimp only
      rw [Plan.meets_bind]
      exact hframe id now rfl
    | resize size => exact hresize size rfl
    | _ => cases hop

/-- **What has to be shown of an operation** for it to meet a contract that only sessions and
contexts have to do with. -/
theorem perform_meets (hn : C.IgnoresNotes) {op : Operation} {post : Result × View → σ → Prop}
    (hstay : op.retires v = false → (∀ id now, op ≠ .frame id now) →
      ∀ r v', v'.Resembles v → post (r, v') s)
    (hchange : op.renews v = true → v.retire.Meets C s fun v s => ∀ change now,
      (v.takeUp change now).Meets C s fun a s => post (.reacted a.1, a.2) s)
    (hclose : op = .close → v.retire.Meets C s fun v s =>
      ∀ v', v'.Resembles v → post (.done, v') s)
    (hframe : ∀ id now, op = .frame id now →
      (v.frame id now).Meets C s fun a s => post (.drawn a.1, a.2) s) :
    (v.perform op).Meets C s post := by
  refine perform_rule hn (fun change now hop hr => ?_) (fun change now hop hr => ?_) (fun hop => ?_)
    hframe fun size hop => ?_
  · have hne : ∀ id now, op ≠ .frame id now := by
      rintro id now rfl
      cases hop
    exact hstay (Operation.retires_of_redundant hop hr) hne _ _ ⟨rfl, rfl⟩
  · exact (hchange (Operation.renews_of_not_redundant hop hr)).mono fun v s h => h change now
  · exact (hclose hop).mono fun v s h => h _ ⟨rfl, rfl⟩
  · subst hop
    exact hstay rfl (fun _ _ h => by cases h) _ _ ⟨rfl, rfl⟩

end View

end LiveShader
