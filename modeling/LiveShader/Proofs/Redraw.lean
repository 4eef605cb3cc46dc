import LiveShader.Proofs.Frames
import LiveShader.Proofs.Handoff
import LiveShader.Proofs.Memory
import LiveShader.Proofs.Removal
import Mathlib.Data.List.Infix

/-!
# A frame is drawn as a whole or not at all

A frame callback that is not awaited leaves everything as it is. One that is awaited makes a fixed
row of calls: it clears, makes the program current, binds the mesh, feeds the uniforms that the
program has, draws once and asks for the next callback. There is nothing in between at which the
frame could stop.

* Which uniforms are fed was found out when the session was prepared. `Feeds.lookups` is the
  question and the answer for each of them, as they stand in the log of the change that launched the
  session.
* `View.Outfitted` is the invariant: the live session has the parameters of the view, the mesh of
  its shader code, and the locations that were looked up for its program.

Results:
* `View.frame_ignored`, `View.frame_drawn`: the two ways a frame can go.
* `Course.equipped_history`: the invariant, after every history.
* `frame_whole`: every frame in every history.
-/

namespace LiveShader

open Engine

/-! ## What is drawn -/

/-- The call that draws a mesh. -/
def Mesh.drawing : Mesh → Request
  | .quad => .drawArrays 6
  | .cube => .drawElements 36

/-- The call that draws with shader code: the cube if the vertex stage contains the name of the
camera matrix. -/
def ShaderCode.drawing (code : ShaderCode) : Request :=
  if Builtin.cameraUniform.toList <:+: code.stages.vertex.toList then .drawElements 36
  else .drawArrays 6

theorem ShaderCode.drawing_mesh (code : ShaderCode) : code.stages.mesh.drawing = code.drawing := by
  have hcube : code.stages.mesh = .cube ↔
      Builtin.cameraUniform.toList <:+: code.stages.vertex.toList := by
    rw [code.mesh_eq_cube_iff]
    simp only [List.IsInfix, eq_comm]
  unfold drawing
  cases hm : code.stages.mesh with
  | quad =>
    have hno : ¬ Builtin.cameraUniform.toList <:+: code.stages.vertex.toList := by
      rw [← hcube, hm]
      decide
    rw [if_neg hno]
    rfl
  | cube =>
    rw [if_pos (hcube.mp hm)]
    rfl

/-- The uploads of one frame: one for each uniform that the program has, and no other. -/
def Session.uploads (s : Session) (size : PixelSize) (t : Float32) : List (Action Request) :=
  s.feeds.time.toList.map (fun location => .gpu (.uniformFloat location t)) ++
  s.feeds.resolution.toList.map (fun location =>
    .gpu (.uniformVec2 location size.width.toFloat32 size.height.toFloat32)) ++
  s.feeds.camera.toList.map fun location =>
    .gpu (.uniformMat4 location (s.parameters.cameraMatrix size.aspect t))

variable {calls : List (Action Request)}

theorem Session.feed_calling (s : Session) (size : PixelSize) (t : Float32) :
    (s.feed size t).Meets calling calls fun _ l => l = calls ++ s.uploads size t := by
  unfold feed uploads
  rcases s.feeds with ⟨_ | time, _ | resolution, _ | camera⟩ <;> simp [calling]

theorem Session.draw_calling (mesh : Mesh) :
    (Session.draw mesh).Meets calling calls fun _ l => l = calls ++ [.gpu mesh.drawing] := by
  cases mesh <;> exact fun _ _ => ⟨trivial, rfl⟩

/-! ## Launching -/

variable {log : Log}

/-- Starting a linked session only starts it. -/
theorem Session.Linked.start_yields {s : Session} {p : Program} {m : PlacedMesh}
    (h : s.Linked p m) (now : Nat) :
    (s.start now).Yields fun s' => ∃ id, s' = s.started now id := by
  rw [h.start_eq]
  simp only [Plan.Yields, PlacedMesh.select, Plan.meets_bind, meets_gpu, meets_requestFrame,
    meets_note, Plan.meets_pure, Plan.free, forall_const, true_and]
  exact fun id => ⟨id, rfl⟩

/-! ## Views -/

namespace View

variable {v v' : View} {s : Session} {p : Program} {m : PlacedMesh} {id : FrameId}

/-- The live session has the parameters of the view, the mesh of its shader code, and the locations
that were looked up for its program in the log. -/
structure Outfits (v : View) (s : Session) (log : Log) : Prop where
  parameters : s.parameters = v.parameters
  mesh : ∃ code, v.code = some code ∧ s.mesh = code.stages.mesh
  feeds : ∃ p m, s.Holds p m ∧ s.feeds.lookups p <:+: log

/-- This is so of the live session, if there is one. -/
def Outfitted (v : View) (log : Log) : Prop :=
  ∀ s, v.session = some s → v.Outfits s log

theorem outfitted_of_none (h : v.session = none) : v.Outfitted log := by
  intro s hs
  rw [h] at hs
  cases hs

theorem Outfitted.mono {log' : Log} (h : v.Outfitted log) (hlog : log <:+: log') :
    v.Outfitted log' := by
  intro s hs
  obtain ⟨hparameters, hmesh, p, m, hholds, hlookups⟩ := h s hs
  exact ⟨hparameters, hmesh, p, m, hholds, hlookups.trans hlog⟩

theorem Outfits.advanced (h : v.Outfits s log) (next : FrameId) :
    View.Outfits { v with session := some (s.advanced next) } (s.advanced next) log := by
  obtain ⟨p, m, hholds, hlookups⟩ := h.feeds
  exact ⟨h.parameters, h.mesh, p, m, hholds.advanced next, hlookups⟩

theorem fail_transcript (h : v.session = none) (e : Failure) :
    (v.fail e).Meets transcript log fun a log' => a.2.Outfitted log' := by
  unfold fail
  rw [Plan.meets_bind, meets_note]
  exact fun _ => ⟨trivial, outfitted_of_none h⟩

/-- A session that is launched has what it needs for its frames. -/
theorem launch_transcript (hv : v.session = none) {code : ShaderCode} (hcode : v.code = some code)
    (now : Nat) : (v.launch code now).Meets transcript log fun a log' => a.2.Outfitted log' := by
  -- `launch_rule` does not apply, because a notice is part of the log.
  unfold launch fit
  rw [bind_assoc, Plan.meets_bind]
  refine (Plan.adds _).mono fun _ log₁ _ => ?_
  cases hc : v.canvas.hasContext with
  | false =>
    simp only [pure_bind, Canvas.hasContext_adopt, hc]
    exact fail_transcript (v := v.fitted) hv .noContext
  | true =>
    simp only [pure_bind, Canvas.hasContext_adopt, hc]
    rw [Plan.meets_bind, meets_gpu]
    refine fun _ _ => ⟨trivial, ?_⟩
    rw [Plan.meets_bind]
    have hcarries := Session.prepare_carries code.stages v.parameters
    refine ((Session.prepare_made code.stages v.parameters).and_yields hcarries).mono ?_
    rintro r log₂ ⟨hmade, hcarries⟩
    cases r with
    | error e => exact fail_transcript (v := v.fitted) hv e
    | ok s =>
      obtain ⟨hmesh, hparameters⟩ := hcarries s rfl
      obtain ⟨p, m, hl, -, hlookups⟩ := hmade s rfl
      dsimp only
      rw [Plan.meets_bind]
      refine ((s.start now).adds.and_yields (hl.start_yields now)).mono ?_
      rintro _ log₃ ⟨hadds, id, rfl⟩
      rw [Plan.meets_pure]
      rintro _ ⟨⟩
      exact ⟨hparameters, ⟨code, hcode, hmesh⟩, p, m, (hl.live now id).toHolds,
        hlookups.isInfix.trans hadds.isInfix⟩

theorem takeUp_transcript (hv : v.session = none) (change : Change) (now : Nat) :
    (v.takeUp change now).Meets transcript log fun a log' => a.2.Outfitted log' := by
  have hs : (v.recorded change).session = none := (v.recorded_resembles change).session.trans hv
  rw [takeUp_eq]
  cases ha : v.asks change with
  | error e => exact fail_transcript hs e
  | ok code =>
    cases code with
    | none => exact outfitted_of_none hs
    | some code =>
      have hcode := (toRender_eq_some.mp ((v.toRender_recorded change).2 _ ha)).2.2
      exact launch_transcript hs hcode now

/-! ### The two ways of a frame -/

/-- A frame that is not awaited only says so. -/
theorem frame_ignored (hv : v.Sound) (hi : v.Ignores id) (now : Nat) :
    (v.frame id now).Meets reporting () fun a _ => a = (false, v) := by
  refine frame_rule reporting_ignoresNotes hv (fun _ => rfl) ?_
  intro s p m hs hc hl
  exact absurd hl.awaited (hi s hs hc)

/-- A frame that is awaited makes these calls, and no other. -/
theorem frame_drawn (hs : v.session = some s) (hc : v.canvas.hasContext = true)
    (hl : s.Live p m id) (now : Nat) :
    (v.frame id now).Meets calling [] fun a l =>
      (∃ next, a = (true, { v with session := some (s.advanced next) })) ∧
        l = [.gpu (.clear s.parameters.background), .gpu (.useProgram (some p)),
            .gpu (.bindVertexArray (some m.array))] ++
          s.uploads v.canvas.backing (s.elapsed now) ++ [.gpu s.mesh.drawing, .requestFrame] := by
  rw [frame_eq hs hc hl]
  simp only [PlacedMesh.select, Plan.meets_bind, meets_gpu]
  refine fun _ _ => ⟨trivial, fun _ _ => ⟨trivial, fun _ _ => ⟨trivial, ?_⟩⟩⟩
  refine (s.feed_calling _ _).mono ?_
  rintro _ _ rfl
  refine (Session.draw_calling s.mesh).mono ?_
  rintro _ _ rfl
  simp only [meets_note, meets_requestFrame, Plan.meets_pure]
  refine fun _ => ⟨trivial, fun next _ => ⟨trivial, ⟨next, rfl⟩, ?_⟩⟩
  simp [calling]

/-! ### Parameters -/

theorem TakesUp.parameters {change : Change} {now : Nat} {r : Except Failure Unit}
    (h : v.TakesUp change now r v') : v'.parameters = v.parameters := by
  have hr : (v.recorded change).parameters = v.parameters := by rw [recorded_eq]
  cases h <;> exact hr

/-- The parameters of a view never change. -/
theorem Performs.parameters {op : Operation} {r : Result} (h : v.Performs op r v') :
    v'.parameters = v.parameters := by
  have hr : v.retired.parameters = v.parameters := by
    unfold retired
    split <;> rfl
  cases h with
  | changes change now _ _ r _ ht => exact ht.parameters.trans hr
  | closes => exact hr
  | _ => rfl

end View

/-! ## Histories -/

namespace Course

variable {d : Device} {c : Course d}

/-- The view has the parameters it was made with, and its live session has what it needs for its
frames, looked up in what was done for the change that launched it. -/
structure Equipped (parameters : Parameters) (c : Course d) : Prop where
  sound : c.view.Sound
  parameters : c.view.parameters = parameters
  outfitted : c.view.Outfitted (Charges.of c.charges c.owner)

variable {parameters : Parameters}

/-- What was done for a change stays on its charges. -/
theorem of_charges_perform (c : Course d) (op : Operation) (number : Nat) :
    Charges.of c.charges number <:+: Charges.of (c.perform op).charges number := by
  rw [charges_perform, Charges.of_append]
  exact (List.prefix_append _ _).isInfix

/-- A session that a change has launched is outfitted by what was done for the change. -/
theorem outfitted_of_change (h : c.view.Sound) {op : Operation} {change : Change} {now : Nat}
    (hop : op.change = some (change, now)) (hr : c.view.isRedundant change = false) :
    (c.perform op).view.Outfitted (Charges.of (c.perform op).charges (c.perform op).owner) := by
  obtain ⟨hout, hcharges⟩ := c.change_outcome hop hr
  have hretired : (c.view.retire.run d.host c.host).value = c.view.retired :=
    ((View.retire_yields h).run_free (fun _ _ => trivial) d.host c.host).2
  have hnone : (c.view.retire.run d.host c.host).value.session = none := by
    rw [hretired, View.session_retired]
  have hnew := (View.takeUp_transcript hnone change now).transcript d.host
    (c.view.retire.run d.host c.host).state
  have hview : (c.perform op).view = (c.outcome op).value.2 := rfl
  intro s hs
  have howner : (c.perform op).owner = c.past.length :=
    owner_of_renews (Operation.renews_of_not_redundant hop hr) (by simp [hs])
  rw [howner, charges_perform, hcharges, Charges.of_append, Charges.of_append, Charges.of_map,
    ← List.append_assoc]
  rw [hview, hout] at hs ⊢
  exact hnew.mono (List.suffix_append _ _).isInfix s hs

theorem Equipped.perform (h : c.Equipped parameters) (op : Operation) :
    (c.perform op).Equipped parameters := by
  obtain ⟨r, hp⟩ := perform_performs h.sound op
  have hsound : (c.perform op).view.Sound := (perform_deals h.sound op).sound h.sound
  refine ⟨hsound, hp.parameters.trans h.parameters, ?_⟩
  have hstays (hop : op.retires c.view = false) :
      c.view.Outfitted (Charges.of (c.perform op).charges (c.perform op).owner) := by
    rw [owner_of_not_retires hop]
    exact h.outfitted.mono (c.of_charges_perform op c.owner)
  generalize hv : (c.perform op).view = v' at hp
  cases hp with
  | repeats change now hop hr => exact hstays (Operation.retires_of_redundant hop hr)
  | changes change now hop hr =>
    rw [← hv]
    exact outfitted_of_change h.sound hop hr
  | closes => exact View.outfitted_of_none c.view.session_retired
  | resizes size hop =>
    subst hop
    intro s hs
    obtain ⟨hparameters, hmesh, hfeeds⟩ := hstays rfl s hs
    exact ⟨hparameters, hmesh, hfeeds⟩
  | ignores id now hop =>
    subst hop
    exact hstays rfl
  | draws id now hop s next hs =>
    subst hop
    rintro _ ⟨⟩
    exact (hstays rfl s hs).advanced next

theorem Equipped.next (h : c.Equipped parameters) (i : Incident) :
    (c.next i).Equipped parameters := by
  rcases i with (op | _) | lost
  · exact h.perform op
  · refine ⟨h.sound, h.parameters, ?_⟩
    intro s hs
    rw [Course.next, step, charges_drain]
    exact h.outfitted s hs
  · refine ⟨h.sound, h.parameters, ?_⟩
    intro s hs
    obtain ⟨hparameters, hmesh, hfeeds⟩ := h.outfitted s hs
    exact ⟨hparameters, hmesh, hfeeds⟩

theorem equipped_history (device : d.State) (hasContext : Bool) (display : PixelSize)
    (parameters : Parameters) (incidents : List Incident) :
    ((start device (.onCanvas hasContext display parameters)).history incidents).Equipped
      parameters :=
  history_induction (P := Equipped parameters)
    ⟨View.sound_of_none rfl, rfl, View.outfitted_of_none rfl⟩ (fun _ i h => h.next i) incidents

/-- A frame that is drawn makes one request, the next of the queue. -/
theorem request_of_draw (hv : c.view.Sound) {s : Session} {id next : FrameId}
    (hs : c.view.session = some s) (hc : c.view.canvas.hasContext = true)
    (ha : s.awaited = some id) (now : Nat)
    (ho : ((c.view.frame id now).run d.host c.host).value.2.session = some (s.advanced next)) :
    next = c.host.queue.request.1 ∧
      ((c.view.frame id now).run d.host c.host).state.queue = c.host.queue.request.2 := by
  have hd := (View.frame_queueing (q := c.host.queue) hv id now).queue.2
  cases hd with
  | stays _ _ _ hf => exact absurd ha (hf id now rfl s hs hc)
  | ends hop => cases hop
  | begins hop => cases hop
  | draws _ _ _ s' _ _ hs' _ hv' hq =>
    rw [hs, Option.some_inj] at hs'
    subst hs'
    rw [ho, Option.some_inj] at hv'
    have hnext : (s.advanced next).awaited = (s.advanced c.host.queue.request.1).awaited := by
      rw [hv']
    exact ⟨Option.some_inj.mp hnext, hq⟩

/-- **A frame is drawn as a whole or not at all.** In every history of a view, on any device, a
frame is drawn exactly if a session is live, the canvas has a context and the callback is the one
that the session awaits.

* If it is not drawn, nothing is called, and neither the view nor its host changes.
* If it is drawn, the calls are these, in this order: to clear with the colour of the parameters, to
  make the program of the session current, to bind its vertex array, to feed each uniform that was
  found when the session was prepared, to draw what the shader code asks for, and to request a
  frame. The request is the one that is awaited next and one more frame is counted; nothing else
  changes in the view. -/
theorem frame_whole (device : d.State) (hasContext : Bool) (display : PixelSize)
    (parameters : Parameters) (incidents : List Incident) (id : FrameId) (now : Nat) :
    let c := (start device (.onCanvas hasContext display parameters)).history incidents
    let o := (c.view.frame id now).run d.host c.host
    (o.value.1 = true ↔ ∃ s, c.view.session = some s ∧ c.view.canvas.hasContext = true ∧
      s.awaited = some id) ∧
    match o.value.1 with
    | false => o.value.2 = c.view ∧ o.state = c.host ∧ Log.calls o.log = []
    | true => ∃ s p m code, c.view.session = some s ∧ s.Holds p m ∧ c.view.code = some code ∧
        s.feeds.lookups p <:+: Charges.of c.charges c.owner ∧
        Log.calls o.log =
          [.gpu (.clear parameters.background), .gpu (.useProgram (some p)),
            .gpu (.bindVertexArray (some m.array))] ++
          s.uploads c.view.canvas.backing (s.elapsed now) ++ [.gpu code.drawing, .requestFrame] ∧
        o.value.2 = { c.view with session := some { s with
          awaited := some c.host.queue.request.1, frames := s.frames + 1 } } ∧
        o.state.queue = c.host.queue.request.2 := by
  intro c o
  have hc : c.Equipped parameters :=
    equipped_history device hasContext display parameters incidents
  by_cases hi : c.view.Ignores id
  · obtain ⟨hstate, hcalls, hvalue⟩ := (View.frame_ignored hc.sound hi now).run_reporting c.host
    have hv : o.value = (false, c.view) := hvalue
    have hnot : ¬ ∃ s, c.view.session = some s ∧ c.view.canvas.hasContext = true ∧
        s.awaited = some id := by
      rintro ⟨s, hs, hcontext, ha⟩
      exact hi s hs hcontext ha
    rw [hv]
    exact ⟨iff_of_false Bool.false_ne_true hnot, rfl, hstate, hcalls⟩
  · obtain ⟨s, hs, hcontext, ha⟩ : ∃ s, c.view.session = some s ∧
        c.view.canvas.hasContext = true ∧ s.awaited = some id := by
      simpa [View.Ignores] using hi
    obtain ⟨p, m, id', hl⟩ := hc.sound s hs
    have hid : id' = id := Option.some_inj.mp (hl.awaited.symm.trans ha)
    subst hid
    obtain ⟨⟨next, hvalue⟩, hcalls⟩ :=
      calls_of_meets (View.frame_drawn hs hcontext hl now) c.host
    have hv : o.value = (true, { c.view with session := some (s.advanced next) }) := hvalue
    have hsession : o.value.2.session = some (s.advanced next) := by rw [hv]
    obtain ⟨hnext, hqueue⟩ := request_of_draw hc.sound hs hcontext ha now hsession
    obtain ⟨hparameters, ⟨code, hcode, hmesh⟩, p', m', hholds, hlookups⟩ := hc.outfitted s hs
    obtain ⟨rfl, rfl⟩ := hl.unique hholds
    rw [hparameters, hc.parameters, hmesh, code.drawing_mesh] at hcalls
    rw [hv, ← hnext]
    exact ⟨iff_of_true rfl ⟨s, hs, hcontext, ha⟩, s, p', m', code, hs, hholds, hcode, hlookups,
      hcalls, rfl, hqueue⟩

end Course

end LiveShader
