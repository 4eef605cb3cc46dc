import LiveShader.Proofs.Shift

/-!
# Everything a view does is mirrored

Whatever a view does, it does the same under larger numbers and at a later time. There is nothing in
a view that knows a number by itself: handles and frame requests are only passed on and compared,
and of the time only differences are used.

* `View.shift` is a view whose session has larger numbers and has started later.
* There is one lemma for each function of the engine; none of them needs to know anything of what
  the device replies.

Results:
* `Session.prepare_mirrors`, `Session.frame_mirrors`: the two parts of the life of a session.
* `View.perform_mirrors`: every operation.
-/

namespace LiveShader

/-! ## Larger numbers -/

/-- A mesh on the device under larger numbers. -/
def PlacedMesh.shift (k : Int) (m : PlacedMesh) : PlacedMesh :=
  ⟨m.mesh, m.array.shift k, m.vertices.shift k, m.indices.map (Handle.shift k)⟩

/-- Holdings under larger numbers. -/
def Holdings.shift (k : Int) (h : Holdings) : Holdings :=
  ⟨h.program.map (Handle.shift k), h.placed.map (PlacedMesh.shift k)⟩

/-- A session under larger numbers that has started later. -/
def Session.shift (ρ : Shift) (time : Nat) (s : Session) : Session :=
  { s with
    holdings := s.holdings.shift ρ.objects
    startedAt := s.startedAt.map (· + time)
    awaited := s.awaited.map (FrameId.shift ρ.frames) }

/-- A view whose session has larger numbers and has started later. -/
def View.shift (ρ : Shift) (time : Nat) (v : View) : View :=
  { v with session := v.session.map (Session.shift ρ time) }

open Engine

variable {ρ : Shift} {time : Nat}

theorem View.phase_shift (ρ : Shift) (time : Nat) (v : View) :
    (v.shift ρ time).phase = v.phase := by
  obtain ⟨canvas, parameters, visible, gone, code, session, lastPhase, lastFailure⟩ := v
  cases session <;> rfl

/-- Something is done or left out on both sides. -/
theorem Engine.Mirrors.forM {α : Type} {f g : α → Engine Unit} (x : Option α)
    (h : ∀ a, Mirrors ρ Eq (f a) (g a)) : Mirrors ρ Eq (x.forM f) (x.forM g) := by
  cases x with
  | none => exact .pure rfl
  | some a => exact h a

theorem Engine.Mirrors.forM_map {α β : Type} {φ : β → α} {f : α → Engine Unit}
    {g : β → Engine Unit} (x : Option β) (h : ∀ b, Mirrors ρ Eq (f (φ b)) (g b)) :
    Mirrors ρ Eq ((x.map φ).forM f) (x.forM g) := by
  cases x with
  | none => exact .pure rfl
  | some b => exact h b

/-! ## Building -/

namespace Build

theorem compile_mirrors (stage : Stage) (text : String) :
    Mirrors ρ (fun a b => a = b.map (Handle.shift ρ.objects)) (compile stage text)
      (compile stage text) := by
  refine .gpu (.createShader stage) fun r => ?_
  cases r with
  | error refusal => exact .pure rfl
  | ok shader =>
    refine .gpu (.shaderSource shader text) fun _ => ?_
    refine .gpu (.compileShader shader) fun _ => ?_
    refine .gpu (.shaderCompileStatus shader) fun compiles => ?_
    cases compiles with
    | true => exact .pure rfl
    | false =>
      refine .gpu (.shaderInfoLog shader) fun log => ?_
      refine .gpu (.deleteShader shader) fun _ => ?_
      exact .note _ _ (.pure rfl)

theorem link_mirrors (vertex fragment : Shader) :
    Mirrors ρ (fun a b => a = b.map (Handle.shift ρ.objects))
      (link (vertex.shift ρ.objects) (fragment.shift ρ.objects)) (link vertex fragment) := by
  refine .gpu .createProgram fun r => ?_
  cases r with
  | error refusal =>
    refine .gpu (.deleteShader vertex) fun _ => ?_
    refine .gpu (.deleteShader fragment) fun _ => ?_
    exact .pure rfl
  | ok program =>
    refine .gpu (.attachShader program vertex) fun _ => ?_
    refine .gpu (.attachShader program fragment) fun _ => ?_
    refine .gpu (.linkProgram program) fun _ => ?_
    refine .gpu (.programLinkStatus program) fun links => ?_
    cases links with
    | true =>
      refine .gpu (.detachShader program vertex) fun _ => ?_
      refine .gpu (.detachShader program fragment) fun _ => ?_
      refine .gpu (.deleteShader vertex) fun _ => ?_
      refine .gpu (.deleteShader fragment) fun _ => ?_
      exact .pure rfl
    | false =>
      refine .gpu (.programInfoLog program) fun log => ?_
      refine .gpu (.deleteProgram program) fun _ => ?_
      refine .gpu (.deleteShader vertex) fun _ => ?_
      refine .gpu (.deleteShader fragment) fun _ => ?_
      exact .note _ _ (.pure rfl)

theorem program_mirrors (stages : Stages) :
    Mirrors ρ (fun a b => a = b.map (Handle.shift ρ.objects)) (program stages)
      (program stages) := by
  refine (compile_mirrors .vertex stages.vertex).bind ?_
  rintro _ (e | vertex) rfl
  · exact .pure rfl
  refine (compile_mirrors .fragment stages.fragment).bind ?_
  rintro _ (e | fragment) rfl
  · exact .gpu (.deleteShader vertex) fun _ => .pure rfl
  · exact link_mirrors vertex fragment

theorem positionIndex_mirrors (program : Program) :
    Mirrors ρ Eq (positionIndex (program.shift ρ.objects)) (positionIndex program) := by
  refine .gpu (.attribLocation program Builtin.positionAttribute) fun index => ?_
  cases index with
  | none => exact .note _ _ (.pure rfl)
  | some index => exact .pure rfl

theorem placeIndices_mirrors (mesh : Mesh) (array : VertexArray) (vertices : Buffer) :
    Mirrors ρ (fun a b => a = b.map (Option.map (Handle.shift ρ.objects)))
      (placeIndices mesh (array.shift ρ.objects) (vertices.shift ρ.objects))
      (placeIndices mesh array vertices) := by
  unfold placeIndices
  cases mesh.isIndexed with
  | false => exact .pure rfl
  | true =>
    refine .gpu .createBuffer fun r => ?_
    cases r with
    | error refusal =>
      refine .gpu (.bindVertexArray none) fun _ => ?_
      refine .gpu (.deleteVertexArray array) fun _ => ?_
      refine .gpu (.deleteBuffer vertices) fun _ => ?_
      exact .pure rfl
    | ok indices =>
      refine .gpu (.bindBuffer .elementArray (some indices)) fun _ => ?_
      refine .gpu (.bufferData .elementArray mesh.indexData) fun _ => ?_
      exact .pure rfl

theorem place_mirrors (program : Program) (mesh : Mesh) :
    Mirrors ρ (fun a b => a = b.map (PlacedMesh.shift ρ.objects))
      (place (program.shift ρ.objects) mesh) (place program mesh) := by
  refine .gpu .createVertexArray fun r => ?_
  cases r with
  | error refusal => exact .pure rfl
  | ok array =>
    refine .gpu (.bindVertexArray (some array)) fun _ => ?_
    refine .gpu .createBuffer fun r => ?_
    cases r with
    | error refusal =>
      refine .gpu (.bindVertexArray none) fun _ => ?_
      refine .gpu (.deleteVertexArray array) fun _ => ?_
      exact .pure rfl
    | ok vertices =>
      refine .gpu (.bindBuffer .array (some vertices)) fun _ => ?_
      refine .gpu (.bufferData .array mesh.vertexData) fun _ => ?_
      refine (positionIndex_mirrors program).bind ?_
      rintro index _ rfl
      refine .gpu (.floatAttribute index mesh.dimension) fun _ => ?_
      refine (placeIndices_mirrors mesh array vertices).bind ?_
      rintro _ (e | indices) rfl
      · exact .pure rfl
      · exact .note _ _ (.pure rfl)

theorem deleteProgram_mirrors (program : Program) :
    Mirrors ρ Eq (deleteProgram (program.shift ρ.objects)) (deleteProgram program) :=
  .gpu (.useProgram none) fun _ => .gpu (.deleteProgram program) fun _ => .pure rfl

theorem programAndMesh_mirrors (stages : Stages) :
    Mirrors ρ
      (fun a b => a = b.map (Prod.map (Handle.shift ρ.objects) (PlacedMesh.shift ρ.objects)))
      (programAndMesh stages) (programAndMesh stages) := by
  refine (program_mirrors stages).bind ?_
  rintro _ (e | program) rfl
  · exact .pure rfl
  refine .gpu (.useProgram (some program)) fun _ => ?_
  refine (place_mirrors program stages.mesh).bind ?_
  rintro _ (e | placed) rfl
  · exact (deleteProgram_mirrors program).bind fun _ _ _ => .pure rfl
  · exact .pure rfl

end Build

/-! ## Sessions -/

theorem PlacedMesh.select_mirrors (m : PlacedMesh) :
    Mirrors ρ Eq (m.shift ρ.objects).select m.select :=
  .gpu (.bindVertexArray (some m.array)) fun _ => .pure rfl

theorem PlacedMesh.delete_mirrors (m : PlacedMesh) :
    Mirrors ρ Eq (m.shift ρ.objects).delete m.delete := by
  refine .gpu (.bindVertexArray none) fun _ => ?_
  refine .gpu (.deleteVertexArray m.array) fun _ => ?_
  refine .gpu (.deleteBuffer m.vertices) fun _ => ?_
  exact .forM_map m.indices fun indices => .gpu (.deleteBuffer indices) fun _ => .pure rfl

theorem Holdings.giveUp_mirrors (h : Holdings) :
    Mirrors ρ (fun a b => a = b.shift ρ.objects) (h.shift ρ.objects).giveUp h.giveUp := by
  refine (Mirrors.forM_map h.program Build.deleteProgram_mirrors).bind fun _ _ _ => ?_
  refine (Mirrors.forM_map h.placed PlacedMesh.delete_mirrors).bind fun _ _ _ => ?_
  exact .pure rfl

theorem Feeds.ofProgram_mirrors (program : Program) :
    Mirrors ρ Eq (ofProgram (program.shift ρ.objects)) (ofProgram program) := by
  refine .gpu (.uniformLocation program Builtin.timeUniform) fun _ => ?_
  refine .gpu (.uniformLocation program Builtin.resolutionUniform) fun _ => ?_
  refine .gpu (.uniformLocation program Builtin.cameraUniform) fun _ => ?_
  exact .pure rfl

namespace Session

theorem prepare_mirrors (time : Nat) (stages : Stages) (parameters : Parameters) :
    Mirrors ρ (fun a b => a = b.map (Session.shift ρ time)) (prepare stages parameters)
      (prepare stages parameters) := by
  refine .note _ _ ?_
  refine (Build.programAndMesh_mirrors stages).bind ?_
  rintro _ (e | ⟨program, placed⟩) rfl
  · exact .note _ _ (.pure rfl)
  refine .note _ _ ?_
  refine (Feeds.ofProgram_mirrors program).bind ?_
  rintro feeds _ rfl
  exact .pure rfl

theorem start_mirrors (s : Session) (now : Nat) :
    Mirrors ρ (fun a b => a = b.shift ρ time) ((s.shift ρ time).start (now + time))
      (s.start now) := by
  obtain ⟨holdings, mesh, feeds, parameters, phase, startedAt, awaited, frames⟩ := s
  cases phase with
  | linked =>
    refine (Mirrors.forM_map holdings.placed PlacedMesh.select_mirrors).bind fun _ _ _ => ?_
    refine .gpu .enableDepthAndCulling fun _ => ?_
    refine .requestFrame fun id => ?_
    exact .note _ _ (.note _ _ (.pure rfl))
  | _ => exact .note _ _ (.pure rfl)

/-- Only differences of times are used. -/
theorem elapsed_shift (s : Session) (now : Nat) :
    (s.shift ρ time).elapsed (now + time) = s.elapsed now := by
  obtain ⟨holdings, mesh, feeds, parameters, phase, startedAt, awaited, frames⟩ := s
  cases startedAt with
  | none => rfl
  | some start => simp [shift, elapsed, Nat.add_sub_add_right]

theorem feed_mirrors (s : Session) (size : PixelSize) (elapsed : Float32) :
    Mirrors ρ Eq ((s.shift ρ time).feed size elapsed) (s.feed size elapsed) := by
  refine (Mirrors.forM s.feeds.time fun location => ?_).bind fun _ _ _ => ?_
  · exact .gpu (.uniformFloat location elapsed) fun _ => .pure rfl
  refine (Mirrors.forM s.feeds.resolution fun location => ?_).bind fun _ _ _ => ?_
  · exact .gpu (.uniformVec2 location size.width.toFloat32 size.height.toFloat32) fun _ => .pure rfl
  refine .forM s.feeds.camera fun location => ?_
  exact .gpu (.uniformMat4 location (s.parameters.cameraMatrix size.aspect elapsed)) fun _ =>
    .pure rfl

theorem draw_mirrors (mesh : Mesh) : Mirrors ρ Eq (draw mesh) (draw mesh) := by
  unfold draw
  split
  · exact .gpu (.drawElements mesh.elementCount) fun _ => .pure rfl
  · exact .gpu (.drawArrays mesh.elementCount) fun _ => .pure rfl

/-- A callback is awaited under larger numbers exactly if it is awaited. -/
theorem awaits_shift (s : Session) {n f : Nat} (id : FrameId) :
    ((s.shift (.up n f) time).phase = .rendering ∧
        (s.shift (.up n f) time).awaited = some (id.shift f)) ↔
      s.phase = .rendering ∧ s.awaited = some id := by
  obtain ⟨holdings, mesh, feeds, parameters, phase, startedAt, awaited, frames⟩ := s
  cases awaited <;> simp [shift, Shift.up]

theorem frame_mirrors (s : Session) {n f : Nat} (id : FrameId) (size : PixelSize) (now : Nat) :
    Mirrors (.up n f) (fun a b => a = (b.1, b.2.shift (.up n f) time))
      ((s.shift (.up n f) time).frame (id.shift f) size (now + time)) (s.frame id size now) := by
  unfold frame
  by_cases h : s.phase = .rendering ∧ s.awaited = some id
  · rw [if_pos h, if_pos (s.awaits_shift id |>.mpr h), s.elapsed_shift now]
    obtain ⟨⟨program, placed⟩, mesh, feeds, parameters, phase, startedAt, awaited, frames⟩ := s
    cases program with
    | none => exact .pure rfl
    | some program =>
      cases placed with
      | none => exact .pure rfl
      | some placed =>
        refine .gpu (.clear parameters.background) fun _ => ?_
        refine .gpu (.useProgram (some program)) fun _ => ?_
        refine placed.select_mirrors.bind fun _ _ _ => ?_
        refine (feed_mirrors _ size _).bind fun _ _ _ => ?_
        refine (draw_mirrors mesh).bind fun _ _ _ => ?_
        exact .note _ _ (.requestFrame fun next => .pure rfl)
  · rw [if_neg h, if_neg (mt (s.awaits_shift id).mp h)]
    exact .note _ _ (.pure rfl)

theorem revoke_mirrors (s : Session) :
    Mirrors ρ (fun a b => a = b.shift ρ time) (s.shift ρ time).revoke s.revoke := by
  obtain ⟨holdings, mesh, feeds, parameters, phase, startedAt, awaited, frames⟩ := s
  cases awaited with
  | none => exact .pure rfl
  | some id => exact .note _ _ (.cancelFrame id (.pure rfl))

theorem close_mirrors (s : Session) :
    Mirrors ρ (fun a b => a = b.shift ρ time) (s.shift ρ time).close s.close := by
  refine s.revoke_mirrors.bind ?_
  rintro _ s rfl
  refine s.holdings.giveUp_mirrors.bind ?_
  rintro _ holdings rfl
  obtain ⟨_, mesh, feeds, parameters, phase, startedAt, awaited, frames⟩ := s
  cases h : phase.isTerminal <;> simp only [shift, h]
  · exact .note _ _ (.pure rfl)
  · exact .pure rfl

end Session

/-! ## Views -/

namespace View

variable (v : View)

/-- The value of an operation under larger numbers. -/
def shiftValue {α : Type} (ρ : Shift) (time : Nat) (x : α × View) : α × View :=
  (x.1, x.2.shift ρ time)

theorem fail_mirrors {v v' : View} {e : Failure} (h : v.failed e = (v'.failed e).shift ρ time) :
    Mirrors ρ (fun a b => a = shiftValue ρ time b) (v.fail e) (v'.fail e) :=
  .note _ _ (.pure (congrArg (Prod.mk _) h))

theorem retire_mirrors :
    Mirrors ρ (fun a b => a = b.shift ρ time) (v.shift ρ time).retire v.retire := by
  obtain ⟨canvas, parameters, visible, gone, code, session, lastPhase, lastFailure⟩ := v
  cases session with
  | none => exact .pure rfl
  | some s =>
    have hrelease : Mirrors ρ (fun _ _ => True)
        (release ⟨canvas, parameters, visible, gone, code, some (s.shift ρ time), lastPhase,
          lastFailure⟩ (s.shift ρ time))
        (release ⟨canvas, parameters, visible, gone, code, some s, lastPhase, lastFailure⟩ s) := by
      unfold release
      cases canvas.hasContext with
      | true => exact s.close_mirrors.discard
      | false => exact s.revoke_mirrors.discard.bind fun _ _ _ => .note _ _ (.pure trivial)
    exact hrelease.bind fun _ _ _ => .pure rfl

/-- What a launch sees of a view: neither the size of the backing store nor how far the last attempt
came. -/
def anew (v : View) : View :=
  { v with canvas := v.canvas.adopt, lastPhase := .idle }

theorem launch_mirrors {v v' : View} (h : v.anew = v'.anew.shift ρ time) (code : ShaderCode)
    (now : Nat) :
    Mirrors ρ (fun a b => a = shiftValue ρ time b) (v.launch code (now + time))
      (v'.launch code now) := by
  obtain ⟨⟨created, lost, display, backing⟩, parameters, visible, gone, rendered, session,
    lastPhase, lastFailure⟩ := v
  obtain ⟨⟨created', lost', display', backing'⟩, parameters', visible', gone', rendered', session',
    lastPhase', lastFailure'⟩ := v'
  simp only [anew, shift, Canvas.adopt, View.mk.injEq, Canvas.mk.injEq] at h
  obtain ⟨⟨rfl, rfl, rfl, -⟩, rfl, rfl, rfl, rfl, rfl, -, rfl⟩ := h
  unfold launch fit
  simp only [bind_assoc, pure_bind, Canvas.hasContext, Canvas.adopt]
  refine .noteIf _ _ _ _ ?_
  cases created && !lost with
  | false => exact fail_mirrors rfl
  | true =>
    refine .gpu (.viewport display.viewport.1 display.viewport.2) fun _ => ?_
    refine (Session.prepare_mirrors time code.stages parameters).bind ?_
    rintro _ (e | session) rfl
    · exact fail_mirrors rfl
    · refine (session.start_mirrors now).bind ?_
      rintro _ session rfl
      exact .pure rfl

theorem record_shift (ρ : Shift) (time : Nat) (change : Change) :
    (v.shift ρ time).record change = shiftValue ρ time (v.record change) := by
  cases change with
  | answered answer =>
    simp only [record, shiftValue, shift]
    cases answer.codeToRender <;> rfl
  | _ => rfl

theorem takeUp_mirrors (change : Change) (now : Nat) :
    Mirrors ρ (fun a b => a = shiftValue ρ time b) ((v.shift ρ time).takeUp change (now + time))
      (v.takeUp change now) := by
  unfold takeUp
  have hrecord := record_shift { v with lastFailure := none } ρ time change
  change { v.shift ρ time with lastFailure := none }.record change = _ at hrecord
  rw [hrecord]
  generalize View.record { v with lastFailure := none } change = x
  obtain ⟨r, w⟩ := x
  cases r with
  | error e => exact fail_mirrors rfl
  | ok _ =>
    obtain ⟨canvas, parameters, visible, gone, code, session, lastPhase, lastFailure⟩ := w
    simp only [shiftValue, shift]
    cases visible && !gone with
    | false => exact .pure rfl
    | true =>
      cases code with
      | none => exact .pure rfl
      | some code => exact launch_mirrors rfl code now

theorem react_mirrors (change : Change) (now : Nat) :
    Mirrors ρ (fun a b => a = shiftValue ρ time b) ((v.shift ρ time).react change (now + time))
      (v.react change now) := by
  have hredundant : (v.shift ρ time).isRedundant change = v.isRedundant change := by
    cases change <;> rfl
  unfold react
  rw [hredundant]
  cases v.isRedundant change with
  | true => exact .pure rfl
  | false =>
    refine v.retire_mirrors.bind ?_
    rintro _ v rfl
    exact v.takeUp_mirrors change now

theorem close_mirrors :
    Mirrors ρ (fun a b => a = b.shift ρ time) (v.shift ρ time).close v.close := by
  refine .noteIf _ _ _ _ ?_
  refine v.retire_mirrors.bind ?_
  rintro _ v rfl
  exact .pure rfl

theorem frame_mirrors {n f : Nat} (id : FrameId) (now : Nat) :
    Mirrors (.up n f) (fun a b => a = shiftValue (.up n f) time b)
      ((v.shift (.up n f) time).frame (id.shift f) (now + time)) (v.frame id now) := by
  obtain ⟨canvas, parameters, visible, gone, code, session, lastPhase, lastFailure⟩ := v
  unfold frame
  simp only [shift]
  cases session with
  | none => exact .note _ _ (.pure rfl)
  | some s =>
    cases canvas.hasContext with
    | false => exact .note _ _ (.pure rfl)
    | true =>
      refine (s.frame_mirrors id canvas.backing now).bind ?_
      rintro _ ⟨drawn, s⟩ rfl
      exact .pure rfl

end View

/-! ## Operations -/

/-- An operation at a later time, on frame requests with larger numbers. -/
def Operation.shift (k : Int) (time : Nat) : Operation → Operation
  | .react change now => .react change (now + time)
  | .submit answer now => .submit answer (now + time)
  | .render code now => .render code (now + time)
  | .setVisible visible now => .setVisible visible (now + time)
  | .close => .close
  | .frame id now => .frame (id.shift k) (now + time)
  | .resize size => .resize size

/-- **Every operation is mirrored.** -/
theorem View.perform_mirrors (v : View) {n f : Nat} (op : Operation) :
    Mirrors (.up n f) (fun a b => a = shiftValue (.up n f) time b)
      ((v.shift (.up n f) time).perform (op.shift f time)) (v.perform op) := by
  cases op with
  | close =>
    refine v.close_mirrors.bind ?_
    rintro _ v rfl
    exact .pure rfl
  | frame id now =>
    refine (v.frame_mirrors id now).bind ?_
    rintro _ ⟨drawn, v⟩ rfl
    exact .pure rfl
  | resize size => exact .pure rfl
  | _ =>
    refine (v.react_mirrors _ _).bind ?_
    rintro _ ⟨r, v⟩ rfl
    exact .pure rfl

end LiveShader
