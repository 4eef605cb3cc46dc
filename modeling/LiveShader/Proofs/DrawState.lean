import LiveShader.Proofs.Building
import LiveShader.Proofs.OverGl

/-!
# What the pipeline is set to when something is drawn

What a draw depends on is set at different times: the locations and the vertex array when a session
is prepared, the fixed functions when it starts, the viewport when it is launched, the current
program and the bound vertex array with each frame.

* `Gl.Pipeline.Suits` says that the pipeline is set for a session. Launching a session makes it so
  (`View.launch_painting`), and frames keep it so (`View.frame_painting`).
* Retiring a session may leave any pipeline at all behind, and so may an attempt that fails: what
  the next session needs is set anew.
* The predicate `P` of the contract `painting P` says what calls that draw or upload may count on.
  Only frames make such calls, so `P` is of no concern to the rest.

Results:
* `View.perform_painting`: what draws and uploads may count on in one operation.
* `Gl.Course.draws_set_up`: the same of every draw and upload in every course, on any context.
-/

namespace LiveShader

open Engine Gl

/-! ## What the pipeline is set to -/

namespace Gl.Pipeline

/-- The vertex array of a mesh feeds its positions to a program, wherever that keeps them. -/
structure Placed (p : Pipeline) (program : Program) (m : PlacedMesh) : Prop where
  /-- A program that does not name the positions gets them at its first attribute. -/
  position : ∃ found, p.attributes program.id Builtin.positionAttribute = some found ∧
    (p.arrays m.array.id).enabled (found.getD 0) = true ∧
    (p.arrays m.array.id).pointers (found.getD 0) =
      some ⟨m.vertices.id, m.mesh.dimension, float, false, 0, 0⟩
  elements : ∀ i, m.indices = some i → (p.arrays m.array.id).elements = i.id
  /-- A context may give a buffer the name of one that exists. Then it has the contents that it got
  last. -/
  contents : m.indices ≠ some m.vertices → p.buffers m.vertices.id = some m.mesh.vertexData
  indexContents : ∀ i, m.indices = some i → p.buffers i.id = some m.mesh.indexData

/-- A program was asked where the uniforms of a frame are. -/
structure Fed (p : Pipeline) (program : Program) (feeds : Feeds) : Prop where
  time : p.uniforms program.id Builtin.timeUniform =
    some (feeds.time.map UniformLocation.index)
  resolution : p.uniforms program.id Builtin.resolutionUniform =
    some (feeds.resolution.map UniformLocation.index)
  camera : p.uniforms program.id Builtin.cameraUniform =
    some (feeds.camera.map UniformLocation.index)

/-- Depths are tested, and triangles that are seen clockwise are dropped. -/
structure Culls (p : Pipeline) : Prop where
  testsDepth : p.capabilities depthTest = true
  cullsFaces : p.capabilities cullFaces = true
  frontFace : p.frontFace = counterClockwise
  culledFace : p.culledFace = back

/-- The pipeline is set for a program and a mesh that are drawn to a backing store of some size. -/
structure Suits (p : Pipeline) (backing : PixelSize) (program : Program) (m : PlacedMesh)
    (feeds : Feeds) : Prop where
  placed : p.Placed program m
  fed : p.Fed program feeds
  culls : p.Culls
  viewport : p.viewport = (0, 0, backing.viewport)

variable {p p' : Pipeline} {program : Program} {m : PlacedMesh} {feeds : Feeds}
  {backing : PixelSize}

theorem Placed.congr (h : p.Placed program m) (hattributes : p'.attributes = p.attributes)
    (harrays : p'.arrays = p.arrays) (hbuffers : p'.buffers = p.buffers) : p'.Placed program m where
  position := by rw [hattributes, harrays]; exact h.position
  elements := by rw [harrays]; exact h.elements
  contents := by rw [hbuffers]; exact h.contents
  indexContents := by rw [hbuffers]; exact h.indexContents

/-- What is current and bound is set with each frame. -/
theorem Suits.bind (h : p.Suits backing program m feeds) (current bound : Nat) :
    { p with program := current, array := bound }.Suits backing program m feeds where
  placed := h.placed.congr rfl rfl rfl
  fed := ⟨h.fed.time, h.fed.resolution, h.fed.camera⟩
  culls := ⟨h.culls.testsDepth, h.culls.cullsFaces, h.culls.frontFace, h.culls.culledFace⟩
  viewport := h.viewport

/-- Starting a session completes what the pipeline needs for it. -/
theorem suits_started (hplaced : p.Placed program m) (hfed : p.Fed program feeds)
    (hviewport : p.viewport = (0, 0, backing.viewport)) {array : Option VertexArray}
    {a : (Request.bindVertexArray array).Reply} {b : Request.enableDepthAndCulling.Reply} :
    ((p.request (.bindVertexArray array) a).request .enableDepthAndCulling b).Suits backing
      program m feeds where
  placed := hplaced.congr rfl rfl rfl
  fed := ⟨hfed.time, hfed.resolution, hfed.camera⟩
  culls := ⟨by simp [request, depthTest, cullFaces], by simp [request], rfl, rfl⟩
  viewport := hviewport

end Gl.Pipeline

/-- The call that draws a mesh. -/
def Mesh.drawCall (mesh : Mesh) : Call :=
  if mesh.isIndexed then .drawElements triangles mesh.elementCount unsignedShort 0
  else .drawArrays triangles 0 mesh.elementCount

/-- The uploads and the draw of a frame. Uploads go to locations that were found on the program that
is current. -/
inductive Session.Paints (s : Session) (backing : PixelSize) (elapsed : Float32) (p : Pipeline) :
    Call → Prop
  | time {n : Nat} (h : p.uniforms p.program Builtin.timeUniform = some (some n)) :
      Paints s backing elapsed p (.uniform1f n elapsed)
  | resolution {n : Nat} (h : p.uniforms p.program Builtin.resolutionUniform = some (some n)) :
      Paints s backing elapsed p
        (.uniform2f n backing.width.toFloat32 backing.height.toFloat32)
  | camera {n : Nat} (h : p.uniforms p.program Builtin.cameraUniform = some (some n)) :
      Paints s backing elapsed p
        (.uniformMatrix4fv n false (s.parameters.cameraMatrix backing.aspect elapsed))
  | draw : Paints s backing elapsed p s.mesh.drawCall

namespace View

/-- A call is part of the picture that a view draws for the callback `id`, and the pipeline is set
for it. -/
def Paints (v : View) (id : FrameId) (now : Nat) (p : Pipeline) (c : Call) : Prop :=
  ∃ s program m, v.session = some s ∧ s.Live program m id ∧
    p.program = program.id ∧ p.array = m.array.id ∧ p.Suits v.canvas.backing program m s.feeds ∧
    s.Paints v.canvas.backing (s.elapsed now) p c

/-- If a session is live the pipeline is set for it. -/
def Suited (v : View) (p : Pipeline) : Prop :=
  ∀ s, v.session = some s → ∃ program m id, s.Live program m id ∧
    p.Suits v.canvas.backing program m s.feeds

theorem suited_of_none {v : View} (h : v.session = none) (p : Pipeline) : v.Suited p := by
  intro s hs
  rw [h] at hs
  cases hs

theorem Suited.sound {v : View} {p : Pipeline} (h : v.Suited p) : v.Sound := by
  intro s hs
  obtain ⟨program, m, id, hl, -⟩ := h s hs
  exact ⟨program, m, id, hl⟩

end View

/-! ## Requests -/

variable {P : Pipeline → Call → Prop} {p : Pipeline}

theorem painting_ignoresNotes : (painting P).IgnoresNotes :=
  fun _ _ _ => ⟨rfl, fun _ _ h => by cases h⟩

/-- A request has its meaning, and what is demanded of pictures holds if it is one. -/
@[simp 1100] theorem meets_painting {r : Request} {post : r.Reply → Pipeline → Prop} :
    @Plan.Meets _ _ _ (no_index _) (painting P) (gpu r) p post ↔
      ∀ reply, (∀ c, picture? r = some c → P p c) ∧ post reply (p.request r reply) := by
  rw [meets_gpu]
  refine forall_congr' fun reply => ?_
  constructor
  · intro h
    exact ⟨fun c hc => (h trivial).1 r c rfl hc, (h trivial).2⟩
  · rintro ⟨hp, h⟩ -
    refine ⟨?_, h⟩
    rintro _ c ⟨⟩ hc
    exact hp c hc

/-- A request that is no picture only has its meaning. -/
theorem meets_quiet {r : Request} (hr : picture? r = none) {post : r.Reply → Pipeline → Prop} :
    @Plan.Meets _ _ _ (no_index _) (painting P) (gpu r) p post ↔
      ∀ reply, post reply (p.request r reply) := by
  simp only [meets_painting, hr, reduceCtorEq, false_imp_iff, implies_true, true_and]

@[simp 1100] theorem meets_painting_note {n : Notice} {post : Unit → Pipeline → Prop} :
    (note n).Meets (painting P) p post ↔ post () p := by
  rw [meets_note]
  constructor
  · exact fun h => (h trivial).2
  · exact fun h _ => ⟨fun _ _ hq => (by cases hq), h⟩

@[simp 1100] theorem meets_painting_requestFrame {post : FrameId → Pipeline → Prop} :
    requestFrame.Meets (painting P) p post ↔ ∀ id, post id p := by
  rw [meets_requestFrame]
  refine forall_congr' fun id => ?_
  constructor
  · exact fun h => (h trivial).2
  · exact fun h _ => ⟨fun _ _ hq => (by cases hq), h⟩

@[simp 1100] theorem meets_painting_cancelFrame {id : FrameId} {post : Unit → Pipeline → Prop} :
    (cancelFrame id).Meets (painting P) p post ↔ post () p := by
  rw [meets_cancelFrame]
  constructor
  · exact fun h => (h trivial).2
  · exact fun h _ => ⟨fun _ _ hq => (by cases hq), h⟩

/-! ## Building -/

namespace Gl.Pipeline

/-- The pipeline after a buffer was made, bound and filled. -/
def afterFilling (p : Pipeline) (target : BufferTarget) (buffer : Buffer) (data : List UInt8) :
    Pipeline :=
  { p.bindBuffer (targetKind target) buffer.id with
    buffers := Function.update p.buffers buffer.id (some data) }

theorem afterFilling_array (buffer : Buffer) (data : List UInt8) :
    p.afterFilling .array buffer data =
      { p with
        vertices := buffer.id
        buffers := Function.update p.buffers buffer.id (some data) } := rfl

theorem afterFilling_elementArray (buffer : Buffer) (data : List UInt8) :
    p.afterFilling .elementArray buffer data =
      { p with
        arrays := Function.update p.arrays p.array { p.arrays p.array with elements := buffer.id }
        buffers := Function.update p.buffers buffer.id (some data) } := rfl

/-- The pipeline after an index buffer was made and filled, if any was. -/
def afterIndexing (p : Pipeline) (mesh : Mesh) : Option Buffer → Pipeline
  | none => p
  | some indices => p.afterFilling .elementArray indices mesh.indexData

/-- The pipeline after a mesh was placed for a program that keeps its positions at `found`. -/
def afterPlacing (p : Pipeline) (program : Program) (found : Option Nat) (m : PlacedMesh) :
    Pipeline :=
  let p := { p with arrays := Function.update p.arrays m.array.id {}, array := m.array.id }
  let p := p.afterFilling .array m.vertices m.mesh.vertexData
  let p := p.learnAttribute program.id Builtin.positionAttribute found
  let p := p.enableAttribute (found.getD 0)
  let p := p.pointAttribute (found.getD 0)
    ⟨m.vertices.id, m.mesh.dimension, float, false, 0, 0⟩
  p.afterIndexing m.mesh m.indices

theorem request_createVertexArray (array : VertexArray) :
    p.request .createVertexArray (.ok array) =
      { p with arrays := Function.update p.arrays array.id {} } :=
  if_neg (Nat.pos_iff_ne_zero.mp array.positive)

theorem request_filling {target : BufferTarget} {buffer : Buffer} {data : List UInt8}
    {a : (Request.bindBuffer target (some buffer)).Reply}
    {b : (Request.bufferData target data).Reply} :
    ((p.request .createBuffer (.ok buffer)).request (.bindBuffer target (some buffer)) a).request
      (.bufferData target data) b = p.afterFilling target buffer data := by
  have hb : buffer.id ≠ 0 := Nat.pos_iff_ne_zero.mp buffer.positive
  cases target <;>
    simp [request, next, createdName, nameOf, targetKind, addBuffer, bindBuffer, fill, boundAt, hb,
      afterFilling, arrayBuffer, elementArrayBuffer, onArray]

theorem viewport_afterPlacing (program : Program) (found : Option Nat) (m : PlacedMesh) :
    (p.afterPlacing program found m).viewport = p.viewport := by
  unfold afterPlacing
  cases m.indices <;> rfl

/-- The index buffer goes to the vertex array that is bound, and leaves the rest of it alone. -/
theorem placed_afterIndexing {program : Program} {m : PlacedMesh} (found : Option Nat)
    (hbound : p.array = m.array.id)
    (hfound : p.attributes program.id Builtin.positionAttribute = some found)
    (henabled : (p.arrays m.array.id).enabled (found.getD 0) = true)
    (hpointer : (p.arrays m.array.id).pointers (found.getD 0) =
      some ⟨m.vertices.id, m.mesh.dimension, float, false, 0, 0⟩)
    (hcontents : p.buffers m.vertices.id = some m.mesh.vertexData) :
    (p.afterIndexing m.mesh m.indices).Placed program m := by
  cases hi : m.indices with
  | none =>
    exact ⟨⟨found, hfound, henabled, hpointer⟩, by simp [hi], fun _ => hcontents, by simp [hi]⟩
  | some indices =>
    have harray : (p.afterIndexing m.mesh (some indices)).arrays m.array.id =
        { p.arrays m.array.id with elements := indices.id } := by
      simp [afterIndexing, afterFilling_elementArray, hbound]
    refine ⟨⟨found, hfound, ?_, ?_⟩, ?_, fun hne => ?_, ?_⟩
    · rw [harray]
      exact henabled
    · rw [harray]
      exact hpointer
    · simp [harray, hi]
    · have hid : m.vertices.id ≠ indices.id := fun h =>
        hne (hi.trans (congrArg some (Handle.id_inj h.symm)))
      simpa [afterIndexing, afterFilling_elementArray, hid] using hcontents
    · simp [afterIndexing, afterFilling_elementArray, hi]

theorem placed_afterPlacing (p : Pipeline) (program : Program) (found : Option Nat)
    (m : PlacedMesh) : (p.afterPlacing program found m).Placed program m := by
  refine placed_afterIndexing found rfl ?_ ?_ ?_ ?_ <;>
    simp [pointAttribute, enableAttribute, onArray, learnAttribute, afterFilling_array]

end Gl.Pipeline

namespace Build

theorem compile_painting (stage : Stage) (text : String) :
    (compile stage text).Meets (painting P) p fun _ p' => p' = p := by
  unfold compile
  rw [Plan.meets_bind, meets_quiet rfl]
  rintro (refusal | shader)
  · simp [Pipeline.request]
  · simp [Pipeline.request]

theorem link_painting (vertex fragment : Shader) :
    (link vertex fragment).Meets (painting P) p fun r p' =>
      ∀ program, r = .ok program → p'.viewport = p.viewport := by
  unfold link
  rw [Plan.meets_bind, meets_quiet rfl]
  rintro (refusal | program)
  · simp
  · simp [Pipeline.request, Pipeline.next, Pipeline.forgetLocations]

theorem program_painting (stages : Stages) :
    (program stages).Meets (painting P) p fun r p' =>
      ∀ program, r = .ok program → p'.viewport = p.viewport := by
  unfold program
  rw [Plan.meets_bind]
  refine (compile_painting _ _).mono fun r p' hp => ?_
  subst hp
  cases r with
  | error e => simp
  | ok vertex =>
    dsimp only
    rw [Plan.meets_bind]
    refine (compile_painting _ _).mono fun r p' hp => ?_
    subst hp
    cases r with
    | error e => simp
    | ok fragment => exact link_painting vertex fragment

theorem positionIndex_painting (program : Program) :
    (positionIndex program).Meets (painting P) p fun index p' => ∃ found : Option Nat,
      index = found.getD 0 ∧ p' = p.learnAttribute program.id Builtin.positionAttribute found := by
  unfold positionIndex
  rw [Plan.meets_bind, meets_quiet rfl]
  rintro (_ | index)
  · dsimp only
    rw [Plan.meets_bind, meets_painting_note]
    exact ⟨none, rfl, rfl⟩
  · exact ⟨some index, rfl, rfl⟩

theorem placeIndices_painting (mesh : Mesh) (array : VertexArray) (vertices : Buffer) :
    (placeIndices mesh array vertices).Meets (painting P) p fun r p' =>
      ∀ indices, r = .ok indices → p' = p.afterIndexing mesh indices := by
  unfold placeIndices
  cases mesh.isIndexed with
  | false =>
    rintro _ ⟨⟩
    rfl
  | true =>
    dsimp only
    rw [Plan.meets_bind, meets_quiet rfl]
    rintro (refusal | indices)
    · simp
    · dsimp only
      rw [Plan.meets_bind, meets_quiet rfl]
      intro _
      rw [Plan.meets_bind, meets_quiet rfl]
      rintro _ _ ⟨⟩
      exact Pipeline.request_filling

theorem place_painting (program : Program) (mesh : Mesh) :
    (place program mesh).Meets (painting P) p fun r p' =>
      ∀ m, r = .ok m → ∃ found, p' = p.afterPlacing program found m := by
  unfold place
  rw [Plan.meets_bind, meets_quiet rfl]
  rintro (refusal | array)
  · simp
  dsimp only
  rw [Plan.meets_bind, meets_quiet rfl]
  intro _
  rw [Plan.meets_bind, meets_quiet rfl]
  rintro (refusal | vertices)
  · simp
  dsimp only
  rw [Plan.meets_bind, meets_quiet rfl]
  intro _
  rw [Plan.meets_bind, meets_quiet rfl]
  intro _
  rw [Plan.meets_bind]
  refine (positionIndex_painting program).mono fun index p' hp => ?_
  obtain ⟨found, rfl, rfl⟩ := hp
  rw [Plan.meets_bind, meets_quiet rfl]
  intro _
  rw [Plan.meets_bind]
  refine (placeIndices_painting mesh array vertices).mono fun r p' hp => ?_
  cases r with
  | error e => simp
  | ok indices =>
    rw [hp indices rfl]
    simp only [Plan.meets_bind, meets_painting_note, Plan.meets_pure]
    rintro m ⟨⟩
    rw [Pipeline.request_createVertexArray, Pipeline.request_filling]
    exact ⟨found, rfl⟩

theorem programAndMesh_painting (stages : Stages) :
    (programAndMesh stages).Meets (painting P) p fun r p' => ∀ program m, r = .ok (program, m) →
      p'.Placed program m ∧ p'.viewport = p.viewport := by
  unfold programAndMesh
  rw [Plan.meets_bind]
  refine (program_painting stages).mono fun r p' hp => ?_
  cases r with
  | error e => simp
  | ok program =>
    dsimp only
    rw [Plan.meets_bind, meets_quiet rfl]
    intro _
    rw [Plan.meets_bind]
    refine (place_painting program stages.mesh).mono fun r p'' hp' => ?_
    cases r with
    | error e => simp [deleteProgram]
    | ok placed =>
      obtain ⟨found, rfl⟩ := hp' placed rfl
      rintro _ _ ⟨⟩
      refine ⟨Pipeline.placed_afterPlacing _ _ _ _, ?_⟩
      rw [Pipeline.viewport_afterPlacing]
      exact hp program rfl

end Build

/-! ## Sessions -/

theorem Feeds.ofProgram_painting (program : Program) :
    (ofProgram program).Meets (painting P) p fun feeds p' => p'.Fed program feeds ∧
      p'.viewport = p.viewport ∧ ∀ m, p.Placed program m → p'.Placed program m := by
  unfold ofProgram
  rw [Plan.meets_bind, meets_quiet rfl]
  intro time
  rw [Plan.meets_bind, meets_quiet rfl]
  intro resolution
  rw [Plan.meets_bind, meets_quiet rfl]
  intro camera
  rw [Plan.meets_pure]
  refine ⟨?_, rfl, fun m h => h.congr rfl rfl rfl⟩
  have htr : Builtin.timeUniform ≠ Builtin.resolutionUniform := by decide
  have htc : Builtin.timeUniform ≠ Builtin.cameraUniform := by decide
  have hrc : Builtin.resolutionUniform ≠ Builtin.cameraUniform := by decide
  constructor <;> simp [Pipeline.request, Pipeline.learnUniform, htr, htc, hrc]

namespace Session

/-- What a session holds determines the program and the mesh that the pipeline has to be set for. -/
theorem prepare_painting (stages : Stages) (parameters : Parameters) :
    (prepare stages parameters).Meets (painting P) p fun r p' => ∀ session, r = .ok session →
      p'.viewport = p.viewport ∧ ∀ program m, session.Holds program m →
        p'.Placed program m ∧ p'.Fed program session.feeds := by
  unfold prepare
  rw [Plan.meets_bind, meets_painting_note, Plan.meets_bind]
  refine (Build.programAndMesh_painting stages).mono fun r p' hp => ?_
  cases r with
  | error e => simp
  | ok placed =>
    obtain ⟨program, placed⟩ := placed
    obtain ⟨hplaced, hviewport⟩ := hp program placed rfl
    dsimp only
    rw [Plan.meets_bind, meets_painting_note, Plan.meets_bind]
    refine (Feeds.ofProgram_painting program).mono fun feeds p'' hp' => ?_
    obtain ⟨hfed, hviewport', hkept⟩ := hp'
    rw [Plan.meets_pure]
    rintro session ⟨⟩
    refine ⟨hviewport'.trans hviewport, fun program' m hh => ?_⟩
    obtain ⟨rfl, rfl⟩ := Holdings.of_inj hh.holdings
    exact ⟨hkept _ hplaced, hfed⟩

/-- A session that is prepared for and starts finds the pipeline set for it. -/
theorem Linked.start_painting {session : Session} {program : Program} {m : PlacedMesh}
    (h : session.Linked program m) (now : Nat) {backing : PixelSize}
    (hplaced : p.Placed program m) (hfed : p.Fed program session.feeds)
    (hviewport : p.viewport = (0, 0, backing.viewport)) :
    (session.start now).Meets (painting P) p fun session' p' => ∃ id,
      session'.Live program m id ∧ p'.Suits backing program m session'.feeds := by
  rw [h.start_eq, PlacedMesh.select, Plan.meets_bind, meets_quiet rfl]
  intro _
  rw [Plan.meets_bind, meets_quiet rfl]
  intro _
  simp only [Plan.meets_bind, meets_painting_requestFrame, meets_painting_note, Plan.meets_pure]
  refine fun id => ⟨id, h.live now id, ?_⟩
  exact Pipeline.suits_started hplaced hfed hviewport

/-- An upload for a uniform that may be unused. -/
theorem upload_painting {location : Option UniformLocation} {upload : UniformLocation → Engine Unit}
    (h : ∀ l, location = some l → (upload l).Meets (painting P) p fun _ p' => p' = p) :
    (location.forM upload).Meets (painting P) p fun _ p' => p' = p := by
  cases location with
  | none => exact rfl
  | some l => exact h l rfl

/-- What is fed goes to where the program that is current keeps it. -/
theorem feed_painting {session : Session} {program : Program} {size : PixelSize} {t : Float32}
    (hfed : p.Fed program session.feeds) (hp : p.program = program.id)
    (hP : ∀ c, session.Paints size t p c → P p c) :
    (session.feed size t).Meets (painting P) p fun _ p' => p' = p := by
  unfold feed
  rw [Plan.meets_bind]
  refine (upload_painting fun l hl => ?_).mono fun _ p' hp' => ?_
  · have hu : p.uniforms p.program Builtin.timeUniform = some (some l.index) := by
      rw [hp, hfed.time, hl, Option.map_some]
    simpa [Pipeline.request] using hP _ (.time hu)
  subst hp'
  rw [Plan.meets_bind]
  refine (upload_painting fun l hl => ?_).mono fun _ p' hp' => ?_
  · have hu : p'.uniforms p'.program Builtin.resolutionUniform = some (some l.index) := by
      rw [hp, hfed.resolution, hl, Option.map_some]
    simpa [Pipeline.request] using hP _ (.resolution hu)
  subst hp'
  refine upload_painting fun l hl => ?_
  have hu : p'.uniforms p'.program Builtin.cameraUniform = some (some l.index) := by
    rw [hp, hfed.camera, hl, Option.map_some]
  simpa [Pipeline.request] using hP _ (.camera hu)

theorem draw_painting {mesh : Mesh} (h : P p mesh.drawCall) :
    (draw mesh).Meets (painting P) p fun _ p' => p' = p := by
  unfold Mesh.drawCall at h
  unfold draw
  split at h
  · next hi =>
    rw [if_pos hi, meets_painting]
    exact fun _ => ⟨fun _ hc => Option.some_inj.mp hc ▸ h, rfl⟩
  · next hi =>
    rw [if_neg hi, meets_painting]
    exact fun _ => ⟨fun _ hc => Option.some_inj.mp hc ▸ h, rfl⟩

end Session

/-! ## Views -/

namespace View

variable {v : View}

theorem retire_painting (hv : v.Sound) :
    v.retire.Meets (painting P) p fun v' _ => v' = v.retired := by
  refine retire_meets painting_ignoresNotes hv (fun _ => rfl) ?_ ?_
  · intro session program m id _ _ _
    cases hi : m.indices <;> simp [Build.deleteProgram, PlacedMesh.delete, hi]
  · intro session program m id _ _ _
    rw [meets_painting_cancelFrame]

theorem drop_painting (hv : v.Sound) : v.drop.Meets (painting P) p fun _ _ => True := by
  unfold drop
  rw [Plan.meets_discard]
  exact (retire_painting hv).mono fun _ _ _ => trivial

/-- Launching a session sets the pipeline for it. -/
theorem launch_painting (hv : v.session = none) (code : ShaderCode) (now : Nat) :
    (v.launch code now).Meets (painting P) p fun a p' => a.2.Suited p' := by
  refine launch_rule painting_ignoresNotes (fun _ => suited_of_none ?_ _) fun hc => ?_
  · exact hv
  rw [Plan.meets_bind, meets_quiet rfl]
  intro _
  refine ((Session.prepare_painting code.stages v.parameters).and_yields
    (Session.prepare_yields code.stages v.parameters)).mono ?_
  rintro r p' ⟨hp, hlinked⟩
  cases r with
  | error e =>
    refine suited_of_none ?_ _
    exact hv
  | ok session =>
    obtain ⟨program, m, hl⟩ := hlinked session rfl
    obtain ⟨hviewport, hset⟩ := hp session rfl
    obtain ⟨hplaced, hfed⟩ := hset program m hl.toHolds
    refine (hl.start_painting now hplaced hfed hviewport).mono fun session' p'' h => ?_
    obtain ⟨id, hlive, hsuits⟩ := h
    rintro s ⟨⟩
    exact ⟨program, m, id, hlive, hsuits⟩

theorem takeUp_painting (hv : v.session = none) (change : Change) (now : Nat) :
    (v.takeUp change now).Meets (painting P) p fun a p' => a.2.Suited p' := by
  have hr : (v.recorded change).session = none := (v.recorded_resembles change).session.trans hv
  exact takeUp_rule painting_ignoresNotes (fun _ _ => suited_of_none hr _)
    (fun _ => suited_of_none hr _) fun code _ => launch_painting hr code now

/-- What a frame draws is drawn with the pipeline set for its session, and it stays so. -/
theorem frame_painting (h : v.Suited p) {id : FrameId} {now : Nat}
    (hP : ∀ p c, v.Paints id now p c → P p c) :
    (v.frame id now).Meets (painting P) p fun a p' => a.2.Suited p' := by
  refine frame_rule painting_ignoresNotes h.sound (fun _ => h) fun session program m hs hc hl => ?_
  obtain ⟨program', m', id', hl', hsuits⟩ := h session hs
  obtain ⟨rfl, rfl⟩ := hl.unique hl'.toHolds
  rw [Plan.meets_bind, meets_quiet rfl]
  intro _
  rw [Plan.meets_bind, meets_quiet rfl]
  intro _
  rw [Plan.meets_bind, PlacedMesh.select, meets_quiet rfl]
  intro _
  have hbound := hsuits.bind program'.id m'.array.id
  have hpaints : ∀ c, session.Paints v.canvas.backing (session.elapsed now)
      { p with program := program'.id, array := m'.array.id } c →
        P { p with program := program'.id, array := m'.array.id } c := fun c hc =>
    hP _ c ⟨session, program', m', hs, hl, rfl, rfl, hbound, hc⟩
  rw [Plan.meets_bind]
  refine (Session.feed_painting hbound.fed rfl hpaints).mono fun _ p' hp => ?_
  subst hp
  rw [Plan.meets_bind]
  refine (Session.draw_painting (hpaints _ .draw)).mono fun _ p' hp => ?_
  subst hp
  rw [meets_painting_requestFrame]
  rintro next s ⟨⟩
  exact ⟨program', m', next, hl.advanced next, hbound⟩

/-- **What draws and uploads may count on**, in one operation. -/
theorem perform_painting (h : v.Suited p) (op : Operation) :
    (v.perform op).Meets (painting fun p c => ∃ id now, op = .frame id now ∧ v.Paints id now p c) p
      fun a p' => a.2.Suited p' := by
  refine perform_rule painting_ignoresNotes (fun _ _ _ _ => h) (fun change now _ _ => ?_)
    (fun _ => ?_) (fun id now hop => ?_) fun size _ => ?_
  · refine (retire_painting h.sound).mono fun w p' hw => ?_
    subst hw
    exact takeUp_painting v.session_retired change now
  · refine (retire_painting h.sound).mono fun w p' hw => ?_
    subst hw
    exact suited_of_none v.session_retired _
  · exact frame_painting h fun p c hc => ⟨id, now, hop, hc⟩
  · exact h

end View

/-! ## Courses -/

namespace Gl.Course

variable {ctx : Context} {c : Course ctx}

theorem pipeline_append (initial : Pipeline) (log log' : Log) :
    initial.after (log ++ log') = (initial.after log).after log' :=
  List.foldl_append

theorem perform_owed {initial : Pipeline} (h : c.view.Suited (initial.after c.log))
    (op : Operation) :
    (Gl.painting fun p call => ∃ id now, op = .frame id now ∧ c.view.Paints id now p call).Owed
        (initial.after c.log) (c.outcome op).log ∧
      (c.perform op).view.Suited (initial.after (c.perform op).log) := by
  obtain ⟨ho, hs⟩ :=
    (View.perform_painting h op).overGl.run_free (fun _ _ => trivial) ctx.host c.host
  refine ⟨ho, ?_⟩
  rw [perform, pipeline_append]
  exact hs

theorem suited_step {initial : Pipeline} (h : c.view.Suited (initial.after c.log)) (t : Turn) :
    (c.step t).view.Suited (initial.after (c.step t).log) := by
  cases t with
  | perform op => exact (perform_owed h op).2
  | drain => exact h

/-- **What is drawn is drawn with the pipeline set for it.** In every course of a view whose canvas
is drawn by OpenGL, on any context and whatever its state at the beginning,

* a call that draws or uploads a uniform is made only in a frame for the callback that the live
  session awaits, and then the program and the vertex array of that session are current, the vertex
  array feeds the positions of the mesh to where the program keeps them, depths are tested and the
  backs of faces dropped, the viewport is that of the backing store, and every location that is
  uploaded to was found on the current program;
* letting go of the view neither draws nor uploads. -/
theorem draws_set_up (context : ctx.State) (hasContext : Bool) (display : PixelSize)
    (parameters : Parameters) (initial : Pipeline) (turns : List Turn) :
    let c := (start context (.onCanvas hasContext display parameters)).run turns
    let final := (c.view.drop.overGl.run ctx.host c.host).log
    (∀ op, (Gl.painting fun p call =>
        ∃ id now, op = .frame id now ∧ c.view.Paints id now p call).Owed
          (initial.after c.log) (c.outcome op).log) ∧
      (Gl.painting fun _ _ => False).Owed (initial.after c.log) final := by
  intro c final
  have hc : c.view.Suited (initial.after c.log) :=
    run_induction (P := fun c => c.view.Suited (initial.after c.log))
      (View.suited_of_none rfl _) (fun _ t h => suited_step h t) turns
  refine ⟨fun op => (perform_owed hc op).1, ?_⟩
  exact ((View.drop_painting hc.sound).overGl.run_free (fun _ _ => trivial) ctx.host c.host).1

/-- A frame on the scripted device behind OpenGL draws. -/
example :
    let context : Exposed Scripted.device := { device := ({} : Objects) }
    let c : Course (exposed Scripted.device) := start context (.onCanvas true ⟨4, 4⟩ {})
    ((c.run Scripted.turns).outcome (.frame ⟨2⟩ 3)).log.any fun e => match e.question with
      | .gpu call => call.isDraw
      | _ => false := by
  decide +kernel

end Gl.Course

end LiveShader
