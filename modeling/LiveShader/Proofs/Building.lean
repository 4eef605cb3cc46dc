import LiveShader.Proofs.Live

/-!
# What building a session does

To prepare a session the engine talks to the device only, and draws nothing. The contract
`building` says so, and it keeps track of what was created on the way (`Scene`).

* `building` assumes nothing of the device: every creation, compilation and link may fail.
* What other contracts need to know about preparation follows from this one by `Meets.of_owed` and
  `Meets.frame`, so that only one proof goes through the steps of building.

Results:
* `Session.prepare_building`: a session that is prepared is linked, and its program and its vertex
  array were created on the way.
* `Session.prepare_made`: a session that is prepared has looked up its uniforms.
* `View.launches_of_indifferent`: what a contract without interest in building has to show.
-/

namespace LiveShader

open Engine

/-! ## The scene -/

/-- What the next draw would draw, and which programs and vertex arrays have been created. -/
structure Scene where
  current : Option Program := none
  bound : Option VertexArray := none
  programs : List Program := []
  arrays : List VertexArray := []
  deriving DecidableEq, Repr

/-- The scene after an exchange. -/
def Scene.next (s : Scene) : Exchange (Action.Reply Request.Reply) → Scene
  | ⟨.gpu (.useProgram p), _⟩ => { s with current := p }
  | ⟨.gpu (.bindVertexArray a), _⟩ => { s with bound := a }
  | ⟨.gpu .createProgram, .ok p⟩ => { s with programs := p :: s.programs }
  | ⟨.gpu .createVertexArray, .ok a⟩ => { s with arrays := a :: s.arrays }
  | _ => s

/-- Building follows the scene; it neither draws nor talks to the frame queue. -/
def building : Contract (Action.Reply Request.Reply) Scene where
  next := Scene.next
  owed _ e := e.question.isDraw = false ∧ e.question.isScheduling = false

variable {s : Scene}

namespace Build

theorem compile_building (stage : Stage) (text : String) :
    (compile stage text).Meets building s fun _ s' => s' = s := by
  unfold compile
  rw [Plan.meets_bind, meets_gpu]
  rintro (refusal | shader) _
  · simp [building, Scene.next]
  · simp [building, Scene.next]

theorem link_building (vertex fragment : Shader) :
    (link vertex fragment).Meets building s fun r s' => ∀ p, r = .ok p → p ∈ s'.programs := by
  unfold link
  rw [Plan.meets_bind, meets_gpu]
  rintro (refusal | program) _
  · simp [building, Scene.next]
  · simp [building, Scene.next]

theorem program_building (stages : Stages) :
    (program stages).Meets building s fun r s' => ∀ p, r = .ok p → p ∈ s'.programs := by
  unfold program
  rw [Plan.meets_bind]
  refine (compile_building _ _).mono fun r s _ => ?_
  cases r with
  | error e => simp
  | ok vertex =>
    dsimp only
    rw [Plan.meets_bind]
    refine (compile_building _ _).mono fun r s _ => ?_
    cases r with
    | error e => simp [building]
    | ok fragment => exact link_building vertex fragment

theorem positionIndex_building (program : Program) :
    (positionIndex program).Meets building s fun _ s' => s' = s := by
  unfold positionIndex
  rw [Plan.meets_bind, meets_gpu]
  rintro (_ | index) _ <;> simp [building, Scene.next]

theorem placeIndices_building (mesh : Mesh) (array : VertexArray) (vertices : Buffer) :
    (placeIndices mesh array vertices).Meets building s fun r s' =>
      s'.programs = s.programs ∧ s'.arrays = s.arrays ∧
        ∀ indices, r = .ok indices → indices.isSome = mesh.isIndexed := by
  unfold placeIndices
  cases mesh.isIndexed with
  | false => simp
  | true =>
    dsimp only
    rw [Plan.meets_bind, meets_gpu]
    rintro (refusal | indices) _ <;>
      simp [building, Scene.next]

theorem place_building (program : Program) (mesh : Mesh) :
    (place program mesh).Meets building s fun r s' => s'.programs = s.programs ∧
      ∀ m, r = .ok m → m.mesh = mesh ∧ m.indices.isSome = mesh.isIndexed ∧ m.array ∈ s'.arrays := by
  unfold place
  rw [Plan.meets_bind, meets_gpu]
  rintro (refusal | array) _
  · simp [building, Scene.next]
  refine ⟨⟨rfl, rfl⟩, ?_⟩
  dsimp only
  rw [Plan.meets_bind, meets_gpu]
  refine fun _ _ => ⟨⟨rfl, rfl⟩, ?_⟩
  rw [Plan.meets_bind, meets_gpu]
  rintro (refusal | vertices) _
  · simp [building, Scene.next]
  refine ⟨⟨rfl, rfl⟩, ?_⟩
  simp only [Plan.meets_bind, meets_gpu]
  refine fun _ _ => ⟨⟨rfl, rfl⟩, fun _ _ => ⟨⟨rfl, rfl⟩, ?_⟩⟩
  refine (positionIndex_building program).mono fun index s' hs' => ?_
  subst hs'
  refine fun _ _ => ⟨⟨rfl, rfl⟩, ?_⟩
  refine (placeIndices_building mesh array vertices).mono fun r s' hs' => ?_
  obtain ⟨hp, ha, hi⟩ := hs'
  cases r with
  | error e => simp [hp, building, Scene.next]
  | ok indices =>
    simp [hp, ha, hi indices rfl, building, Scene.next]

theorem deleteProgram_building (program : Program) :
    (deleteProgram program).Meets building s fun _ _ => True := by
  simp [deleteProgram, building]

theorem programAndMesh_building (stages : Stages) :
    (programAndMesh stages).Meets building s fun r s' => ∀ p m, r = .ok (p, m) →
      m.mesh = stages.mesh ∧ m.indices.isSome = m.mesh.isIndexed ∧ p ∈ s'.programs ∧
        m.array ∈ s'.arrays := by
  unfold programAndMesh
  rw [Plan.meets_bind]
  refine (program_building stages).mono fun r s hs => ?_
  cases r with
  | error e => simp
  | ok program =>
    dsimp only
    rw [Plan.meets_bind, meets_gpu]
    refine fun _ _ => ⟨⟨rfl, rfl⟩, ?_⟩
    rw [Plan.meets_bind]
    refine (place_building program stages.mesh).mono fun r s' hs' => ?_
    obtain ⟨hp, hm⟩ := hs'
    cases r with
    | error e =>
      dsimp only
      rw [Plan.meets_bind]
      exact (deleteProgram_building program).mono fun _ _ _ => by simp
    | ok placed =>
      obtain ⟨hmesh, hindices, harray⟩ := hm placed rfl
      simp only [Plan.meets_pure, Except.ok.injEq, Prod.mk.injEq]
      rintro p m ⟨rfl, rfl⟩
      refine ⟨hmesh, by rw [hindices, hmesh], ?_, harray⟩
      rw [hp]
      exact hs _ rfl

end Build

theorem Feeds.ofProgram_building (program : Program) :
    (Feeds.ofProgram program).Meets building s fun _ s' => s' = s := by
  simp [Feeds.ofProgram, building, Scene.next]

/-- A session that is prepared, with what it holds among what was created on the way. -/
def Session.Fresh (session : Session) (s : Scene) : Prop :=
  ∃ p m, session.Linked p m ∧ p ∈ s.programs ∧ m.array ∈ s.arrays

/-- **Preparation only builds**, and leads to a linked session or to none. -/
theorem Session.prepare_building (stages : Stages) (parameters : Parameters) :
    (prepare stages parameters).Meets building s fun r s' => ∀ session, r = .ok session →
      session.Fresh s' ∧ session.mesh = stages.mesh ∧ session.parameters = parameters := by
  unfold prepare
  rw [Plan.meets_bind, meets_note]
  refine fun _ => ⟨⟨rfl, rfl⟩, ?_⟩
  rw [Plan.meets_bind]
  refine (Build.programAndMesh_building stages).mono fun r s hs => ?_
  cases r with
  | error e => simp [building]
  | ok placed =>
    obtain ⟨program, placed⟩ := placed
    obtain ⟨hm, hi, hp, ha⟩ := hs program placed rfl
    dsimp only
    rw [Plan.meets_bind, meets_note]
    refine fun _ => ⟨⟨rfl, rfl⟩, ?_⟩
    rw [Plan.meets_bind]
    refine (Feeds.ofProgram_building program).mono fun feeds s' hs' => ?_
    subst hs'
    rw [Plan.meets_pure]
    rintro session ⟨⟩
    exact ⟨⟨program, placed, ⟨⟨rfl, rfl, hi⟩, rfl⟩, hp, ha⟩, hm, rfl⟩

/-- However the device answers, a session that is prepared is linked. -/
theorem Session.prepare_yields (stages : Stages) (parameters : Parameters) :
    (prepare stages parameters).Yields fun r =>
      ∀ session, r = .ok session → ∃ p m, session.Linked p m := by
  have h := prepare_building (s := {}) stages parameters
  refine (h.mono fun r s hr session hs => ?_).yields fun _ _ => trivial
  obtain ⟨⟨p, m, hl, -⟩, -⟩ := hr session hs
  exact ⟨p, m, hl⟩

/-- However the device answers, a session that is prepared has the mesh that the stages ask for and
the parameters that it was prepared with. -/
theorem Session.prepare_carries (stages : Stages) (parameters : Parameters) :
    (prepare stages parameters).Yields fun r =>
      ∀ session, r = .ok session → session.mesh = stages.mesh ∧ session.parameters = parameters :=
  ((prepare_building (s := {}) stages parameters).mono fun _ _ h session hs =>
    (h session hs).2).yields fun _ _ => trivial

/-! ## What a session is made with -/

/-- The questions for the uniforms of a program, with these answers. -/
def Feeds.lookups (f : Feeds) (p : Program) : Log :=
  [⟨.gpu (.uniformLocation p Builtin.timeUniform), f.time⟩,
    ⟨.gpu (.uniformLocation p Builtin.resolutionUniform), f.resolution⟩,
    ⟨.gpu (.uniformLocation p Builtin.cameraUniform), f.camera⟩]

variable {l : Log}

theorem Feeds.ofProgram_transcript (p : Program) :
    (ofProgram p).Meets transcript l fun f l' => l' = l ++ f.lookups p := by
  simp [ofProgram, transcript, lookups]

/-- A session that is prepared awaits nothing, and has the locations that were looked up for its
program last. -/
theorem Session.prepare_made (stages : Stages) (parameters : Parameters) :
    (prepare stages parameters).Meets transcript l fun r l' => ∀ s, r = .ok s →
      ∃ p m, s.Linked p m ∧ s.awaited = none ∧ s.feeds.lookups p <:+ l' := by
  have hmade : (prepare stages parameters).Meets transcript l fun r l' => ∀ s, r = .ok s →
      ∃ p m, s.holdings = .of p m ∧ s.awaited = none ∧ s.feeds.lookups p <:+ l' := by
    unfold prepare
    rw [Plan.meets_bind, meets_note]
    refine fun _ => ⟨trivial, ?_⟩
    rw [Plan.meets_bind]
    refine (Build.programAndMesh stages).adds.mono fun r l₁ _ => ?_
    cases r with
    | error e => simp [transcript]
    | ok parts =>
      obtain ⟨p, m⟩ := parts
      dsimp only
      rw [Plan.meets_bind, meets_note]
      refine fun _ => ⟨trivial, ?_⟩
      rw [Plan.meets_bind]
      refine (Feeds.ofProgram_transcript p).mono ?_
      rintro feeds _ rfl
      rw [Plan.meets_pure]
      rintro s ⟨⟩
      exact ⟨p, m, rfl, rfl, List.suffix_append _ _⟩
  refine (hmade.and_yields (prepare_yields stages parameters)).mono ?_
  rintro r l' ⟨hmade, hlinked⟩ s hs
  obtain ⟨p, m, hholds, hawaited, hlookups⟩ := hmade s hs
  obtain ⟨p', m', hl⟩ := hlinked s hs
  obtain ⟨rfl, rfl⟩ := Holdings.of_inj (hl.holdings.symm.trans hholds)
  exact ⟨p', m', hl, hawaited, hlookups⟩

/-! ## Contracts without interest in building -/

variable {σ : Type} {C : Contract (Action.Reply Request.Reply) σ}

/-- A contract that only draws and the frame queue have to do with. -/
def Contract.Indifferent (C : Contract (Action.Reply Request.Reply) σ) : Prop :=
  ∀ s e, e.question.isDraw = false → e.question.isScheduling = false →
    C.next s e = s ∧ C.owed s e

theorem Contract.Indifferent.ignoresNotes (h : C.Indifferent) : C.IgnoresNotes :=
  fun s _ _ => h s _ rfl rfl

theorem Contract.Indifferent.ignoresFeeds (h : C.Indifferent) : C.IgnoresFeeds := by
  intro s e he
  obtain ⟨hd, hs⟩ := Action.quiet_of_isFeed he
  exact h s e hd hs

/-- What is left to show if building does not concern the contract. -/
theorem View.launches_of_indifferent (h : C.Indifferent) {v : View} {now : Nat} {s : σ}
    {post : Except Failure Unit × View → σ → Prop}
    (hidle : ∀ r v', Resembles v' v → post (r, v') s)
    (hstart : v.canvas.hasContext = true → ∀ (session : Session) p m, session.Linked p m →
      (session.start now).Meets C s fun session s => ∀ v' : View,
        v'.session = some session → v'.canvas.hasContext = true → post (.ok (), v') s) :
    Launches C v now s post := by
  intro hc width height stages parameters
  rw [Plan.meets_bind, meets_gpu]
  intro a _
  obtain ⟨hs, ho⟩ := h s ⟨.gpu (.viewport width height), a⟩ rfl rfl
  rw [hs]
  refine ⟨ho, ?_⟩
  have hb := Session.prepare_building (s := {}) stages parameters
  have hp : (Session.prepare stages parameters).Meets C s fun _ s' => s' = s :=
    hb.frame (fun _ _ => trivial) fun _ e he s => h s e he.1 he.2
  refine (hp.and_yields (Session.prepare_yields stages parameters)).mono ?_
  rintro r s' ⟨rfl, hr⟩
  cases r with
  | error e => exact hidle _
  | ok session =>
    obtain ⟨p, m, hl⟩ := hr session rfl
    exact hstart hc session p m hl

end LiveShader
