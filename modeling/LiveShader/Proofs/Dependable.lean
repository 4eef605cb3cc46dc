import LiveShader.Proofs.Attempt

/-!
# Dependable devices

A dependable device refuses no object, links whatever it is given, and decides by stage and text
alone whether a stage compiles. On such a device the only thing that can keep a session from
beginning is a text that does not compile.

* The contract `dependable` assumes this of the replies. It follows which text each shader was given
  last, so nothing is assumed of the device but what it replies.
* `accepts` is any judgement of texts. No property of it is used.

Results:
* `Session.prepare_dependable`: a session is prepared exactly if both stages are accepted.
* `View.perform_dependable`: an operation that asks for shader code leaves a live session exactly if
  both stages of the code are accepted.
-/

namespace LiveShader

open Engine

/-! ## The contract -/

/-- The stage and the text of the shaders that were given one. -/
abbrev Sources := Shader → Option (Stage × String)

namespace Sources

/-- A shader is given a text. -/
def give (s : Sources) (shader : Shader) (stage : Stage) (text : String) : Sources :=
  fun x => if x = shader then some (stage, text) else s x

@[simp] theorem give_self (s : Sources) (shader : Shader) (stage : Stage) (text : String) :
    s.give shader stage text shader = some (stage, text) :=
  if_pos rfl

/-- The sources after an exchange. A new shader has the empty text. -/
def next (s : Sources) : Exchange (Action.Reply Request.Reply) → Sources
  | ⟨.gpu (.createShader stage), .ok shader⟩ => s.give shader stage ""
  | ⟨.gpu (.shaderSource shader text), _⟩ =>
    match s shader with
    | some (stage, _) => s.give shader stage text
    | none => s
  | _ => s

end Sources

/-- Whether a reply is one of a dependable device. -/
def Exchange.dependable (accepts : Stage → String → Bool) (s : Sources) :
    Exchange (Action.Reply Request.Reply) → Bool
  | ⟨.gpu (.createShader _), r⟩ => r.isOk
  | ⟨.gpu .createProgram, r⟩ => r.isOk
  | ⟨.gpu .createVertexArray, r⟩ => r.isOk
  | ⟨.gpu .createBuffer, r⟩ => r.isOk
  | ⟨.gpu (.programLinkStatus _), r⟩ => r
  | ⟨.gpu (.shaderCompileStatus shader), r⟩ =>
    (s shader).all fun source => r == accepts source.1 source.2
  | _ => true

/-- The device is dependable, and nothing is owed to it. -/
def dependable (accepts : Stage → String → Bool) :
    Contract (Action.Reply Request.Reply) Sources where
  next := Sources.next
  assumed s e := e.dependable accepts s = true

instance (accepts : Stage → String → Bool) (s : Sources)
    (e : Exchange (Action.Reply Request.Reply)) : Decidable ((dependable accepts).assumed s e) :=
  inferInstanceAs (Decidable (e.dependable accepts s = true))

/-- Whether both stages are accepted. -/
def Stages.accepted (accepts : Stage → String → Bool) (s : Stages) : Bool :=
  accepts .vertex s.vertex && accepts .fragment s.fragment

variable {accepts : Stage → String → Bool} {s : Sources}

theorem dependable_ignoresNotes : (dependable accepts).IgnoresNotes :=
  fun _ _ _ => ⟨rfl, trivial⟩

/-! ## Preparing a session -/

namespace Build

theorem compile_dependable (stage : Stage) (text : String) :
    (compile stage text).Meets (dependable accepts) s fun r _ => r.isOk = accepts stage text := by
  unfold compile
  rw [Plan.meets_bind, meets_gpu]
  rintro (refusal | shader) hr
  · cases hr
  refine ⟨trivial, ?_⟩
  simp only [Plan.meets_bind, meets_gpu]
  refine fun _ _ => ⟨trivial, fun _ _ => ⟨trivial, fun compiles hr => ⟨trivial, ?_⟩⟩⟩
  have hc : compiles = accepts stage text := by
    simpa [dependable, Exchange.dependable, Sources.next] using hr
  subst hc
  cases accepts stage text with
  | true => rfl
  | false =>
    simp only [Plan.meets_bind, meets_gpu, meets_note]
    exact fun _ _ => ⟨trivial, fun _ _ => ⟨trivial, fun _ => ⟨trivial, rfl⟩⟩⟩

theorem link_dependable (vertex fragment : Shader) :
    (link vertex fragment).Meets (dependable accepts) s fun r _ => r.isOk = true := by
  unfold link
  rw [Plan.meets_bind, meets_gpu]
  rintro (refusal | program) hr
  · cases hr
  simp only [Plan.meets_bind, meets_gpu]
  refine ⟨trivial, fun _ _ => ⟨trivial, fun _ _ => ⟨trivial, fun _ _ => ⟨trivial, ?_⟩⟩⟩⟩
  rintro linked (rfl : linked = true)
  simp [dependable, Except.isOk, Except.toBool]

theorem program_dependable (stages : Stages) :
    (program stages).Meets (dependable accepts) s fun r _ => r.isOk = stages.accepted accepts := by
  unfold program Stages.accepted
  rw [Plan.meets_bind]
  refine (compile_dependable .vertex stages.vertex).mono fun r s hr => ?_
  cases r with
  | error e =>
    rw [← hr]
    rfl
  | ok vertex =>
    rw [← hr]
    dsimp only
    rw [Plan.meets_bind]
    refine (compile_dependable .fragment stages.fragment).mono fun r s hr => ?_
    cases r with
    | error e =>
      rw [← hr]
      exact fun _ _ => ⟨trivial, rfl⟩
    | ok fragment =>
      rw [← hr]
      exact link_dependable vertex fragment

theorem placeIndices_dependable (mesh : Mesh) (array : VertexArray) (vertices : Buffer) :
    (placeIndices mesh array vertices).Meets (dependable accepts) s fun r _ => r.isOk = true := by
  unfold placeIndices
  cases mesh.isIndexed with
  | false => rfl
  | true =>
    dsimp only
    rw [Plan.meets_bind, meets_gpu]
    rintro (refusal | indices) hr
    · cases hr
    simp [dependable, Except.isOk, Except.toBool]

theorem positionIndex_dependable (program : Program) :
    (positionIndex program).Meets (dependable accepts) s fun _ _ => True := by
  unfold positionIndex
  rw [Plan.meets_bind, meets_gpu]
  rintro (_ | index) _ <;> simp [dependable]

theorem place_dependable (program : Program) (mesh : Mesh) :
    (place program mesh).Meets (dependable accepts) s fun r _ => r.isOk = true := by
  unfold place
  rw [Plan.meets_bind, meets_gpu]
  rintro (refusal | array) hr
  · cases hr
  refine ⟨trivial, ?_⟩
  dsimp only
  rw [Plan.meets_bind, meets_gpu]
  refine fun _ _ => ⟨trivial, ?_⟩
  rw [Plan.meets_bind, meets_gpu]
  rintro (refusal | vertices) hr
  · cases hr
  refine ⟨trivial, ?_⟩
  simp only [Plan.meets_bind, meets_gpu]
  refine fun _ _ => ⟨trivial, fun _ _ => ⟨trivial, ?_⟩⟩
  refine (positionIndex_dependable program).mono fun index s _ _ _ => ⟨trivial, ?_⟩
  refine (placeIndices_dependable mesh array vertices).mono fun r s hr => ?_
  cases r with
  | error e => cases hr
  | ok indices => exact fun _ _ => ⟨trivial, rfl⟩

theorem programAndMesh_dependable (stages : Stages) :
    (programAndMesh stages).Meets (dependable accepts) s fun r _ =>
      r.isOk = stages.accepted accepts := by
  unfold programAndMesh
  rw [Plan.meets_bind]
  refine (program_dependable stages).mono fun r s hr => ?_
  rw [← hr]
  cases r with
  | error e => rfl
  | ok program =>
    dsimp only
    rw [Plan.meets_bind, meets_gpu]
    refine fun _ _ => ⟨trivial, ?_⟩
    rw [Plan.meets_bind]
    refine (place_dependable program stages.mesh).mono fun r s hr => ?_
    cases r with
    | error e => cases hr
    | ok placed => rfl

end Build

/-- **A session is prepared exactly if both stages are accepted.** -/
theorem Session.prepare_dependable (stages : Stages) (parameters : Parameters) :
    (prepare stages parameters).Meets (dependable accepts) s fun r _ =>
      r.isOk = stages.accepted accepts := by
  unfold prepare
  rw [Plan.meets_bind]
  refine dependable_ignoresNotes.note ?_
  rw [Plan.meets_bind]
  refine (Build.programAndMesh_dependable stages).mono fun r s hr => ?_
  rw [← hr]
  cases r with
  | error e => exact fun _ _ => ⟨trivial, rfl⟩
  | ok placed =>
    obtain ⟨program, placed⟩ := placed
    dsimp only
    rw [Plan.meets_bind]
    refine dependable_ignoresNotes.note ?_
    simp [Feeds.ofProgram, dependable, Except.isOk, Except.toBool]

/-! ## Operations -/

namespace View

variable {v : View}

theorem launch_dependable (hv : v.session = none) (hc : v.canvas.hasContext = true)
    (code : ShaderCode) (now : Nat) :
    (v.launch code now).Meets (dependable accepts) s fun a _ =>
      a.2.session.isSome = code.stages.accepted accepts := by
  refine launch_rule dependable_ignoresNotes (fun hc' => by simp [hc] at hc') fun _ => ?_
  rw [Plan.meets_bind, meets_gpu]
  refine fun _ _ => ⟨trivial, ?_⟩
  refine (Session.prepare_dependable code.stages v.parameters).mono fun r s hr => ?_
  rw [← hr]
  cases r with
  | error e => simp [failed, fitted, hv, Except.isOk, Except.toBool]
  | ok session =>
    exact ((session.start now).yields_true.meets fun _ _ => trivial).mono fun _ _ _ => rfl

/-- **On a dependable device only a text that is not accepted keeps a session from beginning.** -/
theorem perform_dependable (hv : v.Sound) (hc : v.canvas.hasContext = true) (op : Operation) :
    (v.perform op).Meets (dependable accepts) s fun a _ => ∀ code,
      op.asks v = some (.ok (some code)) → a.2.session.isSome = code.stages.accepted accepts := by
  have hret {s : Sources} : v.retire.Meets (dependable accepts) s fun v' _ => v' = v.retired :=
    (retire_yields hv).meets fun _ _ => trivial
  refine perform_rule dependable_ignoresNotes (fun change now hop hr => ?_)
    (fun change now hop hr => ?_) (fun hop => ?_) (fun id now hop => ?_) fun size hop => ?_
  · simp [Operation.asks_of_redundant hop hr]
  · refine hret.mono ?_
    rintro _ s rfl
    rw [Operation.asks_of_change hop hr, ← v.asks_retired change]
    refine takeUp_rule dependable_ignoresNotes (fun e ha => by simp [ha]) (fun ha => by simp [ha])
      fun code ha => ?_
    have hw := v.retired.recorded_resembles change
    refine (launch_dependable (hw.session.trans v.session_retired)
      (hw.hasContext.trans (v.canvas_retired ▸ hc)) code now).mono fun a _ hs code' ha' => ?_
    rw [ha] at ha'
    cases ha'
    exact hs
  · refine hret.mono fun v' s _ code ha => ?_
    rw [Operation.asks_of_no_change (by rw [hop]; rfl)] at ha
    cases ha
  · refine ((v.frame id now).yields_true.meets fun _ _ => trivial).mono fun a s _ code ha => ?_
    rw [Operation.asks_of_no_change (by rw [hop]; rfl)] at ha
    cases ha
  · intro code ha
    rw [Operation.asks_of_no_change (by rw [hop]; rfl)] at ha
    cases ha

end View

end LiveShader
