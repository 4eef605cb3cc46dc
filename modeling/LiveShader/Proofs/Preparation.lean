import LiveShader.Proofs.Stock
import Mathlib.Algebra.Order.Group.Multiset

/-!
# Preparing a session, step by step

To prepare a session is to take five or six steps in a fixed order: compile the vertex stage,
compile the fragment stage, link them, make the vertex array, make the vertex buffer and, for a
mesh with indices, make the index buffer. The contract `preparing` follows them by what is asked
and answered alone, without looking at the plan.

* A step begins with a creation and goes on with its script. It fails if the creation is refused,
  or if the device reports a failure; then the device is asked for its info log.
* After a failure the standing never changes again, whatever is asked (`Standing.next`), so the
  failure that it keeps is the first. What may still be asked is to delete something, to use no
  program and to bind no vertex array.
* Next to that `Progress` keeps the program that was made current and the vertex array that was
  bound. Which objects are alive is left to the contract `stock`.

A plan is followed by the rules in `Progress`, one for each kind of request. As `preparing` assumes
nothing of the device, every failure at every step is covered by them.

Results:
* `Session.prepare_preparing`: preparation takes the steps in order and ends where they end.
* `Stock.balance`: what was created has been deleted once, or is alive.
* `Session.prepare_atomic`: there is a session with all its objects, or the first failure and none.
-/

namespace LiveShader

open Engine

/-- The text of a stage. -/
def Stages.text (s : Stages) : Stage → String
  | .vertex => s.vertex
  | .fragment => s.fragment

namespace Build

/-! ## Steps -/

/-- A step of preparing a session. Each begins with a creation. -/
inductive Step where
  | compile (stage : Stage)
  | link
  | array
  | vertices
  | indices
  deriving DecidableEq, Repr

namespace Step

/-- The steps for a mesh, in order. -/
def all (mesh : Mesh) : List Step :=
  [.compile .vertex, .compile .fragment, .link, .array, .vertices] ++
    if mesh.isIndexed then [.indices] else []

/-- The request that a step begins with. -/
def creation : Step → Request
  | .compile stage => .createShader stage
  | .link => .createProgram
  | .array => .createVertexArray
  | .vertices | .indices => .createBuffer

/-- What a step asks once its object is there. `shaders` are the compiled stages. -/
def script (stages : Stages) (shaders : List Shader) : Step → Item → List Request
  | .compile stage, ⟨.shader, s⟩ =>
    [.shaderSource s (stages.text stage), .compileShader s, .shaderCompileStatus s]
  | .link, ⟨.program, p⟩ =>
    shaders.map (.attachShader p) ++ [.linkProgram p, .programLinkStatus p]
  | .array, ⟨.vertexArray, a⟩ => [.bindVertexArray (some a)]
  | .vertices, ⟨.buffer, b⟩ =>
    [.bindBuffer .array (some b), .bufferData .array stages.mesh.vertexData]
  | .indices, ⟨.buffer, b⟩ =>
    [.bindBuffer .elementArray (some b), .bufferData .elementArray stages.mesh.indexData]
  | _, _ => []

/-- The failure of a step whose object is there, by the info log. -/
def failure : Step → String → Failure
  | .compile stage, log => .compile stage log
  | _, log => .link log

end Step

end Build

open Build (Step)

namespace Request

/-- Why a creation was refused. -/
def refusal : (r : Request) → r.Reply → Option String
  | .createShader _, .error why | .createProgram, .error why | .createVertexArray, .error why
  | .createBuffer, .error why => some why
  | _, _ => none

/-- The question why, after a step was reported to have failed. -/
def inquiry : (r : Request) → r.Reply → Option Request
  | .shaderCompileStatus s, false => some (.shaderInfoLog s)
  | .programLinkStatus p, false => some (.programInfoLog p)
  | _, _ => none

/-- An info log. -/
def infoLog : (r : Request) → r.Reply → Option String
  | .shaderInfoLog _, log | .programInfoLog _, log => some log
  | _, _ => none

/-- What may be asked between two steps: the stages are let go, the program is made current, and
what the program wants to be fed with is looked up and fed. -/
def isBetween : Request → Bool
  | .detachShader _ _ | .deleteShader _ | .useProgram (some _) | .attribLocation _ _
  | .floatAttribute _ _ | .uniformLocation _ _ => true
  | _ => false

/-- What may be asked after a failure: to delete something and to bind nothing. -/
def isRelease : Request → Bool
  | .deleteShader _ | .deleteProgram _ | .deleteVertexArray _ | .deleteBuffer _ | .useProgram none
  | .bindVertexArray none => true
  | _ => false

end Request

/-! ## Progress -/

/-- How far preparing a session is. -/
inductive Standing where
  /-- The first of these steps may begin. -/
  | ready (steps : List Step) (shaders : List Shader)
  /-- The object of a step is there, and these requests come next. -/
  | under (step : Step) (script : List Request) (steps : List Step) (shaders : List Shader)
  /-- A step has failed, and this is asked about it. -/
  | faulty (step : Step) (inquiry : Request)
  | failed (e : Failure)

namespace Standing

/-- A step goes on with its next request, or is done. -/
def proceed (step : Step) (steps : List Step) (shaders : List Shader) : List Request → Standing
  | [] => .ready steps shaders
  | script => .under step script steps shaders

/-- The compiled stages with another object, if that is one. -/
def gather (shaders : List Shader) : Item → List Shader
  | ⟨.shader, s⟩ => shaders ++ [s]
  | _ => shaders

/-- The next step has made its object. -/
def begun (stages : Stages) (shaders : List Shader) (x : Item) : List Step → Standing
  | [] => .ready [] shaders
  | step :: steps =>
    .proceed step steps (gather shaders x) (step.script stages shaders x)

/-- How far it is after one more request. -/
def next (stages : Stages) : Standing → (q : Request) → q.Reply → Standing
  | .ready steps shaders, q, r =>
    match q.refusal r, q.created r with
    | some why, _ => .failed (.refused why)
    | none, some x => .begun stages shaders x steps
    | none, none => .ready steps shaders
  | .under step (_ :: script) steps shaders, q, r =>
    match q.inquiry r with
    | some inquiry => .faulty step inquiry
    | none => .proceed step steps shaders script
  | .faulty step inquiry, q, r =>
    match q.infoLog r with
    | some log => .failed (step.failure log)
    | none => .faulty step inquiry
  | s, _, _ => s

/-- All steps are done. -/
def IsDone (s : Standing) : Prop :=
  ∃ shaders, s = .ready [] shaders

/-- What may be asked next. -/
def Allows : Standing → Request → Prop
  | .ready steps _, q => q.isBetween = true ∨ ∃ step, steps.head? = some step ∧ q = step.creation
  | .under _ script _ _, q => script.head? = some q
  | .faulty _ inquiry, q => q = inquiry
  | .failed _, q => q.isRelease = true

end Standing

/-- How far preparing a session is, and what it has made current and bound. -/
structure Progress where
  standing : Standing
  current : Option Program := none
  bound : Option VertexArray := none

/-- Nothing has been done yet. -/
def Progress.outset (mesh : Mesh) : Progress where
  standing := .ready (Step.all mesh) []

/-- What a request makes current or binds. -/
def Progress.bind (s : Progress) : Request → Progress
  | .useProgram p => { s with current := p }
  | .bindVertexArray a => { s with bound := a }
  | _ => s

/-- One step after the other; after a failure only what is there is released. -/
def preparing (stages : Stages) : Contract (Action.Reply Request.Reply) Progress where
  next
    | s, ⟨.gpu q, r⟩ => { s.bind q with standing := s.standing.next stages q r }
    | s, _ => s
  owed
    | s, ⟨.gpu q, _⟩ => s.standing.Allows q
    | _, e => e.question.isScheduling = false

variable {stages : Stages} {steps : List Step} {shaders : List Shader} {current : Option Program}
variable {bound : Option VertexArray} {s : Progress} {e : Failure} {step : Step} {q : Request}
variable {script : List Request} {α : Type} {k : q.Reply → Engine α} {post : α → Progress → Prop}

namespace Progress

/-! ### Rules -/

/-- A request between two steps. -/
theorem between (hq : q.isBetween = true) (h : ∀ r, (k r).Meets (preparing stages)
      ((mk (.ready steps shaders) current bound).bind q) post) :
    (gpu q >>= k).Meets (preparing stages) ⟨.ready steps shaders, current, bound⟩ post := by
  have hnext (r : q.Reply) : (preparing stages).next ⟨.ready steps shaders, current, bound⟩
      ⟨.gpu q, r⟩ = (mk (.ready steps shaders) current bound).bind q := by
    cases q <;> first | rfl | cases hq
  rw [Plan.meets_bind, meets_gpu]
  intro r _
  rw [hnext]
  exact ⟨.inl hq, h r⟩

/-- A request after a failure. -/
theorem released (hq : q.isRelease = true) (h : ∀ r, (k r).Meets (preparing stages)
      ((mk (.failed e) current bound).bind q) post) :
    (gpu q >>= k).Meets (preparing stages) ⟨.failed e, current, bound⟩ post := by
  have hnext (r : q.Reply) : (preparing stages).next ⟨.failed e, current, bound⟩ ⟨.gpu q, r⟩ =
      (mk (.failed e) current bound).bind q := by
    cases q <;> rfl
  rw [Plan.meets_bind, meets_gpu]
  intro r _
  rw [hnext]
  exact ⟨hq, h r⟩

/-- A notice. -/
theorem noted {n : Notice} {k : Unit → Engine α} (h : (k ()).Meets (preparing stages) s post) :
    (note n >>= k).Meets (preparing stages) s post := by
  rw [Plan.meets_bind, meets_note]
  exact fun _ => ⟨rfl, h⟩

/-- The next request of a step. -/
theorem scripted (h : ∀ r, (k r).Meets (preparing stages)
      ((preparing stages).next ⟨.under step (q :: script) steps shaders, current, bound⟩
        ⟨.gpu q, r⟩) post) :
    (gpu q >>= k).Meets (preparing stages)
      ⟨.under step (q :: script) steps shaders, current, bound⟩ post := by
  rw [Plan.meets_bind, meets_gpu]
  exact fun r _ => ⟨rfl, h r⟩

/-- The question why a step failed. -/
theorem inquired (h : ∀ r, (k r).Meets (preparing stages)
      ((preparing stages).next ⟨.faulty step q, current, bound⟩ ⟨.gpu q, r⟩) post) :
    (gpu q >>= k).Meets (preparing stages) ⟨.faulty step q, current, bound⟩ post := by
  rw [Plan.meets_bind, meets_gpu]
  exact fun r _ => ⟨rfl, h r⟩

/-- The creation that a step begins with. -/
theorem creates (hq : q = step.creation) (h : ∀ r, (k r).Meets (preparing stages)
      ((preparing stages).next ⟨.ready (step :: steps) shaders, current, bound⟩ ⟨.gpu q, r⟩)
        post) :
    (gpu q >>= k).Meets (preparing stages) ⟨.ready (step :: steps) shaders, current, bound⟩
      post := by
  rw [Plan.meets_bind, meets_gpu]
  exact fun r _ => ⟨.inr ⟨step, rfl, hq⟩, h r⟩

end Progress

open Progress

namespace Build

theorem compile_preparing (stage : Stage) :
    (compile stage (stages.text stage)).Meets (preparing stages)
      ⟨.ready (.compile stage :: steps) shaders, current, bound⟩ fun r s' =>
      match r with
      | .error e => s' = ⟨.failed e, current, bound⟩
      | .ok shader => s' = ⟨.ready steps (shaders ++ [shader]), current, bound⟩ := by
  refine creates rfl ?_
  rintro (refusal | shader)
  · rfl
  refine scripted fun _ => scripted fun _ => scripted ?_
  rintro (_ | _)
  · -- The stage did not compile. It is deleted only after its log was read.
    exact inquired fun log => released rfl fun _ => noted rfl
  · rfl

theorem link_preparing (vertex fragment : Shader) :
    (link vertex fragment).Meets (preparing stages)
      ⟨.ready (.link :: steps) [vertex, fragment], current, bound⟩ fun r s' =>
      match r with
      | .error e => s' = ⟨.failed e, current, bound⟩
      | .ok _ => s' = ⟨.ready steps [vertex, fragment], current, bound⟩ := by
  refine creates rfl ?_
  rintro (refusal | program)
  · exact released rfl fun _ => released rfl fun _ => rfl
  refine scripted fun _ => scripted fun _ => scripted fun _ => scripted ?_
  rintro (_ | _)
  · exact inquired fun log => released rfl fun _ => released rfl fun _ => released rfl fun _ =>
      noted rfl
  · exact between rfl fun _ => between rfl fun _ => between rfl fun _ => between rfl fun _ => rfl

theorem program_preparing :
    (program stages).Meets (preparing stages)
      ⟨.ready (.compile .vertex :: .compile .fragment :: .link :: steps) [], current, bound⟩
      fun r s' =>
        match r with
        | .error e => s' = ⟨.failed e, current, bound⟩
        | .ok _ => ∃ shaders, s' = ⟨.ready steps shaders, current, bound⟩ := by
  unfold program
  rw [Plan.meets_bind]
  refine (compile_preparing .vertex).mono fun r s h => ?_
  cases r with
  | error e => exact h
  | ok vertex =>
    subst h
    dsimp only
    rw [Plan.meets_bind]
    refine (compile_preparing .fragment).mono fun r s h => ?_
    cases r with
    | error e =>
      subst h
      exact released rfl fun _ => rfl
    | ok fragment =>
      subst h
      refine (link_preparing vertex fragment).mono fun r s h => ?_
      cases r with
      | error e => exact h
      | ok program => exact ⟨_, h⟩

theorem positionIndex_preparing (program : Program) :
    (positionIndex program).Meets (preparing stages) ⟨.ready steps shaders, current, bound⟩
      fun _ s' => s' = ⟨.ready steps shaders, current, bound⟩ := by
  refine between rfl ?_
  rintro (_ | index)
  · exact noted rfl
  · rfl

theorem placeIndices_preparing (array : VertexArray) (vertices : Buffer) :
    (placeIndices stages.mesh array vertices).Meets (preparing stages)
      ⟨.ready (if stages.mesh.isIndexed then [.indices] else []) shaders, current, bound⟩
      fun r s' =>
        match r with
        | .error e => s' = ⟨.failed e, current, none⟩
        | .ok _ => s' = ⟨.ready [] shaders, current, bound⟩ := by
  unfold placeIndices
  cases stages.mesh.isIndexed with
  | false => rfl
  | true =>
    refine creates rfl ?_
    rintro (refusal | indices)
    · exact released rfl fun _ => released rfl fun _ => released rfl fun _ => rfl
    · exact scripted fun _ => scripted fun _ => rfl

theorem place_preparing (program : Program) :
    (place program stages.mesh).Meets (preparing stages)
      ⟨.ready (.array :: .vertices :: if stages.mesh.isIndexed then [.indices] else []) shaders,
        current, none⟩ fun r s' =>
      match r with
      | .error e => s' = ⟨.failed e, current, none⟩
      | .ok m => s' = ⟨.ready [] shaders, current, some m.array⟩ := by
  refine creates rfl ?_
  rintro (refusal | array)
  · rfl
  refine scripted fun _ => creates rfl ?_
  rintro (refusal | vertices)
  · exact released rfl fun _ => released rfl fun _ => rfl
  refine scripted fun _ => scripted fun _ => ?_
  rw [Plan.meets_bind]
  refine (positionIndex_preparing program).mono fun index s h => ?_
  subst h
  refine between rfl fun _ => ?_
  rw [Plan.meets_bind]
  refine (placeIndices_preparing array vertices).mono fun r s h => ?_
  cases r with
  | error e => exact h
  | ok indices =>
    subst h
    exact noted rfl

theorem programAndMesh_preparing :
    (programAndMesh stages).Meets (preparing stages) (.outset stages.mesh) fun r s' =>
      match r with
      | .error e => s' = ⟨.failed e, none, none⟩
      | .ok _ => s'.standing.IsDone := by
  unfold programAndMesh
  rw [Plan.meets_bind]
  refine program_preparing.mono fun r s h => ?_
  cases r with
  | error e => exact h
  | ok program =>
    obtain ⟨shaders, rfl⟩ := h
    refine between rfl fun _ => ?_
    rw [Plan.meets_bind]
    refine (place_preparing program).mono fun r s h => ?_
    cases r with
    | error e =>
      subst h
      exact released rfl fun _ => released rfl fun _ => rfl
    | ok m =>
      subst h
      exact ⟨shaders, rfl⟩

end Build

theorem Feeds.ofProgram_preparing (program : Program) :
    (ofProgram program).Meets (preparing stages) ⟨.ready steps shaders, current, bound⟩
      fun _ s' => s' = ⟨.ready steps shaders, current, bound⟩ :=
  between rfl fun _ => between rfl fun _ => between rfl fun _ => rfl

/-- Preparing a session takes the steps one after the other and ends where they end. -/
theorem Session.prepare_preparing (stages : Stages) (parameters : Parameters) :
    (prepare stages parameters).Meets (preparing stages) (.outset stages.mesh) fun r s' =>
      match r with
      | .error e => s' = ⟨.failed e, none, none⟩
      | .ok _ => s'.standing.IsDone := by
  refine noted ?_
  rw [Plan.meets_bind]
  refine Build.programAndMesh_preparing.mono fun r s h => ?_
  cases r with
  | error e =>
    subst h
    exact noted rfl
  | ok parts =>
    obtain ⟨standing, current, bound⟩ := s
    obtain ⟨shaders, rfl⟩ := h
    refine noted ?_
    rw [Plan.meets_bind]
    refine (Feeds.ofProgram_preparing _).mono fun feeds s h => ?_
    subst h
    exact ⟨shaders, rfl⟩

/-! ## What was made and what was deleted -/

/-- The object that an exchange has created, if any. -/
def madeBy : Exchange (Action.Reply Request.Reply) → List Item
  | ⟨.gpu q, r⟩ => (q.created r).toList
  | _ => []

/-- The object that an exchange has deleted, if any. -/
def deletedBy : Exchange (Action.Reply Request.Reply) → List Item
  | ⟨.gpu q, _⟩ => q.deleted.toList
  | _ => []

theorem Request.mem_named_of_deleted {x : Item} (h : q.deleted = some x) : x ∈ q.named := by
  cases q <;> cases h <;> exact List.mem_cons_self

theorem Request.created_of_deleted {x : Item} (h : q.deleted = some x) (r : q.Reply) :
    q.created r = none := by
  cases q <;> first | rfl | cases h

namespace Stock

variable {s : Stock} {log : List (Exchange (Action.Reply Request.Reply))}

/-- One exchange keeps the books: what was alive and what it has created is what it has deleted and
what is alive now. -/
theorem balance_step {e : Exchange (Action.Reply Request.Reply)} (ha : stock.assumed s e)
    (ho : stock.owed s e) :
    (madeBy e : Multiset Item) + s.live.val = deletedBy e + (stock.next s e).live.val := by
  obtain ⟨a, r⟩ := e
  cases a with
  | gpu q =>
    rw [stock_next, live_use]
    dsimp only [madeBy, deletedBy]
    cases hd : q.deleted with
    | some x =>
      have hx : x ∈ s.live := ho.1 x (Request.mem_named_of_deleted hd)
      rw [Request.created_of_deleted hd]
      exact (zero_add _).trans (Multiset.cons_erase hx).symm
    | none =>
      cases hc : q.created r with
      | none => rfl
      | some x =>
        have hx : x ∉ s.live := ha x hc
        exact ((zero_add _).trans (Finset.insert_val_of_notMem hx)).symm
  | _ => rfl

/-- **The books are kept** along every log: each object that was created has been deleted once, or
is alive and has not been deleted. -/
theorem balance (ha : stock.Assumed s log) (ho : stock.Owed s log) :
    (log.flatMap madeBy : Multiset Item) + s.live.val =
      log.flatMap deletedBy + (stock.after s log).live.val := by
  induction log generalizing s with
  | nil => rfl
  | cons e log ih =>
    have hstep := balance_step ha.1 ho.1
    have hrest := ih ha.2 ho.2
    rw [List.flatMap_cons, List.flatMap_cons, ← Multiset.coe_add, ← Multiset.coe_add,
      stock.after_cons]
    calc (madeBy e : Multiset Item) + log.flatMap madeBy + s.live.val
        = log.flatMap madeBy + (madeBy e + s.live.val) := by ac_rfl
      _ = deletedBy e + (log.flatMap madeBy + (stock.next s e).live.val) := by rw [hstep]; ac_rfl
      _ = deletedBy e + log.flatMap deletedBy +
          (stock.after (stock.next s e) log).live.val := by rw [hrest, add_assoc]

end Stock

/-! ## Atomicity -/

namespace Session

variable {d : Device}

/-- **A session is prepared as a whole or not at all.** On any device, however it answers, as long
as it makes no handle that is alive already,

* the steps are taken in their order, and after the first that fails nothing is done but to release
  what is there; only objects that are there are named;
* there is a session exactly if every step has succeeded. The objects alive are then those that it
  holds: no shader, one program, one vertex array, and one buffer for a quad or two for a cube;
* otherwise the failure is that of the first step that failed, no program is current, no vertex
  array is bound, and every object that was made has been deleted, each of them once. -/
theorem prepare_atomic (stages : Stages) (parameters : Parameters) (host : Host d)
    (hfresh : stock.Assumed {} ((prepare stages parameters).run d.host host).log) :
    let o := (prepare stages parameters).run d.host host
    let progress := (preparing stages).after (.outset stages.mesh) o.log
    let objects := stock.after {} o.log
    (preparing stages).Owed (.outset stages.mesh) o.log ∧ stock.Owed {} o.log ∧
      match o.value with
      | .ok session => progress.standing.IsDone ∧ objects.live = session.holdings.items ∧
          objects.count .shader = 0 ∧ objects.count .program = 1 ∧
          objects.count .vertexArray = 1 ∧
          objects.count .buffer = match stages.mesh with
            | .quad => 1
            | .cube => 2
      | .error e => progress = ⟨.failed e, none, none⟩ ∧ objects.live = ∅ ∧
          (o.log.flatMap deletedBy).Perm (o.log.flatMap madeBy) := by
  intro o progress objects
  obtain ⟨hsteps, hprogress⟩ := (prepare_preparing stages parameters).run_free (fun _ _ => trivial)
    d.host host
  have hstock := (prepare_stock (s := {}) stages parameters).and_yields
    (prepare_yields stages parameters)
  obtain ⟨howed, hstock, hlinked⟩ := hstock.run d.host host hfresh
  have hmesh := ((prepare_carries stages parameters).run_free (fun _ _ => trivial) d.host host).2
  refine ⟨hsteps, howed, ?_⟩
  cases hv : o.value with
  | error e =>
    rw [hv] at hprogress hstock
    have hlive : objects.live = ∅ := hstock
    have hbooks : (o.log.flatMap madeBy : Multiset Item) = o.log.flatMap deletedBy := by
      have hbalance := Stock.balance hfresh howed
      rwa [hlive, Finset.empty_val, add_zero, add_zero] at hbalance
    exact ⟨hprogress, hlive, (Multiset.coe_eq_coe.mp hbooks).symm⟩
  | ok session =>
    rw [hv] at hprogress hstock
    obtain ⟨program, m, hl⟩ := hlinked session hv
    have hlive : objects.live = session.holdings.items := by
      rw [hstock.2]
      exact Finset.union_empty _
    have hm : session.mesh = stages.mesh := (hmesh session hv).1
    rw [← hm]
    exact ⟨hprogress, hlive, hl.count hstock.1 hlive⟩

/-- A cube whose index buffer is refused, the sixth object to be made. -/
theorem prepare_atomic_refused :
    let stages : Stages := ⟨"void main", "void main", true⟩
    let host : Host Scripted.device := { device := Objects.failCreation {} 5 }
    let o := (prepare stages {}).run Scripted.device.host host
    stock.Assumed {} o.log ∧ o.value = .error (.refused "out of memory creating buffer") ∧
      (o.log.flatMap deletedBy).Perm (o.log.flatMap madeBy) := by
  intro stages host o
  have hfresh : stock.Assumed {} o.log :=
    (Objects.host_trusted (prepare stages {}) host fun x hx => absurd hx (Finset.notMem_empty x)).1
  have hv : o.value = .error (.refused "out of memory creating buffer") := by decide +kernel
  obtain ⟨-, -, h⟩ := prepare_atomic stages {} host hfresh
  rw [hv] at h
  exact ⟨hfresh, hv, h.2.2⟩

end Session

end LiveShader
