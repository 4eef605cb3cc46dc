import LiveShader.Proofs.Queue
import Mathlib.Data.Finset.Card

/-!
# The objects on the device

Every object that is created is deleted again, once. The contract `stock` keeps the objects that
are alive and assumes that a device makes no handle that is alive already. It owes that a request
names only objects that are alive, so nothing is deleted twice and no program is made current after
it was deleted, and that nothing is drawn without a current program that is alive.

* Each step of building says which objects it leaves behind: those of its value if it succeeds, and
  none if it fails, wherever that happens.
* `View.Stocked` is the invariant: the objects alive are those that the live session holds.

Results:
* `View.perform_stock`: every operation keeps the invariant.
* `objects_owned`: the objects on the device after every course, and after the view is dropped.
-/

namespace LiveShader

open Engine

/-! ## Objects -/

/-- An object of any kind. -/
abbrev Item := Sigma Handle

/-- A handle as an object. -/
abbrev Handle.item {kind : ObjectKind} (h : Handle kind) : Item := ⟨kind, h⟩

/-- The objects that a request names. -/
@[simp] def Request.named : Request → List Item
  | .shaderSource s _ | .compileShader s | .shaderCompileStatus s | .shaderInfoLog s
  | .deleteShader s => [s.item]
  | .attachShader p s | .detachShader p s => [p.item, s.item]
  | .linkProgram p | .programLinkStatus p | .programInfoLog p | .deleteProgram p
  | .uniformLocation p _ | .attribLocation p _ | .useProgram (some p) => [p.item]
  | .bindVertexArray (some a) | .deleteVertexArray a => [a.item]
  | .bindBuffer _ (some b) | .deleteBuffer b => [b.item]
  | _ => []

/-- The object that a request deletes. -/
@[simp] def Request.deleted : Request → Option Item
  | .deleteShader s => some s.item
  | .deleteProgram p => some p.item
  | .deleteVertexArray a => some a.item
  | .deleteBuffer b => some b.item
  | _ => none

/-- The object that a request has created, by the reply to it. -/
@[simp] def Request.created : (r : Request) → r.Reply → Option Item
  | .createShader _, .ok s => some s.item
  | .createProgram, .ok p => some p.item
  | .createVertexArray, .ok a => some a.item
  | .createBuffer, .ok b => some b.item
  | _, _ => none

/-- The objects that are alive, and the current program. -/
structure Stock where
  live : Finset Item := ∅
  current : Option Program := none

/-- How many objects of a kind are alive. -/
def Stock.count (s : Stock) (kind : ObjectKind) : Nat :=
  (s.live.filter fun x => x.1 = kind).card

namespace Stock

/-- An object is created, if any is. -/
def add (s : Stock) : Option Item → Stock
  | none => s
  | some x => { s with live := insert x s.live }

/-- An object is deleted, if any is. -/
def remove (s : Stock) : Option Item → Stock
  | none => s
  | some x => { s with live := s.live.erase x }

/-- A request may change the current program. -/
@[simp] def use (s : Stock) : Request → Stock
  | .useProgram p => { s with current := p }
  | _ => s

@[simp] theorem add_none (s : Stock) : s.add none = s := rfl

@[simp] theorem add_some (s : Stock) (x : Item) :
    s.add (some x) = { s with live := insert x s.live } := rfl

@[simp] theorem remove_none (s : Stock) : s.remove none = s := rfl

@[simp] theorem remove_some (s : Stock) (x : Item) :
    s.remove (some x) = { s with live := s.live.erase x } := rfl

theorem mem_add {s : Stock} {o : Option Item} {x : Item} (h : x ∈ (s.add o).live) :
    x ∈ s.live ∨ x ∈ o := by
  cases o with
  | none => exact .inl h
  | some y =>
    rw [add_some, Finset.mem_insert] at h
    rcases h with rfl | h
    · exact .inr rfl
    · exact .inl h

theorem mem_of_mem_remove {s : Stock} {o : Option Item} {x : Item} (h : x ∈ (s.remove o).live) :
    x ∈ s.live := by
  cases o with
  | none => exact h
  | some y => exact Finset.mem_of_mem_erase h

theorem live_use (s : Stock) (r : Request) : (s.use r).live = s.live := by
  cases r <;> rfl

end Stock

/-- Only what is alive may be named, and a draw needs a current program that is alive. A device
makes no object that is alive. -/
def stock : Contract (Action.Reply Request.Reply) Stock where
  next
    | s, ⟨.gpu r, a⟩ => ((s.add (r.created a)).remove r.deleted).use r
    | s, _ => s
  assumed
    | s, ⟨.gpu r, a⟩ => ∀ x ∈ r.created a, x ∉ s.live
    | _, _ => True
  owed
    | s, ⟨.gpu r, _⟩ => (∀ x ∈ r.named, x ∈ s.live) ∧
      (r.isDraw = true → ∃ p, s.current = some p ∧ p.item ∈ s.live)
    | _, _ => True

variable {s : Stock}

section

variable {r : Request} {a : r.Reply}

@[simp] theorem stock_next :
    stock.next s ⟨.gpu r, a⟩ = ((s.add (r.created a)).remove r.deleted).use r := rfl

@[simp] theorem stock_assumed :
    stock.assumed s ⟨.gpu r, a⟩ ↔ ∀ x ∈ r.created a, x ∉ s.live := Iff.rfl

@[simp] theorem stock_owed :
    stock.owed s ⟨.gpu r, a⟩ ↔ (∀ x ∈ r.named, x ∈ s.live) ∧
      (r.isDraw = true → ∃ p, s.current = some p ∧ p.item ∈ s.live) := Iff.rfl

/-- What is alive after a request was so before, or was created by it. -/
theorem mem_stock_next {x : Item} (h : x ∈ (stock.next s ⟨.gpu r, a⟩).live) :
    x ∈ s.live ∨ x ∈ r.created a := by
  rw [stock_next, Stock.live_use] at h
  exact Stock.mem_add (Stock.mem_of_mem_remove h)

end

/-- Neither a notice nor a frame request concerns the objects. -/
@[simp] theorem stock_note {n : Notice} {a : Unit} :
    stock.next s ⟨.note n, a⟩ = s ∧ stock.owed s ⟨.note n, a⟩ := ⟨rfl, trivial⟩

@[simp] theorem stock_requestFrame {id : FrameId} :
    stock.next s ⟨.requestFrame, id⟩ = s ∧ stock.owed s ⟨.requestFrame, id⟩ := ⟨rfl, trivial⟩

theorem stock_ignoresNotes : stock.IgnoresNotes :=
  fun _ _ _ => ⟨rfl, trivial⟩

namespace Build

theorem compile_stock (stage : Stage) (text : String) :
    (compile stage text).Meets stock s fun r s' =>
      match r with
      | .error _ => s' = s
      | .ok shader => shader.item ∉ s.live ∧ s' = { s with live := insert shader.item s.live } := by
  unfold compile
  rw [Plan.meets_bind, meets_gpu]
  rintro (refusal | shader) hnew
  · simp
  · have hnew : shader.item ∉ s.live := hnew _ rfl
    simp [hnew]

theorem link_stock {vertex fragment : Shader} (hv : vertex.item ∈ s.live)
    (hf : fragment.item ∈ s.live) (hne : vertex ≠ fragment) :
    (link vertex fragment).Meets stock s fun r s' =>
      match r with
      | .error _ => s' = { s with live := (s.live.erase vertex.item).erase fragment.item }
      | .ok p => p.item ∉ s.live ∧
        s' = { s with live := insert p.item ((s.live.erase vertex.item).erase fragment.item) } := by
  unfold link
  rw [Plan.meets_bind, meets_gpu]
  rintro (refusal | p) hnew
  · simp [hv, hf, hne.symm]
  · have hnew : p.item ∉ s.live := hnew _ rfl
    have hpv : p.item ≠ vertex.item := by simp
    have hpf : p.item ≠ fragment.item := by simp
    simp [hv, hf, hne.symm, hnew, Finset.erase_insert_of_ne hpv, Finset.erase_insert_of_ne hpf]

/-- Building a program leaves the program behind, or nothing. -/
theorem program_stock (stages : Stages) :
    (program stages).Meets stock s fun r s' =>
      match r with
      | .error _ => s' = s
      | .ok p => p.item ∉ s.live ∧ s' = { s with live := insert p.item s.live } := by
  unfold program
  rw [Plan.meets_bind]
  refine (compile_stock _ _).mono fun r s₁ h => ?_
  cases r with
  | error e => exact h
  | ok vertex =>
    obtain ⟨hv, rfl⟩ := h
    dsimp only
    rw [Plan.meets_bind]
    refine (compile_stock _ _).mono fun r s₂ h => ?_
    cases r with
    | error e =>
      subst h
      simp [hv]
    | ok fragment =>
      obtain ⟨hf, rfl⟩ := h
      rw [Finset.mem_insert, not_or] at hf
      have hne : vertex ≠ fragment := fun h => hf.1 (h ▸ rfl)
      have hgone : ((insert fragment.item (insert vertex.item s.live)).erase vertex.item).erase
          fragment.item = s.live := by
        rw [Finset.erase_insert_of_ne hf.1, Finset.erase_insert hv, Finset.erase_insert hf.2]
      refine (link_stock (by simp) (by simp) hne).mono fun r s₃ h => ?_
      simp only [hgone] at h
      cases r with
      | error e => exact h
      | ok p => exact ⟨fun hp => h.1 (by simp [hp]), h.2⟩

theorem positionIndex_stock {p : Program} (hp : p.item ∈ s.live) :
    (positionIndex p).Meets stock s fun _ s' => s' = s := by
  unfold positionIndex
  rw [Plan.meets_bind, meets_gpu]
  rintro (_ | index) _ <;> simp [hp]

theorem placeIndices_stock (mesh : Mesh) {array : VertexArray} {vertices : Buffer}
    (ha : array.item ∈ s.live) (hv : vertices.item ∈ s.live) :
    (placeIndices mesh array vertices).Meets stock s fun r s' =>
      match r with
      | .error _ => s' = { s with live := (s.live.erase array.item).erase vertices.item }
      | .ok indices => (∀ i ∈ indices, i.item ∉ s.live) ∧
        s' = s.add (indices.map Handle.item) := by
  unfold placeIndices
  cases mesh.isIndexed with
  | false => simp
  | true =>
    dsimp only
    rw [Plan.meets_bind, meets_gpu]
    rintro (refusal | indices) hnew
    · simp [ha, hv]
    · have hnew : indices.item ∉ s.live := hnew _ rfl
      simp [hnew]

end Build

/-- The objects that hold a mesh. -/
def PlacedMesh.items (m : PlacedMesh) : Finset Item :=
  insert m.array.item (insert m.vertices.item (m.indices.elim ∅ fun indices => {indices.item}))

/-- A mesh has come onto the device: all its objects are new. -/
structure PlacedMesh.Added (m : PlacedMesh) (s s' : Stock) : Prop where
  distinct : m.indices ≠ some m.vertices
  new : ∀ x ∈ m.items, x ∉ s.live
  live : s'.live = m.items ∪ s.live

namespace Build

/-- Placing a mesh leaves the objects of the mesh behind, or nothing. -/
theorem place_stock {p : Program} (mesh : Mesh) (hp : p.item ∈ s.live) :
    (place p mesh).Meets stock s fun r s' =>
      match r with
      | .error _ => s' = s
      | .ok m => m.Added s s' := by
  unfold place
  rw [Plan.meets_bind, meets_gpu]
  rintro (refusal | array) hnew
  · simp
  have ha : array.item ∉ s.live := hnew _ rfl
  refine ⟨by simp, ?_⟩
  dsimp only
  rw [Plan.meets_bind, meets_gpu]
  refine fun _ _ => ⟨by simp, ?_⟩
  rw [Plan.meets_bind, meets_gpu]
  rintro (refusal | vertices) hnew
  · simp [ha]
  have hv : vertices.item ∉ s.live ∧ vertices.item ≠ array.item := by
    have hv : vertices.item ∉ insert array.item s.live := hnew _ rfl
    rwa [Finset.mem_insert, not_or, and_comm] at hv
  refine ⟨by simp, ?_⟩
  generalize hs₁ : stock.next _ _ = s₁
  replace hs₁ : s₁ = { s with live := insert vertices.item (insert array.item s.live) } := hs₁.symm
  have hp₁ : p.item ∈ s₁.live := by simp [hs₁, hp]
  have ha₁ : array.item ∈ s₁.live := by simp [hs₁]
  have hv₁ : vertices.item ∈ s₁.live := by simp [hs₁]
  simp only [Plan.meets_bind, meets_gpu]
  refine fun _ _ => ⟨by simpa using hv₁, fun _ _ => ⟨by simp, ?_⟩⟩
  refine (positionIndex_stock (s := s₁) hp₁).mono fun index s₂ hs₂ => ?_
  subst hs₂
  refine fun _ _ => ⟨by simp, ?_⟩
  refine (placeIndices_stock (s := s₂) mesh ha₁ hv₁).mono fun r s₃ hs₃ => ?_
  cases r with
  | error e =>
    rw [Plan.meets_pure, hs₃, hs₁]
    dsimp only
    rw [Finset.erase_insert_of_ne hv.2, Finset.erase_insert ha, Finset.erase_insert hv.1]
  | ok indices =>
    obtain ⟨hi, rfl⟩ := hs₃
    dsimp only
    rw [Plan.meets_bind]
    refine stock_ignoresNotes.note ⟨fun h => hi vertices h hv₁, ?_, ?_⟩
    · have hi' : ∀ i ∈ indices, i.item ∉ s.live := fun i hmem h => hi i hmem (by simp [hs₁, h])
      cases indices with
      | none => simp [PlacedMesh.items, ha, hv.1]
      | some i => simp [PlacedMesh.items, ha, hv.1, hi' i rfl]
    · rw [hs₁]
      cases indices <;> simp [PlacedMesh.items, Finset.insert_comm]

theorem deleteProgram_stock {p : Program} (hp : p.item ∈ s.live) :
    (deleteProgram p).Meets stock s fun _ s' => s'.live = s.live.erase p.item := by
  simp [deleteProgram, hp]

end Build

/-- The objects that are held. -/
def Holdings.items (h : Holdings) : Finset Item :=
  (h.program.elim ∅ fun p => {p.item}) ∪ h.placed.elim ∅ PlacedMesh.items

/-- The two buffers of a mesh are not the same. -/
def Holdings.Distinct (h : Holdings) : Prop :=
  ∀ m, h.placed = some m → m.indices ≠ some m.vertices

theorem Session.Holds.items {session : Session} {p : Program} {m : PlacedMesh}
    (h : session.Holds p m) : session.holdings.items = {p.item} ∪ m.items := by
  rw [h.holdings]
  rfl

theorem Session.Holds.program_mem {session : Session} {p : Program} {m : PlacedMesh}
    (h : session.Holds p m) : p.item ∈ session.holdings.items := by
  simp [h.items]

theorem Session.Holds.array_mem {session : Session} {p : Program} {m : PlacedMesh}
    (h : session.Holds p m) : m.array.item ∈ session.holdings.items := by
  simp [h.items, PlacedMesh.items]

theorem Session.Holds.distinct {session : Session} {p : Program} {m : PlacedMesh}
    (h : session.Holds p m) (hd : session.holdings.Distinct) : m.indices ≠ some m.vertices :=
  hd m (by rw [h.holdings]; rfl)

namespace Build

/-- Building a program with its mesh leaves what a session is to hold behind, or nothing. -/
theorem programAndMesh_stock (stages : Stages) :
    (programAndMesh stages).Meets stock s fun r s' =>
      match r with
      | .error _ => s'.live = s.live
      | .ok (p, m) => m.indices ≠ some m.vertices ∧
        s'.live = (Holdings.of p m).items ∪ s.live := by
  unfold programAndMesh
  rw [Plan.meets_bind]
  refine (program_stock stages).mono fun r s₁ h => ?_
  cases r with
  | error e =>
    subst h
    rfl
  | ok p =>
    obtain ⟨hp, rfl⟩ := h
    dsimp only
    rw [Plan.meets_bind, meets_gpu]
    refine fun _ _ => ⟨by simp, ?_⟩
    rw [Plan.meets_bind]
    refine (place_stock stages.mesh (by simp)).mono fun r s₂ h => ?_
    cases r with
    | error e =>
      subst h
      dsimp only
      rw [Plan.meets_bind]
      refine (deleteProgram_stock (by simp)).mono fun _ s₃ h => ?_
      rw [Plan.meets_pure, h]
      exact Finset.erase_insert hp
    | ok m =>
      rw [Plan.meets_pure]
      refine ⟨h.distinct, ?_⟩
      rw [h.live]
      simp [Holdings.items, Holdings.of]

end Build

theorem PlacedMesh.program_notMem_items {p : Program} (m : PlacedMesh) : p.item ∉ m.items := by
  cases hm : m.indices <;> simp [PlacedMesh.items, hm]

/-- Deleting a mesh deletes the objects of the mesh. -/
theorem PlacedMesh.delete_stock {m : PlacedMesh} (hm : m.items ⊆ s.live)
    (hd : m.indices ≠ some m.vertices) :
    m.delete.Meets stock s fun _ s' => s'.live = s.live \ m.items := by
  have ha : m.array.item ∈ s.live := hm (by simp [PlacedMesh.items])
  have hv : m.vertices.item ∈ s.live := hm (by simp [PlacedMesh.items])
  cases hi : m.indices with
  | none =>
    have hgone : (s.live.erase m.array.item).erase m.vertices.item =
        s.live \ {m.array.item, m.vertices.item} := by grind
    simpa [PlacedMesh.delete, ha, hv, hi, PlacedMesh.items] using hgone
  | some indices =>
    have hne : indices ≠ m.vertices := fun h => hd (by rw [hi, h])
    have hx : indices.item ∈ s.live := hm (by simp [PlacedMesh.items, hi])
    have hgone : ((s.live.erase m.array.item).erase m.vertices.item).erase indices.item =
        s.live \ {m.array.item, m.vertices.item, indices.item} := by grind
    simpa [PlacedMesh.delete, ha, hv, hi, hx, hne, PlacedMesh.items] using hgone

theorem Feeds.ofProgram_stock {p : Program} (hp : p.item ∈ s.live) :
    (Feeds.ofProgram p).Meets stock s fun _ s' => s' = s := by
  simp [Feeds.ofProgram, hp]

/-- Preparing a session leaves what the session holds behind, or nothing. -/
theorem Session.prepare_stock (stages : Stages) (parameters : Parameters) :
    (prepare stages parameters).Meets stock s fun r s' =>
      match r with
      | .error _ => s'.live = s.live
      | .ok session => session.holdings.Distinct ∧ s'.live = session.holdings.items ∪ s.live := by
  unfold prepare
  rw [Plan.meets_bind]
  refine stock_ignoresNotes.note ?_
  rw [Plan.meets_bind]
  refine (Build.programAndMesh_stock stages).mono fun r s₁ h => ?_
  cases r with
  | error e =>
    dsimp only
    rw [Plan.meets_bind]
    exact stock_ignoresNotes.note h
  | ok pair =>
    obtain ⟨p, m⟩ := pair
    obtain ⟨hd, hl⟩ := h
    dsimp only
    rw [Plan.meets_bind]
    refine stock_ignoresNotes.note ?_
    rw [Plan.meets_bind]
    have hp : p.item ∈ s₁.live := by simp [hl, Holdings.items, Holdings.of]
    refine (Feeds.ofProgram_stock hp).mono fun feeds s₂ h => ?_
    subst h
    refine ⟨?_, hl⟩
    rintro _ ⟨⟩
    exact hd

/-! ## Operations -/

/-- The contract of those who create nothing. -/
def idle : Contract (Action.Reply Request.Reply) Unit where
  next _ _ := ()
  owed
    | _, ⟨.gpu r, a⟩ => r.created a = none
    | _, _ => True

theorem stock_ignoresFeeds : stock.IgnoresFeeds := by
  rintro s ⟨a, r⟩ he
  cases a with
  | gpu q => cases q <;> simp at he ⊢
  | _ => cases he

namespace View

variable {v : View}

/-- The objects that the live session holds. -/
def items (v : View) : Finset Item :=
  v.session.elim ∅ fun session => session.holdings.items

/-- The objects alive are those that the live session holds. -/
structure Stocked (v : View) (s : Stock) : Prop where
  ready : v.Ready
  live : s.live = v.items
  distinct : ∀ session, v.session = some session → session.holdings.Distinct

theorem stocked_of_none (hv : v.session = none) (hs : s.live = ∅) : v.Stocked s where
  ready := ready_of_none hv
  live := by simp [items, hv, hs]
  distinct session h := by simp [hv] at h

theorem stocked_of_live {session : Session} {p : Program} {m : PlacedMesh} {id : FrameId}
    (hv : v.session = some session) (hc : v.canvas.hasContext = true) (hl : session.Live p m id)
    (hd : session.holdings.Distinct) (hs : s.live = session.holdings.items) : v.Stocked s where
  ready := by
    refine ⟨fun session' h => ?_, fun _ => hc⟩
    rw [hv, Option.some_inj] at h
    exact ⟨p, m, id, h ▸ hl⟩
  live := by
    rw [hs, items, hv]
    rfl
  distinct session' h := by
    rw [hv, Option.some_inj] at h
    exact h ▸ hd

theorem Resembles.stocked {v' : View} (h : v'.Resembles v) (hv : v.Stocked s) : v'.Stocked s where
  ready := h.ready hv.ready
  live := by
    rw [items, h.session]
    exact hv.live
  distinct := by
    rw [h.session]
    exact hv.distinct

/-- Retiring the live session deletes everything. -/
theorem retire_stock (h : v.Stocked s) :
    v.retire.Meets stock s fun v' s' => v' = v.retired ∧ s'.live = ∅ := by
  refine retire_meets stock_ignoresNotes h.ready.sound ?_ ?_ ?_
  · intro hs
    refine ⟨rfl, ?_⟩
    rw [h.live, items, hs]
    rfl
  · intro session p m id hs _ hl
    have hlive : s.live = {p.item} ∪ m.items := by rw [h.live, items, hs, ← hl.items]; rfl
    have hd : m.indices ≠ some m.vertices := hl.distinct (h.distinct session hs)
    have hp : p.item ∈ s.live := by simp [hlive]
    rw [Plan.meets_bind, meets_cancelFrame]
    refine fun _ => ⟨trivial, ?_⟩
    rw [Plan.meets_bind]
    refine (Build.deleteProgram_stock hp).mono fun _ s₁ h₁ => ?_
    have hm : m.items ⊆ s₁.live := by
      rw [h₁, hlive]
      intro x hx
      have hxp : x ≠ p.item := by
        rintro rfl
        exact m.program_notMem_items hx
      simp [hxp, hx]
    refine (PlacedMesh.delete_stock hm hd).mono fun _ s₂ h₂ => ⟨rfl, ?_⟩
    rw [h₂, h₁, hlive]
    have hgone : ({p.item} ∪ m.items).erase p.item \ m.items = ∅ := by grind
    exact hgone
  · intro session p m id hs hc _
    rw [h.ready.hasContext (by simp [hs])] at hc
    cases hc

theorem takeUp_stock (hv : v.session = none) (hs : s.live = ∅) (change : Change) (now : Nat) :
    (v.takeUp change now).Meets stock s fun a s' => a.2.Stocked s' := by
  refine takeUp_meets stock_ignoresNotes
    (fun r v' hv' => stocked_of_none (hv'.session.trans hv) hs) ?_
  intro _ width height stages parameters
  rw [Plan.meets_bind, meets_gpu]
  refine fun _ _ => ⟨by simp, ?_⟩
  refine ((Session.prepare_stock stages parameters).and_yields
    (Session.prepare_yields stages parameters)).mono ?_
  rintro r s₁ ⟨hr, hy⟩
  cases r with
  | error e => exact fun v' hv' => stocked_of_none (hv'.session.trans hv) (hr.trans hs)
  | ok session =>
    obtain ⟨hd, hlive⟩ := hr
    obtain ⟨p, m, hl⟩ := hy session rfl
    replace hlive : s₁.live = session.holdings.items := by
      rw [hlive]
      simp [hs]
    have ha : m.array.item ∈ s₁.live := hlive ▸ hl.array_mem
    dsimp only
    rw [hl.start_eq]
    simp only [PlacedMesh.select, Plan.meets_bind, meets_gpu, meets_requestFrame, meets_note,
      Plan.meets_pure]
    refine fun _ _ => ⟨by simpa using ha, fun _ _ => ⟨by simp, fun id _ =>
      ⟨trivial, fun _ => ⟨trivial, fun _ => ⟨trivial, fun v' hv' hc => ?_⟩⟩⟩⟩⟩
    exact stocked_of_live hv' hc (hl.live now id) hd hlive

theorem frame_stock (h : v.Stocked s) (id : FrameId) (now : Nat) :
    (v.frame id now).Meets stock s fun a s' => a.2.Stocked s' := by
  refine frame_meets stock_ignoresNotes stock_ignoresFeeds h.ready.sound (fun _ => h) ?_
  intro session p m hs hc hl color
  have hlive : s.live = session.holdings.items := by rw [h.live, items, hs]; rfl
  have hp : p.item ∈ s.live := hlive ▸ hl.program_mem
  have ha : m.array.item ∈ s.live := hlive ▸ hl.array_mem
  have hst : ∀ next, stock.assumed { s with current := some p } ⟨.requestFrame, next⟩ →
      View.Stocked { v with session := some (session.advanced next) }
        { s with current := some p } :=
    fun next _ => stocked_of_live rfl hc (hl.advanced next) (h.distinct session hs) hlive
  cases hi : session.mesh.isIndexed <;>
    simpa [PlacedMesh.select, Session.draw, hi, hp, ha] using hst

/-- Letting go of the view deletes everything. -/
theorem drop_stock (h : v.Stocked s) : v.drop.Meets stock s fun _ s' => s'.live = ∅ := by
  unfold drop
  rw [Plan.meets_discard]
  exact (retire_stock h).mono fun _ _ h => h.2

/-- Letting go of the view creates nothing, so there is nothing to assume of the device. -/
theorem drop_assumed (h : v.Sound) {d : Device} (host : Host d) (s : Stock) :
    stock.Assumed s (v.drop.run d.host host).log := by
  have hd : v.drop.Meets idle () fun _ _ => True := by
    unfold drop
    rw [Plan.meets_discard]
    refine retire_meets (fun _ _ _ => ⟨rfl, trivial⟩) h (fun _ => trivial) ?_ ?_
    · intro session p m id _ _ _
      cases hm : m.indices <;> simp [idle, Build.deleteProgram, PlacedMesh.delete, hm]
    · intro session p m id _ _ _
      simp [idle]
  refine Contract.Along.imp idle (hd.run_free (fun _ _ => trivial) d.host host).1 ?_
  intro _ e he s
  obtain ⟨a, r⟩ := e
  cases a with
  | gpu q =>
    intro x hx
    rw [he] at hx
    cases hx
  | _ => trivial

/-- **The objects alive are those that the live session holds**, after every operation. -/
theorem perform_stock (h : v.Stocked s) (op : Operation) :
    (v.perform op).Meets stock s fun a s' => a.2.Stocked s' := by
  refine perform_meets stock_ignoresNotes (fun _ _ r v' hv' => hv'.stocked h) ?_ ?_ ?_
  · intro _
    refine (retire_stock h).mono ?_
    rintro _ s ⟨rfl, hs⟩ change now
    exact takeUp_stock v.session_retired hs change now
  · rintro -
    refine (retire_stock h).mono ?_
    rintro _ s ⟨rfl, hs⟩ v' hv'
    exact stocked_of_none (hv'.session.trans v.session_retired) hs
  · rintro id now rfl
    exact frame_stock h id now

end View

/-! ## Courses -/

/-- How many objects of each kind a session holds. -/
theorem Session.Holds.count {session : Session} {p : Program} {m : PlacedMesh}
    (hl : session.Holds p m) (hd : session.holdings.Distinct)
    (hs : s.live = session.holdings.items) :
    s.count .shader = 0 ∧ s.count .program = 1 ∧ s.count .vertexArray = 1 ∧
      s.count .buffer = match session.mesh with
        | .quad => 1
        | .cube => 2 := by
  have hne : m.indices ≠ some m.vertices := hl.distinct hd
  have hi : m.indices.isSome = session.mesh.isIndexed := by rw [hl.mesh, hl.indexed]
  unfold Stock.count
  rw [hs, hl.items]
  cases hm : session.mesh with
  | quad =>
    rw [hm, show Mesh.quad.isIndexed = false from rfl, Option.isSome_eq_false_iff,
      Option.isNone_iff_eq_none] at hi
    simp [PlacedMesh.items, hi, Finset.filter_insert, Finset.filter_singleton]
  | cube =>
    rw [hm, show Mesh.cube.isIndexed = true from rfl, Option.isSome_iff_exists] at hi
    obtain ⟨indices, hi⟩ := hi
    have hvi : m.vertices ≠ indices := fun h => hne (by rw [hi, h])
    simp [PlacedMesh.items, hi, hvi, Finset.filter_insert, Finset.filter_singleton]

namespace Course

variable {d : Device} {c : Course d}

/-- The device has never made a handle that was alive already. -/
def Trusted (c : Course d) : Prop :=
  stock.Assumed {} c.log

/-- The objects alive after everything that happened. -/
def objects (c : Course d) : Stock :=
  stock.after {} c.log

/-- As long as the device is to be trusted, everything owed is kept and the view is stocked. -/
def Owns (c : Course d) : Prop :=
  c.Trusted → stock.Owed {} c.log ∧ c.view.Stocked c.objects

theorem Owns.perform (h : c.Owns) (op : Operation) : (c.perform op).Owns := by
  unfold Owns Trusted objects
  rw [log_perform, stock.assumed_append, stock.owed_append, stock.after_append]
  rintro ⟨ha, ha'⟩
  obtain ⟨ho, hs⟩ := h ha
  obtain ⟨ho', hs'⟩ := (View.perform_stock hs op).run d.host c.host ha'
  exact ⟨⟨ho, ho'⟩, hs'⟩

theorem owns_run (h : c.Owns) (turns : List Turn) : (c.run turns).Owns :=
  run_induction (P := Owns) h (fun c t h => by
    cases t with
    | perform op => exact h.perform op
    | drain =>
      unfold Owns Trusted objects step
      rw [log_drain]
      exact h) turns

end Course

/-! ## Devices that keep count -/

namespace Objects

variable {rules : Rules}

/-- Objects are numbered one after the other. -/
theorem created_id (rules : Rules) (r : Request) (o : Objects) :
    o.issued ≤ (answer rules r o).2.issued ∧ ∀ x ∈ r.created (answer rules r o).1,
      x.2.id = o.issued + 1 ∧ (answer rules r o).2.issued = o.issued + 1 := by
  cases r with
  | createShader _ | createProgram | createVertexArray | createBuffer =>
    cases hc : o.creationsLeft with
    | none => simp [answer, create, allocate, hc]
    | some n => cases n <;> simp [answer, create, allocate, hc]
  | _ => simp [answer]

/-- **A device that keeps count is to be trusted**: it never makes a handle again. -/
theorem host_trusted {α : Type} (p : Engine α) (h : Host (device rules)) {s : Stock}
    (hs : ∀ x ∈ s.live, x.2.id ≤ h.device.issued) :
    stock.Assumed s (p.run (device rules).host h).log ∧
      ∀ x ∈ (stock.after s (p.run (device rules).host h).log).live,
        x.2.id ≤ (p.run (device rules).host h).state.device.issued := by
  induction p generalizing h s with
  | done a => exact ⟨trivial, hs⟩
  | ask q k ih =>
    cases q with
    | requestFrame =>
      obtain ⟨ha, hl⟩ := ih h.queue.request.1 { h with queue := h.queue.request.2 } hs
      exact ⟨⟨trivial, ha⟩, hl⟩
    | cancelFrame id =>
      obtain ⟨ha, hl⟩ := ih () { h with queue := h.queue.cancel id } hs
      exact ⟨⟨trivial, ha⟩, hl⟩
    | note n =>
      obtain ⟨ha, hl⟩ := ih () h hs
      exact ⟨⟨trivial, ha⟩, hl⟩
    | gpu r =>
      obtain ⟨hle, hnew⟩ := created_id rules r h.device
      have hs' : ∀ x ∈ (stock.next s ⟨.gpu r, (answer rules r h.device).1⟩).live,
          x.2.id ≤ (answer rules r h.device).2.issued := by
        intro x hx
        rcases mem_stock_next hx with hx | hx
        · exact Nat.le_trans (hs x hx) hle
        · obtain ⟨hid, hissued⟩ := hnew x hx
          omega
      obtain ⟨ha, hl⟩ := ih (answer rules r h.device).1
        { h with device := (answer rules r h.device).2 } hs'
      refine ⟨⟨fun x hx hmem => ?_, ha⟩, hl⟩
      have hid := (hnew x hx).1
      have := hs x hmem
      omega

/-- So far no handle was made again, and what is alive has been counted. -/
structure Counted (c : Course (device rules)) : Prop where
  trusted : c.Trusted
  counted : ∀ x ∈ c.objects.live, x.2.id ≤ Objects.issued c.host.device

theorem Counted.step {c : Course (device rules)} (h : Counted c) (t : Turn) :
    Counted (c.step t) := by
  cases t with
  | drain =>
    have hlog : (c.step .drain).log = c.log := c.log_drain
    refine ⟨?_, ?_⟩
    · rw [Course.Trusted, hlog]
      exact h.trusted
    · rw [Course.objects, hlog]
      exact h.counted
  | perform op =>
    obtain ⟨ha, hl⟩ := host_trusted (c.view.perform op) c.host h.counted
    have hlog : (c.step (.perform op)).log = c.log ++ (c.outcome op).log := c.log_perform op
    refine ⟨?_, ?_⟩
    · rw [Course.Trusted, hlog, stock.assumed_append]
      exact ⟨h.trusted, ha⟩
    · rw [Course.objects, hlog, stock.after_append]
      exact hl

/-- No course on a device that keeps count makes a handle again. -/
theorem course_trusted (o : Objects) (v : View) (turns : List Turn) :
    ((Course.start (d := device rules) o v).run turns).Trusted := by
  have h : Counted (Course.start (d := device rules) o v) :=
    ⟨trivial, fun x hx => absurd hx (Finset.notMem_empty x)⟩
  exact (Course.run_induction (P := Counted) h (fun _ t hc => hc.step t) turns).trusted

end Objects

/-! ## The objects on the device -/

namespace Course

variable {d : Device}

/-- **Every object is owned.** In every course of a view of a canvas with a context, on any device
that makes no handle that is alive already, and whatever the device refuses,

* only objects that are alive are named, so that none is deleted twice, and nothing is drawn unless
  the current program is alive;
* without a live session no object is alive;
* with one the objects alive are those that it holds: no shader, one program, one vertex array, and
  one buffer for a quad or two for a cube;
* letting go of the view deletes what is left. -/
theorem objects_owned (device : d.State) (display : PixelSize) (parameters : Parameters)
    (turns : List Turn)
    (h : ((start device (.onCanvas true display parameters)).run turns).Trusted) :
    let c := (start device (.onCanvas true display parameters)).run turns
    let final := (c.view.drop.run d.host c.host).log
    stock.Owed {} c.log ∧
      (c.view.session = none → c.objects.live = ∅) ∧
      (∀ s, c.view.session = some s → c.objects.live = s.holdings.items ∧
        c.objects.count .shader = 0 ∧ c.objects.count .program = 1 ∧
        c.objects.count .vertexArray = 1 ∧
        c.objects.count .buffer = match s.mesh with
          | .quad => 1
          | .cube => 2) ∧
      stock.Owed c.objects final ∧ (stock.after c.objects final).live = ∅ := by
  intro c final
  obtain ⟨ho, hs⟩ := owns_run (c := start device (.onCanvas true display parameters))
    (fun _ => ⟨trivial, View.stocked_of_none rfl rfl⟩) turns h
  refine ⟨ho, ?_, ?_, ?_⟩
  · intro hn
    rw [hs.live, View.items, hn]
    rfl
  · intro s hss
    have hlive : c.objects.live = s.holdings.items := by
      rw [hs.live, View.items, hss]
      rfl
    obtain ⟨p, m, id, hl⟩ := hs.ready.sound s hss
    exact ⟨hlive, hl.count (hs.distinct s hss) hlive⟩
  · exact (View.drop_stock hs).run d.host c.host (View.drop_assumed hs.ready.sound c.host _)

/-- A course on the scripted device, at whose end a session is live. -/
theorem objects_owned_quad :
    (Scripted.course.run Scripted.turns).Trusted ∧
      (Scripted.course.run Scripted.turns).view.session.isSome ∧
      stock.Owed {} (Scripted.course.run Scripted.turns).log := by
  have h : (Scripted.course.run Scripted.turns).Trusted := Objects.course_trusted _ _ _
  have ho := objects_owned (d := Scripted.device) ({} : Objects) ⟨4, 4⟩ {} Scripted.turns h
  exact ⟨h, by decide +kernel, ho.1⟩

end Course

end LiveShader
