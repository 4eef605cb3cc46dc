import LiveShader.Proofs.Stock

/-!
# The ledger of objects

The contract `ledger` enters each object when it is made and strikes it out when it is deleted. It
is a multiset and assumes nothing of the device: a handle that is made twice is entered twice, and
then it takes two deletions to be rid of it. What is owed is that nothing is struck out that was not
entered.

* `Holdings.parts` are the objects of a session, in the order in which they are deleted.
* Each step of building leaves the entries of its value if it succeeds, and none if it fails.
* A view keeps the `ledger` in so far as the entries are those of its live session.

Results:
* `Session.prepare_ledger`: preparing a session enters what it holds, or nothing.
* `View.perform_ledger`: after every operation the entries are those of the live session.
* `Course.ledger_run`: so it is after every course, on every device.
-/

namespace LiveShader

open Engine

/-! ## Entries -/

/-- The entries after a request: what it has created is entered, what it deletes is struck out. -/
def entriesAfter (s : Multiset Item) (created deleted : Option Item) : Multiset Item :=
  let s := created.elim s (· ::ₘ s)
  deleted.elim s s.erase

/-- Everything that was made and not deleted since. Only what was made may be deleted. -/
def ledger : Contract (Action.Reply Request.Reply) (Multiset Item) where
  next
    | s, ⟨.gpu r, a⟩ => entriesAfter s (r.created a) r.deleted
    | s, _ => s
  owed
    | s, ⟨.gpu r, _⟩ => ∀ x ∈ r.deleted, x ∈ s
    | _, _ => True

variable {s : Multiset Item}

section

variable {x : Item} {r : Request} {a : r.Reply}

@[simp] theorem entriesAfter_none : entriesAfter s none none = s := rfl

@[simp] theorem entriesAfter_created : entriesAfter s (some x) none = x ::ₘ s := rfl

@[simp] theorem entriesAfter_deleted : entriesAfter s none (some x) = s.erase x := rfl

@[simp] theorem ledger_next :
    ledger.next s ⟨.gpu r, a⟩ = entriesAfter s (r.created a) r.deleted := rfl

@[simp] theorem ledger_owed : ledger.owed s ⟨.gpu r, a⟩ ↔ ∀ x ∈ r.deleted, x ∈ s := Iff.rfl

@[simp] theorem ledger_assumed (e : Exchange (Action.Reply Request.Reply)) : ledger.assumed s e :=
  trivial

end

/-- Neither a notice nor a frame request is entered. -/
@[simp] theorem ledger_note {n : Notice} {a : Unit} :
    ledger.next s ⟨.note n, a⟩ = s ∧ ledger.owed s ⟨.note n, a⟩ := ⟨rfl, trivial⟩

@[simp] theorem ledger_requestFrame {id : FrameId} :
    ledger.next s ⟨.requestFrame, id⟩ = s ∧ ledger.owed s ⟨.requestFrame, id⟩ := ⟨rfl, trivial⟩

@[simp] theorem ledger_cancelFrame {id : FrameId} {a : Unit} :
    ledger.next s ⟨.cancelFrame id, a⟩ = s ∧ ledger.owed s ⟨.cancelFrame id, a⟩ := ⟨rfl, trivial⟩

theorem ledger_ignoresNotes : ledger.IgnoresNotes :=
  fun _ _ _ => ⟨rfl, trivial⟩

theorem ledger_ignoresFeeds : ledger.IgnoresFeeds := by
  rintro s ⟨a, r⟩ he
  cases a with
  | gpu q => cases q <;> simp at he ⊢
  | _ => cases he

/-! ## What a session holds, in order -/

/-- The objects of a mesh, in the order in which they are deleted. -/
def PlacedMesh.parts (m : PlacedMesh) : List Item :=
  m.array.item :: m.vertices.item :: (m.indices.map Handle.item).toList

/-- The objects that are held, in the order in which they are deleted. -/
def Holdings.parts (h : Holdings) : List Item :=
  (h.program.map Handle.item).toList ++ h.placed.elim [] PlacedMesh.parts

/-- The objects of the live session. -/
def View.parts (v : View) : List Item :=
  v.session.elim [] fun session => session.holdings.parts

/-- The first entry of a list is an entry like any other. -/
theorem cons_parts_add (x : Item) (l : List Item) : ↑(x :: l) + s = x ::ₘ (↑l + s) := by
  rw [← Multiset.cons_coe, Multiset.cons_add]

theorem Holdings.parts_of (p : Program) (m : PlacedMesh) :
    (Holdings.of p m).parts = p.item :: m.parts := rfl

/-! ## Building -/

namespace Build

theorem compile_ledger (stage : Stage) (text : String) :
    (compile stage text).Meets ledger s fun r s' =>
      match r with
      | .error _ => s' = s
      | .ok shader => s' = shader.item ::ₘ s := by
  unfold compile
  rw [Plan.meets_bind, meets_gpu]
  rintro (refusal | shader) _
  · simp
  · simp

theorem link_ledger (vertex fragment : Shader) :
    (link vertex fragment).Meets ledger (vertex.item ::ₘ fragment.item ::ₘ s) fun r s' =>
      match r with
      | .error _ => s' = s
      | .ok p => s' = p.item ::ₘ s := by
  unfold link
  rw [Plan.meets_bind, meets_gpu]
  rintro (refusal | p) _
  · simp
  · have hv : vertex.item ≠ p.item := by simp
    have hf : fragment.item ≠ p.item := by simp
    simp [Multiset.erase_cons_tail, hv.symm, hf.symm]

/-- Building a program enters the program, or nothing. -/
theorem program_ledger (stages : Stages) :
    (program stages).Meets ledger s fun r s' =>
      match r with
      | .error _ => s' = s
      | .ok p => s' = p.item ::ₘ s := by
  unfold program
  rw [Plan.meets_bind]
  refine (compile_ledger _ _).mono fun r s₁ h => ?_
  cases r with
  | error e => exact h
  | ok vertex =>
    subst h
    dsimp only
    rw [Plan.meets_bind]
    refine (compile_ledger _ _).mono fun r s₂ h => ?_
    cases r with
    | error e =>
      subst h
      simp
    | ok fragment =>
      subst h
      rw [Multiset.cons_swap]
      exact link_ledger vertex fragment

theorem positionIndex_ledger (p : Program) :
    (positionIndex p).Meets ledger s fun _ s' => s' = s := by
  unfold positionIndex
  rw [Plan.meets_bind, meets_gpu]
  rintro (_ | index) _ <;> simp

theorem placeIndices_ledger (mesh : Mesh) (array : VertexArray) (vertices : Buffer) :
    (placeIndices mesh array vertices).Meets ledger (vertices.item ::ₘ array.item ::ₘ s)
      fun r s' =>
        match r with
        | .error _ => s' = s
        | .ok indices => s' = PlacedMesh.parts ⟨mesh, array, vertices, indices⟩ + s := by
  unfold placeIndices
  cases mesh.isIndexed with
  | false =>
    rw [Plan.meets_pure, Multiset.cons_swap]
    simp [PlacedMesh.parts, cons_parts_add]
  | true =>
    dsimp only
    rw [Plan.meets_bind, meets_gpu]
    rintro (refusal | indices) _
    · simp
    · have hswap : indices.item ::ₘ vertices.item ::ₘ array.item ::ₘ s =
          array.item ::ₘ vertices.item ::ₘ indices.item ::ₘ s := by
        rw [Multiset.cons_swap indices.item, Multiset.cons_swap indices.item,
          Multiset.cons_swap vertices.item]
      simp [PlacedMesh.parts, cons_parts_add, hswap]

/-- Placing a mesh enters the objects of the mesh, or nothing. -/
theorem place_ledger (p : Program) (mesh : Mesh) :
    (place p mesh).Meets ledger s fun r s' =>
      match r with
      | .error _ => s' = s
      | .ok m => s' = m.parts + s := by
  unfold place
  rw [Plan.meets_bind, meets_gpu]
  rintro (refusal | array) _
  · simp
  refine ⟨by simp, ?_⟩
  dsimp only
  rw [Plan.meets_bind, meets_gpu]
  refine fun _ _ => ⟨by simp, ?_⟩
  rw [Plan.meets_bind, meets_gpu]
  rintro (refusal | vertices) _
  · simp
  refine ⟨by simp, ?_⟩
  simp only [Plan.meets_bind, meets_gpu]
  refine fun _ _ => ⟨by simp, fun _ _ => ⟨by simp, ?_⟩⟩
  refine (positionIndex_ledger p).mono fun index s₁ h => ?_
  subst h
  refine fun _ _ => ⟨by simp, ?_⟩
  refine (placeIndices_ledger mesh array vertices).mono fun r s₂ h => ?_
  cases r with
  | error e => exact h
  | ok indices =>
    dsimp only
    rw [Plan.meets_bind]
    exact ledger_ignoresNotes.note h

theorem deleteProgram_ledger (p : Program) :
    (deleteProgram p).Meets ledger (p.item ::ₘ s) fun _ s' => s' = s := by
  simp [deleteProgram]

/-- Building a program with its mesh enters what a session is to hold, or nothing. -/
theorem programAndMesh_ledger (stages : Stages) :
    (programAndMesh stages).Meets ledger s fun r s' =>
      match r with
      | .error _ => s' = s
      | .ok (p, m) => s' = (Holdings.of p m).parts + s := by
  unfold programAndMesh
  rw [Plan.meets_bind]
  refine (program_ledger stages).mono fun r s₁ h => ?_
  cases r with
  | error e => exact h
  | ok p =>
    subst h
    dsimp only
    rw [Plan.meets_bind, meets_gpu]
    refine fun _ _ => ⟨by simp, ?_⟩
    rw [Plan.meets_bind]
    refine (place_ledger p stages.mesh).mono fun r s₂ h => ?_
    cases r with
    | error e =>
      subst h
      dsimp only
      rw [Plan.meets_bind]
      exact (deleteProgram_ledger p).mono fun _ _ h => h
    | ok m =>
      subst h
      rw [Plan.meets_pure]
      dsimp only
      rw [Holdings.parts_of, cons_parts_add]
      exact Multiset.add_cons _ _ _

end Build

theorem PlacedMesh.delete_ledger (m : PlacedMesh) :
    m.delete.Meets ledger (m.parts + s) fun _ s' => s' = s := by
  cases hi : m.indices <;> simp [delete, parts, hi, cons_parts_add]

theorem Feeds.ofProgram_ledger (p : Program) :
    (Feeds.ofProgram p).Meets ledger s fun _ s' => s' = s := by
  simp [Feeds.ofProgram]

/-- **Preparing a session enters what the session holds, or nothing.** -/
theorem Session.prepare_ledger (stages : Stages) (parameters : Parameters) :
    (prepare stages parameters).Meets ledger s fun r s' =>
      match r with
      | .error _ => s' = s
      | .ok session => s' = session.holdings.parts + s := by
  unfold prepare
  rw [Plan.meets_bind]
  refine ledger_ignoresNotes.note ?_
  rw [Plan.meets_bind]
  refine (Build.programAndMesh_ledger stages).mono fun r s₁ h => ?_
  cases r with
  | error e =>
    dsimp only
    rw [Plan.meets_bind]
    exact ledger_ignoresNotes.note h
  | ok pair =>
    obtain ⟨p, m⟩ := pair
    dsimp only
    rw [Plan.meets_bind]
    refine ledger_ignoresNotes.note ?_
    rw [Plan.meets_bind]
    refine (Feeds.ofProgram_ledger p).mono fun feeds s₂ h₂ => ?_
    subst h₂
    exact h

/-! ## Operations -/

namespace View

variable {v : View}

/-- The entries are the objects of the live session. -/
structure Kept (v : View) (s : Multiset Item) : Prop where
  ready : v.Ready
  entries : s = v.parts

theorem parts_of_none (h : v.session = none) : v.parts = [] := by
  rw [parts, h]
  rfl

theorem parts_of_some {session : Session} (h : v.session = some session) :
    v.parts = session.holdings.parts := by
  rw [parts, h]
  rfl

theorem kept_of_none (h : v.session = none) : v.Kept 0 where
  ready := ready_of_none h
  entries := by simp [parts_of_none h]

theorem kept_of_live {s : Session} {p : Program} {m : PlacedMesh} {id : FrameId}
    (hv : v.session = some s) (hc : v.canvas.hasContext = true) (hl : s.Live p m id) :
    v.Kept s.holdings.parts where
  ready := by
    refine ⟨fun s' h => ?_, fun _ => hc⟩
    rw [hv, Option.some_inj] at h
    exact ⟨p, m, id, h ▸ hl⟩
  entries := by rw [parts_of_some hv]

theorem Resembles.kept {v' : View} (h : v'.Resembles v) (hv : v.Kept s) : v'.Kept s where
  ready := h.ready hv.ready
  entries := by
    rw [parts, h.session]
    exact hv.entries

/-- Retiring the live session strikes out everything. -/
theorem retire_ledger (h : v.Kept s) :
    v.retire.Meets ledger s fun v' s' => v' = v.retired ∧ s' = 0 := by
  refine retire_meets ledger_ignoresNotes h.ready.sound ?_ ?_ ?_
  · intro hs
    exact ⟨rfl, by simp [h.entries, parts_of_none hs]⟩
  · intro session p m id hs _ hl
    have hs' : s = p.item ::ₘ (m.parts + 0) := by
      rw [h.entries, parts_of_some hs, hl.holdings, Holdings.parts_of, ← cons_parts_add]
      exact (Multiset.add_zero _).symm
    subst hs'
    rw [Plan.meets_bind, meets_cancelFrame]
    refine fun _ => ⟨trivial, ?_⟩
    rw [ledger_cancelFrame.1, Plan.meets_bind]
    refine (Build.deleteProgram_ledger p).mono fun _ s₁ h₁ => ?_
    subst h₁
    exact m.delete_ledger.mono fun _ _ h₂ => ⟨rfl, h₂⟩
  · intro session p m id hs hc _
    rw [h.ready.hasContext (by simp [hs])] at hc
    cases hc

theorem takeUp_ledger (hv : v.session = none) (change : Change) (now : Nat) :
    (v.takeUp change now).Meets ledger 0 fun a s' => a.2.Kept s' := by
  refine takeUp_meets ledger_ignoresNotes (fun r v' hv' => kept_of_none (hv'.session.trans hv)) ?_
  intro _ width height stages parameters
  rw [Plan.meets_bind, meets_gpu]
  refine fun _ _ => ⟨by simp, ?_⟩
  refine ((Session.prepare_ledger stages parameters).and_yields
    (Session.prepare_yields stages parameters)).mono ?_
  rintro r s₁ ⟨hr, hy⟩
  cases r with
  | error e =>
    subst hr
    exact fun v' hv' => kept_of_none (hv'.session.trans hv)
  | ok session =>
    subst hr
    obtain ⟨p, m, hl⟩ := hy session rfl
    dsimp only
    rw [hl.start_eq]
    simp only [PlacedMesh.select, Plan.meets_bind, meets_gpu, meets_requestFrame, meets_note,
      Plan.meets_pure]
    refine fun _ _ => ⟨by simp, fun _ _ => ⟨by simp, fun id _ =>
      ⟨trivial, fun _ => ⟨trivial, fun _ => ⟨trivial, fun v' hv' hc => ?_⟩⟩⟩⟩⟩
    have hk : v'.Kept session.holdings.parts :=
      kept_of_live (s := session.started now id) hv' hc (hl.live now id)
    simpa using hk

theorem frame_ledger (h : v.Kept s) (id : FrameId) (now : Nat) :
    (v.frame id now).Meets ledger s fun a s' => a.2.Kept s' := by
  refine frame_meets ledger_ignoresNotes ledger_ignoresFeeds h.ready.sound (fun _ => h) ?_
  intro session p m hs hc hl color
  have hk : ∀ next, View.Kept { v with session := some (session.advanced next) } s := by
    intro next
    rw [h.entries, parts_of_some hs]
    exact kept_of_live (s := session.advanced next) rfl hc (hl.advanced next)
  cases hi : session.mesh.isIndexed <;>
    simpa [PlacedMesh.select, Session.draw, hi] using hk

/-- **The entries are the objects of the live session**, after every operation. -/
theorem perform_ledger (h : v.Kept s) (op : Operation) :
    (v.perform op).Meets ledger s fun a s' => a.2.Kept s' := by
  refine perform_meets ledger_ignoresNotes (fun _ _ r v' hv' => hv'.kept h) ?_ ?_ ?_
  · intro _
    refine (retire_ledger h).mono ?_
    rintro _ s ⟨rfl, rfl⟩ change now
    exact takeUp_ledger v.session_retired change now
  · rintro -
    refine (retire_ledger h).mono ?_
    rintro _ s ⟨rfl, rfl⟩ v' hv'
    exact kept_of_none (hv'.session.trans v.session_retired)
  · rintro id now rfl
    exact frame_ledger h id now

end View

/-! ## Courses -/

namespace Course

variable {d : Device} {c : Course d}

theorem kept_step (h : c.view.Kept (ledger.after 0 c.log)) (t : Turn) :
    (c.step t).view.Kept (ledger.after 0 (c.step t).log) := by
  cases t with
  | drain =>
    rw [step, log_drain]
    exact h
  | perform op =>
    rw [step, log_perform, Contract.after_append]
    exact ((View.perform_ledger h op).run_free (fun _ _ => trivial) d.host c.host).2

/-- **The entries are the objects of the live session** after every course, on every device. -/
theorem ledger_run (h : c.view.Kept (ledger.after 0 c.log)) (turns : List Turn) :
    (c.run turns).view.Kept (ledger.after 0 (c.run turns).log) :=
  run_induction (P := fun c => c.view.Kept (ledger.after 0 c.log)) h (fun _ t h => kept_step h t)
    turns

end Course

end LiveShader
