import LiveShader.Proofs.Dependable
import LiveShader.Proofs.Queue
import Mathlib.Data.List.Basic
import Mathlib.Data.List.Induction

/-!
# What a view remembers of its past

A view keeps the visibility, the shader code and the live session in fields that every operation
may change. Here the same is read off the operations that were performed, without any state: the
last one that tells of the visibility, the last one that supplies shader code, whether the canvas
was ever taken away, and the last change that was taken up.

* `Recalls` says that the fields of a view are what its past comes to. It is shown operation by
  operation, by cases on what the operation did (`View.Performs`).
* On a dependable device the past determines whether a session is live. On others it only
  determines what there is to render.

Results:
* `View.Performs.recalls`: an operation keeps a view and its past in agreement.
* `Course.live_iff_past`: a session is live exactly if the past leaves shader code to render and
  both stages of it compile.
-/

namespace LiveShader

/-! ## What the past comes to -/

/-- The shader code that a change supplies. A failed answer supplies none, and so it is with an
answer without code. -/
def Change.supply? : Change → Option (Option ShaderCode)
  | .answered answer => some (if answer.success then answer.code else none)
  | .supplied code => some (some code)
  | .shown | .hidden | .removed => none

/-- What a change supplies is what it makes of the shader code, except that taking the canvas away
supplies nothing. -/
theorem Change.code?_eq_supply? {change : Change} (h : change ≠ .removed) :
    change.code? = change.supply? := by
  cases change with
  | answered answer =>
    simp only [code?, supply?, Answer.codeToRender]
    cases answer.success <;> cases answer.code <;> rfl
  | removed => exact absurd rfl h
  | _ => rfl

namespace Operation

/-- Whether an operation takes the canvas away. -/
def removes (op : Operation) : Bool :=
  op = .close || op.change.any fun c => c.1 = .removed

/-- The visibility that an operation tells of. -/
def visible? (op : Operation) : Option Bool :=
  op.change.bind fun c => c.1.visible?

/-- The shader code that an operation supplies. -/
def supply? (op : Operation) : Option (Option ShaderCode) :=
  op.change.bind fun c => c.1.supply?

/-- The change that an operation tells of, unless it only repeats the visibility. -/
def news (op : Operation) (visible : Bool) : Option (Change × Nat) :=
  op.change.filter fun c => c.1.visible? ≠ some visible

end Operation

/-- The visibility after some operations: the one that was told of last. A view is visible at
first. -/
def visibleAfter (ops : List Operation) : Bool :=
  (ops.filterMap Operation.visible?).getLast?.getD true

/-- The shader code that was supplied last. -/
def codeAfter (ops : List Operation) : Option ShaderCode :=
  (ops.filterMap Operation.supply?).getLast?.join

/-- The changes that some operations told of, with their times, without those that only repeated the
visibility. -/
def takenUp (ops : List Operation) : List (Change × Nat) :=
  ops.zipIdx.filterMap fun x => x.1.news (visibleAfter (ops.take x.2))

/-- The operation of a turn. -/
def Turn.operation? : Turn → Option Operation
  | .perform op => some op
  | .drain => none

section

variable {ops : List Operation} {op : Operation}

theorem visibleAfter_snoc :
    visibleAfter (ops ++ [op]) = op.visible?.getD (visibleAfter ops) := by
  unfold visibleAfter
  cases h : op.visible? <;> simp [h]

theorem codeAfter_snoc : codeAfter (ops ++ [op]) = op.supply?.getD (codeAfter ops) := by
  unfold codeAfter
  cases h : op.supply? <;> simp [h]

theorem takenUp_snoc :
    takenUp (ops ++ [op]) = takenUp ops ++ (op.news (visibleAfter ops)).toList := by
  unfold takenUp
  rw [List.zipIdx_append, List.filterMap_append]
  congr 1
  · refine List.filterMap_congr fun x hx => ?_
    have hlt := List.snd_lt_of_mem_zipIdx hx
    rw [List.take_append_of_le_length (by omega)]
  · rw [List.zipIdx_singleton, Nat.zero_add, List.filterMap_cons, List.take_left]
    cases op.news (visibleAfter ops) <;> rfl

/-- An operation that tells of no change adds nothing. -/
theorem past_of_no_change (h : op.change = none) :
    visibleAfter (ops ++ [op]) = visibleAfter ops ∧ codeAfter (ops ++ [op]) = codeAfter ops ∧
      takenUp (ops ++ [op]) = takenUp ops := by
  rw [visibleAfter_snoc, codeAfter_snoc, takenUp_snoc]
  simp [Operation.visible?, Operation.supply?, Operation.news, h]

end

/-! ## Views and their past -/

/-- A mesh is the cube exactly if the vertex stage contains the name of the camera matrix. -/
theorem ShaderCode.mesh_eq_cube_iff (code : ShaderCode) :
    code.stages.mesh = .cube ↔ ∃ before after,
      code.stages.vertex.toList = before ++ Builtin.cameraUniform.toList ++ after := by
  rw [← Text.occursIn_iff]
  have hm : code.stages.mesh =
      Mesh.ofCamera (Text.mentions code.stages.vertex Builtin.cameraUniform) := rfl
  rw [hm, Text.mentions]
  cases Text.occursIn Builtin.cameraUniform.toList code.stages.vertex.toList <;>
    simp [Mesh.ofCamera]

namespace View

variable {v v' : View} {ops : List Operation} {op : Operation} {r : Result}
variable {accepts : Stage → String → Bool}

theorem toRender_eq_some {code : ShaderCode} :
    v.toRender = some code ↔ v.visible = true ∧ v.gone = false ∧ v.code = some code := by
  unfold toRender
  cases v.visible <;> cases v.gone <;> simp

theorem isRedundant_eq (v : View) (change : Change) :
    v.isRedundant change = decide (change.visible? = some v.visible) := by
  cases change <;> cases hv : v.visible <;> simp [isRedundant, Change.visible?, hv]

/-- What a change asks for is what there is to render once it is recorded. -/
theorem toRender_recorded (v : View) (change : Change) :
    (∀ e, v.asks change = .error e → (v.recorded change).toRender = none) ∧
      ∀ code, v.asks change = .ok code → (v.recorded change).toRender = code := by
  unfold asks
  cases hf : change.failure? with
  | none => simp
  | some e =>
    simp only [reduceCtorEq, false_implies, implies_true, and_true]
    intro _ _
    have hc : change.code? = some none := by
      cases change with
      | answered answer =>
        unfold Change.failure? at hf
        unfold Change.code?
        cases h : answer.codeToRender <;> simp_all [Except.toOption]
      | _ => cases hf
    simp [toRender, recorded_eq, hc]

/-- The fields of a view are what its past comes to. -/
structure Recalls (accepts : Stage → String → Bool) (ops : List Operation) (v : View) : Prop where
  sound : v.Sound
  hasContext : v.canvas.hasContext = true
  visible : v.visible = visibleAfter ops
  gone : v.gone = ops.any Operation.removes
  code : v.gone = false → v.code = codeAfter ops
  /-- A session is live exactly if there is something to render that compiles. -/
  live : v.session.isSome = v.toRender.any fun code => code.stages.accepted accepts
  /-- The session that is live began with the last change that was taken up. -/
  begun : ∀ s, v.session = some s → ∃ code change now, v.toRender = some code ∧
    s.mesh = code.stages.mesh ∧ (takenUp ops).getLast? = some (change, now) ∧
    s.startedAt = some now

/-- Nothing has been done, and nothing is remembered. -/
theorem recalls_onCanvas (display : PixelSize) (parameters : Parameters) :
    (onCanvas true display parameters).Recalls accepts [] where
  sound := sound_of_none rfl
  hasContext := rfl
  visible := rfl
  gone := rfl
  code _ := rfl
  live := rfl
  begun s hs := by cases hs

/-- An operation that adds nothing to the past may still change the size of the canvas and what the
session awaits. -/
theorem Recalls.extend (h : v.Recalls accepts ops) (hremoves : op.removes = false)
    (hpast : visibleAfter (ops ++ [op]) = visibleAfter ops ∧
      codeAfter (ops ++ [op]) = codeAfter ops ∧ takenUp (ops ++ [op]) = takenUp ops)
    {canvas : Canvas} {session : Option Session} (hcanvas : canvas.hasContext = true)
    (hsession : session.map (fun s => (s.mesh, s.startedAt)) =
      v.session.map fun s => (s.mesh, s.startedAt))
    (hsound : Sound { v with canvas, session }) :
    Recalls accepts (ops ++ [op]) { v with canvas, session } := by
  obtain ⟨hvisible, hcode, htaken⟩ := hpast
  have hsome : session.isSome = v.session.isSome := by
    rw [← Option.isSome_map, hsession, Option.isSome_map]
  refine ⟨hsound, hcanvas, ?_, ?_, ?_, ?_, ?_⟩
  · rw [hvisible]
    exact h.visible
  · simpa [hremoves] using h.gone
  · rw [hcode]
    exact h.code
  · exact hsome.trans h.live
  · rintro s (rfl : session = some s)
    obtain ⟨t, ht, hst⟩ := Option.map_eq_some_iff.mp hsession.symm
    rw [Prod.mk.injEq] at hst
    rw [← hst.1, ← hst.2, htaken]
    exact h.begun t ht

theorem past_of_redundant {change : Change} {now : Nat} (hop : op.change = some (change, now))
    (hr : change.visible? = some (visibleAfter ops)) :
    op.removes = false ∧ visibleAfter (ops ++ [op]) = visibleAfter ops ∧
      codeAfter (ops ++ [op]) = codeAfter ops ∧ takenUp (ops ++ [op]) = takenUp ops := by
  have hsupply : change.supply? = none := by
    cases change <;> first | rfl | cases hr
  have hne : op ≠ .close := by
    rintro rfl
    cases hop
  have hremoved : change ≠ .removed := by
    rintro rfl
    cases hr
  rw [visibleAfter_snoc, codeAfter_snoc, takenUp_snoc]
  simp [Operation.removes, Operation.visible?, Operation.supply?, Operation.news, hop, hr, hsupply,
    hne, hremoved]

theorem TakesUp.fields {change : Change} {now : Nat} {r : Except Failure Unit}
    (h : v.TakesUp change now r v') : v'.visible = (v.recorded change).visible ∧
      v'.gone = (v.recorded change).gone ∧ v'.code = (v.recorded change).code := by
  cases h <;> exact ⟨rfl, rfl, rfl⟩

/-- A view that takes up a change remembers it. -/
theorem Recalls.takeUp (h : v.Recalls accepts ops) {change : Change} {now : Nat}
    (hop : op.change = some (change, now)) (hr : v.isRedundant change = false)
    {r : Except Failure Unit} (ht : v.retired.TakesUp change now r v') (hsound : v'.Sound)
    (hcontext : v'.canvas.hasContext = true)
    (hlive : ∀ code, v.retired.asks change = .ok (some code) →
      v'.session.isSome = code.stages.accepted accepts) :
    v'.Recalls accepts (ops ++ [op]) := by
  obtain ⟨hvisible, hgone, hcode⟩ := ht.fields
  have hrender : v'.toRender = (v.retired.recorded change).toRender := by
    rw [toRender, toRender, hvisible, hgone, hcode]
  rw [recorded_eq] at hvisible hgone hcode
  have hclose : op ≠ .close := by
    rintro rfl
    cases hop
  have hnews : takenUp (ops ++ [op]) = takenUp ops ++ [(change, now)] := by
    rw [isRedundant_eq, h.visible] at hr
    simpa [takenUp_snoc, Operation.news, hop] using hr
  obtain ⟨hrefused, hasked⟩ := v.retired.toRender_recorded change
  refine ⟨hsound, hcontext, ?_, ?_, ?_, ?_, ?_⟩
  · rw [hvisible, visibleAfter_snoc, visible_retired, h.visible]
    simp [Operation.visible?, hop]
  · rw [hgone, gone_retired, h.gone]
    simp [Operation.removes, hop, hclose]
  · intro hg
    rw [hgone, Bool.or_eq_false_iff, gone_retired, decide_eq_false_iff_not] at hg
    rw [hcode, codeAfter_snoc, code_retired, h.code hg.1, Change.code?_eq_supply? hg.2]
    simp [Operation.supply?, hop]
  · rw [hrender]
    have hnone := (v.retired.recorded_resembles change).session.trans v.session_retired
    cases ht with
    | refuses e ha => simp [failed, hrefused e ha, hnone]
    | rests ha => simp [hasked none ha, hnone]
    | fails code e ha => rw [hasked _ ha, hlive code ha, Option.any_some]
    | begins code s p m id ha => rw [hasked _ ha, hlive code ha, Option.any_some]
  · intro s hs
    have hnone := (v.retired.recorded_resembles change).session.trans v.session_retired
    cases ht with
    | refuses e ha => simp [failed, hnone] at hs
    | rests ha => simp [hnone] at hs
    | fails code e ha => simp [failed, fitted, hnone] at hs
    | begins code s' p m id ha hc hl hmesh hstart =>
      obtain rfl : s' = s := by simpa [launched] using hs
      exact ⟨code, change, now, hrender.trans (hasked _ ha), hmesh, by simp [hnews], hstart⟩

/-- A view that is closed remembers it. -/
theorem Recalls.close (h : v.Recalls accepts ops) :
    v.retired.closed.Recalls accepts (ops ++ [.close]) where
  sound := sound_of_none v.session_retired
  hasContext := v.canvas_retired ▸ h.hasContext
  visible := by
    rw [(past_of_no_change rfl).1, ← h.visible]
    exact v.visible_retired
  gone := by simp [closed, Operation.removes]
  code hg := by cases hg
  live := by simp [toRender, closed]
  begun s hs := by
    have hn : v.retired.closed.session = none := v.session_retired
    rw [hn] at hs
    cases hs

/-- **An operation keeps a view and its past in agreement.** -/
theorem Performs.recalls (h : v.Performs op r v') (hv : v.Recalls accepts ops) (hsound : v'.Sound)
    (hcontext : v'.canvas.hasContext = true)
    (hlive : ∀ code, op.asks v = some (.ok (some code)) →
      v'.session.isSome = code.stages.accepted accepts) : v'.Recalls accepts (ops ++ [op]) := by
  cases h with
  | repeats change now hop hr =>
    rw [isRedundant_eq, decide_eq_true_eq, hv.visible] at hr
    obtain ⟨hremoves, hpast⟩ := past_of_redundant hop hr
    exact hv.extend hremoves hpast hcontext rfl hsound
  | changes change now hop hr r _ ht =>
    rw [Operation.asks_of_change hop hr, ← v.asks_retired change] at hlive
    exact hv.takeUp hop hr ht hsound hcontext fun code ha => hlive code (congrArg some ha)
  | closes hop =>
    subst hop
    exact hv.close
  | resizes size hop =>
    subst hop
    exact hv.extend rfl (past_of_no_change rfl) hcontext rfl hsound
  | ignores id now hop =>
    subst hop
    exact hv.extend rfl (past_of_no_change rfl) hcontext rfl hsound
  | draws id now hop s next hs =>
    subst hop
    exact hv.extend rfl (past_of_no_change rfl) hcontext (by rw [hs]; rfl) hsound

end View

/-! ## Courses -/

namespace Course

variable {d : Device} {c : Course d} {accepts : Stage → String → Bool}

/-- The device was dependable in everything that happened. -/
def Dependable (accepts : Stage → String → Bool) (c : Course d) : Prop :=
  (dependable accepts).Assumed (fun _ => none) c.log

instance (accepts : Stage → String → Bool) (c : Course d) : Decidable (c.Dependable accepts) :=
  inferInstanceAs (Decidable ((dependable accepts).Along _ _ _))

theorem recalls_perform {ops : List Operation} (h : c.view.Recalls accepts ops) (op : Operation)
    (hd : (c.perform op).Dependable accepts) :
    (c.perform op).view.Recalls accepts (ops ++ [op]) := by
  rw [Dependable, log_perform, (dependable accepts).assumed_append] at hd
  obtain ⟨r, hp⟩ := perform_performs h.sound op
  have hlive := ((View.perform_dependable h.sound h.hasContext op).run d.host c.host hd.2).2
  exact hp.recalls h ((perform_deals h.sound op).sound h.sound)
    ((hasContext_perform h.sound op).trans h.hasContext) hlive

theorem recalls_run (h : c.view.Recalls accepts []) (turns : List Turn)
    (hd : (c.run turns).Dependable accepts) :
    (c.run turns).view.Recalls accepts (turns.filterMap Turn.operation?) := by
  induction turns using List.reverseRecOn with
  | nil => exact h
  | append_singleton turns t ih =>
    rw [run_append] at hd ⊢
    cases t with
    | perform op =>
      have hd' := hd
      rw [Dependable, run, List.foldl_cons, List.foldl_nil, step, log_perform,
        (dependable accepts).assumed_append] at hd'
      rw [List.filterMap_append]
      exact recalls_perform (ih hd'.1) op hd
    | drain =>
      rw [Dependable, run, List.foldl_cons, List.foldl_nil, step, log_drain] at hd
      rw [List.filterMap_append]
      exact (List.append_nil _).symm ▸ ih hd

/-- **Whether a session is live is determined by the past.** In every course of a view of a canvas
with a context, on any device that refuses nothing, links everything, and compiles exactly the
accepted texts, a session is live if and only if

* the canvas was never taken away,
* the visibility that was told of last is that the view is visible, and
* shader code was supplied last, and no failure, and both of its stages are accepted.

The live session draws the cube exactly if the vertex stage of that code contains the name of the
camera matrix, and it has been rendering since the last change that was taken up. -/
theorem live_iff_past (device : d.State) (display : PixelSize) (parameters : Parameters)
    (accepts : Stage → String → Bool) (turns : List Turn)
    (h : ((start device (.onCanvas true display parameters)).run turns).Dependable accepts) :
    let v := ((start device (.onCanvas true display parameters)).run turns).view
    let ops := turns.filterMap Turn.operation?
    (v.session.isSome = true ↔ (∀ op ∈ ops, op.removes = false) ∧ visibleAfter ops = true ∧
      ∃ code, codeAfter ops = some code ∧ accepts .vertex code.stages.vertex = true ∧
        accepts .fragment code.stages.fragment = true) ∧
    ∀ s, v.session = some s → ∃ code change now, codeAfter ops = some code ∧
      (s.mesh = .cube ↔ ∃ before after,
        code.stages.vertex.toList = before ++ Builtin.cameraUniform.toList ++ after) ∧
      (takenUp ops).getLast? = some (change, now) ∧ s.startedAt = some now := by
  intro v ops
  have hr : v.Recalls accepts ops :=
    recalls_run (c := start device (.onCanvas true display parameters))
      (View.recalls_onCanvas display parameters) turns h
  have hrender {code : ShaderCode} : v.toRender = some code ↔
      (∀ op ∈ ops, op.removes = false) ∧ visibleAfter ops = true ∧ codeAfter ops = some code := by
    have hgone : v.gone = false ↔ ∀ op ∈ ops, op.removes = false := by
      rw [hr.gone, List.any_eq_false]
      simp only [Bool.not_eq_true]
    rw [View.toRender_eq_some, ← hgone, hr.visible]
    constructor
    · rintro ⟨hv, hg, hc⟩
      exact ⟨hg, hv, hr.code hg ▸ hc⟩
    · rintro ⟨hg, hv, hc⟩
      exact ⟨hv, hg, (hr.code hg).trans hc⟩
  constructor
  · rw [hr.live, Option.any_eq_true]
    constructor
    · rintro ⟨code, hcode, ha⟩
      obtain ⟨hg, hv, hc⟩ := hrender.mp hcode
      rw [Stages.accepted, Bool.and_eq_true] at ha
      exact ⟨hg, hv, code, hc, ha⟩
    · rintro ⟨hg, hv, code, hc, ha⟩
      refine ⟨code, hrender.mpr ⟨hg, hv, hc⟩, ?_⟩
      rw [Stages.accepted, Bool.and_eq_true]
      exact ha
  · intro s hs
    obtain ⟨code, change, now, hcode, hmesh, hlast, hstart⟩ := hr.begun s hs
    obtain ⟨-, -, hc⟩ := hrender.mp hcode
    refine ⟨code, change, now, hc, ?_, hlast, hstart⟩
    rw [hmesh]
    exact code.mesh_eq_cube_iff

/-- On the scripted device the code is rendered because its stages compile. -/
theorem live_by_past :
    (Scripted.course.run Scripted.turns).Dependable (fun _ => Objects.compiles) ∧
      (Scripted.course.run Scripted.turns).view.session.isSome = true := by
  have h : (Scripted.course.run Scripted.turns).Dependable fun _ => Objects.compiles := by
    decide +kernel
  obtain ⟨hlive, -⟩ := live_iff_past (d := Scripted.device) ({} : Objects) ⟨4, 4⟩ {}
    (fun _ => Objects.compiles) Scripted.turns h
  refine ⟨h, hlive.mpr ⟨by decide, by decide, Scripted.code, rfl, ?_, ?_⟩⟩
  · decide +kernel
  · decide +kernel

end Course

end LiveShader
