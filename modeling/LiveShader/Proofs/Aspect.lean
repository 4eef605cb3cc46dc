import LiveShader.Proofs.Preparation
import LiveShader.Proofs.Redraw
import LiveShader.Proofs.Singles

/-!
# The size of a canvas on its way to the device

The size that a host pushes reaches the device in two ways. When a session is launched the backing
store gets the displayed size, and the viewport is set to it. With each frame the aspect of the
backing store goes into the camera matrix, whose projection divides by it.

* `PixelSize.ratio` is what the aspect is meant to be: width over height, or one for a canvas where
  either is zero. A canvas that is `Thin`, with height but no width, gets zero instead.
* No other size is a danger. Both sides are whole numbers of 32 bits, so that their quotient as
  singles is neither rounded to zero nor out of range (`Single.IsFull`).
* `Course.Sized` is the invariant for the viewport: it was set once for the live session, to the
  size that the backing store still has.

Results:
* `PixelSize.aspect_eq_ratio_iff`, `PixelSize.aspect_eq_zero_iff`: the aspect of every size.
* `Course.sized_history`: the invariant, after every history.
* `Course.projection_sized`: size, matrix and viewport of every frame that is drawn.
-/

namespace LiveShader

open Engine Build

/-! ## Sizes -/

namespace PixelSize

variable {s : PixelSize}

/-- Width over height; one if either is zero. -/
def ratio (s : PixelSize) : Float32 :=
  if s.width = 0 ∨ s.height = 0 then 1 else s.width.toFloat32 / s.height.toFloat32

/-- Without width, but not without height. -/
def Thin (s : PixelSize) : Prop :=
  s.width = 0 ∧ s.height ≠ 0

instance : Decidable s.Thin :=
  inferInstanceAs (Decidable (s.width = 0 ∧ s.height ≠ 0))

theorem aspect_of_thin (h : s.Thin) : s.aspect = 0 := by
  obtain ⟨hwidth, hheight⟩ := h
  obtain ⟨_, -, -, hfull⟩ := Single.isFull_toFloat32 hheight
  rw [aspect, if_neg hheight, hwidth]
  exact hfull.zero_div

theorem isFull_aspect (h : ¬ s.Thin) : ∃ e, Single.IsFull s.aspect e := by
  unfold aspect
  by_cases hheight : s.height = 0
  · rw [if_pos hheight]
    obtain ⟨e, -, -, hone⟩ := Single.isFull_toFloat32 (n := 1) (by decide)
    exact ⟨e, hone⟩
  · rw [if_neg hheight]
    have hwidth : s.width ≠ 0 := fun hwidth => h ⟨hwidth, hheight⟩
    obtain ⟨_, hlow₁, hhigh₁, hfull₁⟩ := Single.isFull_toFloat32 hwidth
    obtain ⟨_, hlow₂, hhigh₂, hfull₂⟩ := Single.isFull_toFloat32 hheight
    obtain ⟨e, -, -, hfull⟩ := Single.isFull_div hfull₁ hfull₂ (by omega) (by omega)
    exact ⟨e, hfull⟩

/-- **The aspect is as it is meant to be** except for thin sizes. -/
theorem aspect_eq_ratio_iff : s.aspect = s.ratio ↔ ¬ s.Thin := by
  by_cases h : s.Thin
  · rw [aspect_of_thin h, ratio, if_pos (.inl h.1)]
    exact iff_of_false (by decide +kernel) (not_not_intro h)
  · refine iff_of_true ?_ h
    unfold aspect ratio
    by_cases hheight : s.height = 0
    · rw [if_pos hheight, if_pos (.inr hheight)]
    · have hwidth : s.width ≠ 0 := fun hwidth => h ⟨hwidth, hheight⟩
      rw [if_neg hheight, if_neg (not_or_intro hwidth hheight)]

/-- **The aspect is zero for thin sizes alone.** -/
theorem aspect_eq_zero_iff : (s.aspect == 0) = true ↔ s.Thin := by
  by_cases h : s.Thin
  · rw [aspect_of_thin h]
    exact iff_of_true (by decide) h
  · obtain ⟨e, hfull⟩ := isFull_aspect h
    rw [hfull.ne_zero]
    exact iff_of_false Bool.false_ne_true h

theorem toInt_clamped (side : UInt32) : (clamped side).toInt = min side.toNat 0x7fffffff := by
  rw [clamped, Int32.toInt_ofNat_of_lt (by omega), Nat.cast_min]

end PixelSize

/-! ## Calls -/

/-- The viewport that a request sets. -/
def Request.viewport? : Request → Option (Int32 × Int32)
  | .viewport width height => some (width, height)
  | _ => none

namespace Action

/-- The viewport that an action sets. -/
def viewport? : Action Request → Option (Int32 × Int32)
  | .gpu r => r.viewport?
  | _ => none

/-- The matrix that an action feeds, and where to. -/
def matrix? : Action Request → Option (UniformLocation × Mat4)
  | .gpu (.uniformMat4 location value) => some (location, value)
  | _ => none

end Action

/-- The viewports that are set in a log. -/
def Log.viewports (log : Log) : List (Int32 × Int32) :=
  (Log.calls log).filterMap Action.viewport?

/-- The matrices that are fed in a log, and where to. -/
def Log.matrices (log : Log) : List (UniformLocation × Mat4) :=
  (Log.calls log).filterMap Action.matrix?

@[simp] theorem Log.viewports_append (log log' : Log) :
    Log.viewports (log ++ log') = Log.viewports log ++ Log.viewports log' := by
  simp [Log.viewports, Log.calls]

/-! ## Preparation sets no viewport

The contract `preparing` says what may be asked at each step of preparing a session. A viewport is
not among it, so there is no need to go through the steps again.
-/

theorem Build.Step.viewport_script {stages : Stages} {shaders : List Shader} {step : Step}
    {x : Item} : ∀ q ∈ step.script stages shaders x, q.viewport? = none := by
  unfold script
  split <;> simp [Request.viewport?, or_imp, forall_and]

theorem Request.viewport_inquiry {q inquiry : Request} {r : q.Reply}
    (h : q.inquiry r = some inquiry) : inquiry.viewport? = none := by
  unfold Request.inquiry at h
  split at h <;> cases h <;> rfl

namespace Standing

/-- No request that is due sets the viewport. -/
def Unsized : Standing → Prop
  | .under _ script _ _ => ∀ q ∈ script, q.viewport? = none
  | .faulty _ inquiry => inquiry.viewport? = none
  | _ => True

variable {s : Standing} {q : Request} {stages : Stages}

theorem unsized_proceed {step : Step} {steps : List Step} {shaders : List Shader}
    {script : List Request} (h : ∀ q ∈ script, q.viewport? = none) :
    (proceed step steps shaders script).Unsized := by
  cases script with
  | nil => trivial
  | cons q script => exact h

theorem unsized_begun {steps : List Step} {shaders : List Shader} {x : Item} :
    (begun stages shaders x steps).Unsized := by
  cases steps with
  | nil => trivial
  | cons step steps => exact unsized_proceed Step.viewport_script

theorem Unsized.next (h : s.Unsized) (q : Request) (r : q.Reply) :
    (s.next stages q r).Unsized := by
  cases s with
  | ready steps shaders =>
    dsimp only [Standing.next]
    split
    · trivial
    · exact unsized_begun
    · trivial
  | under step script steps shaders =>
    cases script with
    | nil => exact h
    | cons due script =>
      dsimp only [Standing.next]
      split
      · exact Request.viewport_inquiry ‹_›
      · exact unsized_proceed fun q hq => h q (List.mem_cons_of_mem due hq)
  | faulty step inquiry =>
    dsimp only [Standing.next]
    split
    · trivial
    · exact h
  | failed e => trivial

/-- What may be asked next sets no viewport. -/
theorem Unsized.viewport (h : s.Unsized) (hq : s.Allows q) : q.viewport? = none := by
  cases s with
  | ready steps shaders =>
    rcases hq with hq | ⟨step, -, rfl⟩
    · cases q <;> first | rfl | cases hq
    · cases step <;> rfl
  | under step script steps shaders => exact h q (List.mem_of_head? hq)
  | faulty step inquiry =>
    cases hq
    exact h
  | failed e => cases q <;> first | rfl | cases hq

end Standing

/-- The contract of those who ask nothing but such questions. -/
def asking (P : Action Request → Prop) : Contract (Action.Reply Request.Reply) Unit where
  next _ _ := ()
  owed _ e := P e.question

/-- What every question owed to a contract is like, as long as an invariant of its state holds. -/
theorem Plan.Meets.asks {τ α : Type} {D : Contract (Action.Reply Request.Reply) τ} {t : τ}
    {p : Engine α} {post : α → τ → Prop} {P : Action Request → Prop} {I : τ → Prop}
    (h : p.Meets D t post) (hassumed : ∀ t e, D.assumed t e) (ht : I t)
    (hstep : ∀ t e, I t → D.owed t e → P e.question ∧ I (D.next t e)) :
    p.Meets (asking P) () fun _ _ => True := by
  induction p generalizing t with
  | done a => trivial
  | ask q k ih =>
    intro r _
    obtain ⟨ho, hk⟩ := h r (hassumed t _)
    obtain ⟨hP, ht'⟩ := hstep t _ ht ho
    exact ⟨hP, ih r hk ht'⟩

/-- Preparing a session sets no viewport. -/
theorem Session.prepare_unsized (stages : Stages) (parameters : Parameters) :
    (prepare stages parameters).Meets (asking fun a => a.viewport? = none) () fun _ _ => True := by
  refine (prepare_preparing stages parameters).asks (I := fun s => s.standing.Unsized)
    (fun _ _ => trivial) trivial ?_
  rintro s ⟨a, r⟩ hs ho
  cases a with
  | gpu q => exact ⟨hs.viewport ho, hs.next q r⟩
  | _ => exact ⟨rfl, hs⟩

/-! ## What a frame feeds -/

namespace Session

theorem uploads_viewports (s : Session) (size : PixelSize) (t : Float32) :
    (s.uploads size t).filterMap Action.viewport? = [] := by
  simp [uploads, Action.viewport?, Request.viewport?]

/-- A frame feeds one matrix if the program has a place for it, made with the aspect. -/
theorem uploads_matrices (s : Session) (size : PixelSize) (t : Float32) :
    (s.uploads size t).filterMap Action.matrix? = s.feeds.camera.toList.map fun location =>
      (location, s.parameters.cameraMatrix size.aspect t) := by
  unfold uploads
  rcases s.feeds with ⟨_ | time, _ | resolution, _ | camera⟩ <;> rfl

end Session

/-! ## The viewport of a session -/

namespace View

variable {v : View} {s : Session} {p : Program} {m : PlacedMesh} {id : FrameId}

/-- The live session, if there is one, was given the size of the backing store as its viewport, and
no other. -/
def SizedBy (v : View) (viewports : List (Int32 × Int32)) : Prop :=
  ∀ s, v.session = some s → viewports = [v.canvas.backing.viewport]

theorem sizedBy_of_none {viewports : List (Int32 × Int32)} (h : v.session = none) :
    v.SizedBy viewports := by
  intro s hs
  rw [h] at hs
  cases hs

/-- A session that is launched is given the displayed size, which is that of the backing store from
then on. -/
theorem launch_sizes (hv : v.session = none) (code : ShaderCode) (now : Nat) :
    (v.launch code now).Meets calling [] fun a l =>
      a.2.SizedBy (l.filterMap Action.viewport?) := by
  refine launch_rule calling_ignoresNotes (fun _ => sizedBy_of_none hv) fun _ => ?_
  rw [Plan.meets_bind, meets_gpu]
  refine fun _ _ => ⟨trivial, ?_⟩
  have hl := (Session.prepare_unsized code.stages v.parameters).calling
    (P := fun a => a.viewport? = none) (fun _ _ => trivial) (fun _ _ he => he)
    [.gpu (.viewport v.canvas.display.viewport.1 v.canvas.display.viewport.2)]
  refine (hl.and_yields (Session.prepare_yields code.stages v.parameters)).mono ?_
  rintro r _ ⟨⟨rest, rfl, hrest⟩, hr⟩
  cases r with
  | error e => exact sizedBy_of_none hv
  | ok session =>
    obtain ⟨p, m, hl⟩ := hr session rfl
    have hnone : rest.filterMap Action.viewport? = [] := List.filterMap_eq_nil_iff.mpr hrest
    dsimp only
    rw [hl.start_eq]
    simp [calling, PlacedMesh.select, SizedBy, Action.viewport?, Request.viewport?, hnone, fitted,
      launched, Canvas.adopt]

theorem takeUp_sizes (hv : v.session = none) (change : Change) (now : Nat) :
    (v.takeUp change now).Meets calling [] fun a l =>
      a.2.SizedBy (l.filterMap Action.viewport?) := by
  have hs : (v.recorded change).session = none := (v.recorded_resembles change).session.trans hv
  exact takeUp_rule calling_ignoresNotes (fun _ _ => sizedBy_of_none hs)
    (fun _ => sizedBy_of_none hs) fun code _ => launch_sizes hs code now

/-- A frame sets no viewport. One that is drawn feeds a camera matrix if the program has a place for
it, made with the aspect of the backing store. -/
theorem frame_feeds (hv : v.Sound) (id : FrameId) (now : Nat) :
    (v.frame id now).Meets calling [] fun a l => l.filterMap Action.viewport? = [] ∧
      (a.1 = true → ∃ s, v.session = some s ∧
        l.filterMap Action.matrix? = s.feeds.camera.toList.map fun location =>
          (location, s.parameters.cameraMatrix v.canvas.backing.aspect (s.elapsed now))) := by
  by_cases hi : v.Ignores id
  · refine frame_rule calling_ignoresNotes hv (fun _ => ⟨rfl, fun h => by cases h⟩) ?_
    intro s p m hs hc hl
    exact absurd hl.awaited (hi s hs hc)
  · obtain ⟨s, hs, hc, ha⟩ : ∃ s, v.session = some s ∧ v.canvas.hasContext = true ∧
        s.awaited = some id := by
      simpa [Ignores] using hi
    obtain ⟨p, m, id', hl⟩ := hv s hs
    obtain rfl : id' = id := Option.some_inj.mp (hl.awaited.symm.trans ha)
    refine (frame_drawn hs hc hl now).mono ?_
    rintro _ _ ⟨-, rfl⟩
    simp only [List.filterMap_append, s.uploads_viewports, s.uploads_matrices]
    refine ⟨?_, fun _ => ⟨s, hs, ?_⟩⟩
    · cases s.mesh <;> rfl
    · cases s.mesh <;> exact List.append_nil _

end View

/-- Shader code that the scripted device compiles and links, and draws on the cube. -/
def Scripted.cubeCode : ShaderCode :=
  { vertex := some "uniform mat4 u_modelViewProjectionMatrix;\nvoid main"
    fragment := some "void main" }

/-! ## Histories -/

namespace Course

variable {d : Device} {c : Course d}

/-- What was done for the change that launched the live session has set the viewport once, to the
size that the backing store has. -/
structure Sized (c : Course d) : Prop where
  fresh : c.Fresh
  sized : c.view.SizedBy (Log.viewports (Charges.of c.charges c.owner))

/-- What is charged to a change that has launched a session is what taking it up did. -/
theorem Fresh.of_launched (h : c.Fresh) {op : Operation} {change : Change} {now : Nat}
    (hop : op.change = some (change, now)) (hr : c.view.isRedundant change = false)
    (hs : (c.perform op).view.session.isSome) : ∃ host : Host d,
      let o := (c.view.retired.takeUp change now).run d.host host
      (c.perform op).view = o.value.2 ∧
        Charges.of (c.perform op).charges (c.perform op).owner = o.log := by
  obtain ⟨hout, hcharges⟩ := c.change_outcome hop hr
  have hretired : (c.view.retire.run d.host c.host).value = c.view.retired :=
    ((View.retire_yields h.sound).run_free (fun _ _ => trivial) d.host c.host).2
  have hold : Charges.of c.charges c.past.length = [] :=
    Charges.of_eq_nil fun x hx => Nat.ne_of_lt (h.numbered.charges x hx)
  have hview : (c.perform op).view = (c.outcome op).value.2 := rfl
  rw [hretired] at hout hcharges
  refine ⟨(c.view.retire.run d.host c.host).state, by rw [hview, hout], ?_⟩
  rw [owner_of_renews (Operation.renews_of_not_redundant hop hr) hs, charges_perform, hcharges,
    Charges.of_append, Charges.of_append, Charges.of_map, hold, h.of_retire]
  rfl

theorem Sized.perform (h : c.Sized) (op : Operation) : (c.perform op).Sized := by
  refine ⟨h.fresh.perform op, ?_⟩
  -- Only a session that begins sets a viewport; nothing is added to those of one that goes on.
  have hstays (hop : op.retires c.view = false)
      (hquiet : Log.viewports (c.outcome op).log = []) :
      Log.viewports (Charges.of (c.perform op).charges (c.perform op).owner) =
        Log.viewports (Charges.of c.charges c.owner) := by
    rw [owner_of_not_retires hop, charges_perform, Charges.of_append, of_chargesOf_owner hop,
      Log.viewports_append, hquiet, List.append_nil]
  have hframe (id : FrameId) (now : Nat) :
      Log.viewports (c.outcome (.frame id now)).log = [] := by
    have hmeets : (c.view.perform (.frame id now)).Meets calling [] fun _ l =>
        l.filterMap Action.viewport? = [] := by
      rw [View.perform, Plan.meets_bind]
      exact (View.frame_feeds h.fresh.sound id now).mono fun _ _ h => h.1
    exact calls_of_meets hmeets c.host
  obtain ⟨r, hp⟩ := perform_performs h.fresh.sound op
  generalize hv : (c.perform op).view = v' at hp
  cases hp with
  | repeats change now hop hr =>
    have hquiet : Log.viewports (c.outcome op).log = [] := by
      rw [(c.redundant_outcome hop hr).1]
      rfl
    rw [hstays (Operation.retires_of_redundant hop hr) hquiet]
    exact h.sized
  | changes change now hop hr =>
    rw [← hv]
    intro s hs
    obtain ⟨host, hview, hlog⟩ := h.fresh.of_launched hop hr (by simp [hs])
    have hsizes := calls_of_meets (View.takeUp_sizes c.view.session_retired change now) host
    rw [hlog]
    rw [hview] at hs ⊢
    exact hsizes s hs
  | closes => exact View.sizedBy_of_none c.view.session_retired
  | resizes size hop =>
    subst hop
    rw [hstays rfl rfl]
    exact h.sized
  | ignores id now hop =>
    subst hop
    rw [hstays rfl (hframe id now)]
    exact h.sized
  | draws id now hop s next hs =>
    subst hop
    rw [hstays rfl (hframe id now)]
    exact fun _ _ => h.sized s hs

theorem Sized.next (h : c.Sized) (i : Incident) : (c.next i).Sized := by
  refine ⟨h.fresh.next i, ?_⟩
  rcases i with (op | _) | lost
  · exact (h.perform op).sized
  · rw [Course.next, step, charges_drain]
    exact h.sized
  · exact h.sized

theorem sized_history (device : d.State) (hasContext : Bool) (display : PixelSize)
    (parameters : Parameters) (incidents : List Incident) :
    ((start device (.onCanvas hasContext display parameters)).history incidents).Sized :=
  history_induction (P := Sized) ⟨fresh_start device rfl, View.sizedBy_of_none rfl⟩
    (fun _ i h => h.next i) incidents

/-- **The size of a canvas on its way to the device.** In every history of a view, on any device,
if a frame is drawn, then

* it feeds a matrix exactly if the program has a place for it, and that is the camera matrix for the
  aspect of the backing store;
* this aspect is width over height, or one if either is zero, unless the backing store is thin;
* then and only then the projection divides by zero; any other aspect is positive and finite;
* the viewport was set once for the session, to sides that are not negative; those of the backing
  store that fit are taken over as they are. -/
theorem projection_sized (device : d.State) (hasContext : Bool) (display : PixelSize)
    (parameters : Parameters) (incidents : List Incident) (id : FrameId) (now : Nat) :
    let c := (start device (.onCanvas hasContext display parameters)).history incidents
    let o := (c.view.frame id now).run d.host c.host
    let size := c.view.canvas.backing
    o.value.1 = true →
      (∃ s, c.view.session = some s ∧
        Log.matrices o.log = s.feeds.camera.toList.map fun location =>
          (location, parameters.cameraMatrix size.aspect (s.elapsed now))) ∧
      (size.aspect = size.ratio ↔ ¬ size.Thin) ∧
      ((size.aspect == 0) = true ↔ size.Thin) ∧
      (¬ size.Thin → 0 < size.aspect ∧ size.aspect.isFinite = true) ∧
      ∃ width height, Log.viewports (Charges.of c.charges c.owner) = [(width, height)] ∧
        0 ≤ width.toInt ∧ 0 ≤ height.toInt ∧
        (size.width.toNat < 2 ^ 31 → width.toInt = size.width.toNat) ∧
        (size.height.toNat < 2 ^ 31 → height.toInt = size.height.toNat) := by
  intro c o size hdrawn
  have hc : c.Equipped parameters :=
    equipped_history device hasContext display parameters incidents
  have hsized : c.Sized := sized_history device hasContext display parameters incidents
  obtain ⟨s, hs, hmatrices⟩ := (calls_of_meets (View.frame_feeds hc.sound id now) c.host).2 hdrawn
  rw [(hc.outfitted s hs).parameters, hc.parameters] at hmatrices
  refine ⟨⟨s, hs, hmatrices⟩, PixelSize.aspect_eq_ratio_iff, PixelSize.aspect_eq_zero_iff, ?_, ?_⟩
  · intro hthin
    obtain ⟨e, hfull⟩ := PixelSize.isFull_aspect hthin
    exact ⟨hfull.pos, hfull.isFinite⟩
  · have hviewports : Log.viewports (Charges.of c.charges c.owner) = [size.viewport] :=
      hsized.sized s hs
    refine ⟨_, _, hviewports, ?_⟩
    simp only [PixelSize.toInt_clamped]
    omega

/-- A frame of the cube on a canvas that is twice as wide as it is high. -/
theorem projection_sized_wide :
    let c := (start (d := Scripted.device) ({} : Objects) (.onCanvas true ⟨8, 4⟩ {})).history
      [.turn (.perform (.render Scripted.cubeCode 0))]
    let o := (c.view.frame ⟨1⟩ 1).run Scripted.device.host c.host
    o.value.1 = true ∧ ¬ c.view.canvas.backing.Thin ∧ 0 < c.view.canvas.backing.aspect := by
  intro c o
  have hdrawn : o.value.1 = true := by decide +kernel
  have hthin : ¬ c.view.canvas.backing.Thin := by decide +kernel
  have hsized := projection_sized (d := Scripted.device) ({} : Objects) true ⟨8, 4⟩ {}
    [.turn (.perform (.render Scripted.cubeCode 0))] ⟨1⟩ 1 hdrawn
  exact ⟨hdrawn, hthin, (hsized.2.2.2.1 hthin).1⟩

/-- On a canvas of four rows without width the cube is drawn, and seen with an aspect of zero. -/
theorem projection_of_thin :
    let c := (start (d := Scripted.device) ({} : Objects) (.onCanvas true ⟨0, 4⟩ {})).history
      [.turn (.perform (.render Scripted.cubeCode 0))]
    let o := (c.view.frame ⟨1⟩ 0).run Scripted.device.host c.host
    o.value.1 = true ∧ c.view.canvas.backing = ⟨0, 4⟩ ∧ c.view.canvas.backing.aspect ≠ 1 ∧
      (c.view.canvas.backing.aspect == 0) = true ∧
      ∃ s, c.view.session = some s ∧
        Log.matrices o.log = [(⟨27⟩, ({} : Parameters).cameraMatrix 0 (s.elapsed 0))] := by
  intro c o
  have hdrawn : o.value.1 = true := by decide +kernel
  have hbacking : c.view.canvas.backing = ⟨0, 4⟩ := by decide +kernel
  have haspect : c.view.canvas.backing.aspect = 0 := by
    rw [hbacking]
    exact PixelSize.aspect_of_thin (by decide)
  have hcamera : c.view.session.bind (fun s => s.feeds.camera) = some ⟨27⟩ := by decide +kernel
  have hc : c.Equipped {} := equipped_history (d := Scripted.device) ({} : Objects) true ⟨0, 4⟩ {} _
  obtain ⟨s, hs, hmatrices⟩ := (calls_of_meets (View.frame_feeds hc.sound ⟨1⟩ 0) c.host).2 hdrawn
  rw [(hc.outfitted s hs).parameters, hc.parameters, haspect] at hmatrices
  rw [hs, Option.bind_some] at hcamera
  rw [hcamera] at hmatrices
  rw [haspect]
  exact ⟨hdrawn, hbacking, by decide +kernel, by decide, s, hs, hmatrices⟩

end Course

end LiveShader
