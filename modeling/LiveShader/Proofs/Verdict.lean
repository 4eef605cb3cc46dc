import LiveShader.Proofs.Attempt
import LiveShader.Proofs.Frames
import Mathlib.Data.List.Basic
import Mathlib.Data.List.Induction

/-!
# What a view says of its last attempt

A view tells how far the live session or the last attempt came (`View.phase`) and why the last
attempt failed (`View.lastFailure`). Both are about the same attempt, so one would expect that the
phase is `errored` exactly if there is a failure to tell.

That is not so. Taking up a change clears the failure before it is known whether anything will be
attempted, and the phase is left as it was if nothing is. So a view that is hidden after a failed
attempt goes on to say that its last attempt failed, but has forgotten why. `Course.Forgotten` says
that this has happened in a history.

Results:
* `View.Performs.silent_iff`: when an operation leaves a view that does not know why.
* `Course.failure_known_iff`: phase and failure agree except where the failure was forgotten.
-/

namespace LiveShader

/-! ## Attempts -/

namespace Operation

/-- Whether an operation makes an attempt. An answer that is a failure counts as a failed one. -/
def Tries (op : Operation) (v : View) : Prop :=
  ∃ r, op.asks v = some r ∧ r ≠ .ok none

/-- Whether an operation is taken up without an attempt. -/
def Rests (op : Operation) (v : View) : Prop :=
  op.asks v = some (.ok none)

variable {op : Operation} {v : View}

theorem not_tries_iff {r : Except Failure (Option ShaderCode)} (h : op.asks v = some r) :
    ¬ op.Tries v ↔ op.Rests v := by
  simp [Tries, Rests, h]

end Operation

namespace View

variable {v v' : View} {op : Operation} {r : Result}

/-- The view says that its last attempt failed and does not know why. -/
def Silent (v : View) : Prop :=
  v.phase = .errored ∧ v.lastFailure = none

/-- A failure is only told of an attempt that failed and left no session. -/
def Candid (v : View) : Prop :=
  ∀ e, v.lastFailure = some e → v.session = none ∧ v.lastPhase = .errored

theorem Candid.phase (h : v.Candid) (hf : v.lastFailure.isSome = true) : v.phase = .errored := by
  obtain ⟨e, he⟩ := Option.isSome_iff_exists.mp hf
  obtain ⟨hs, hp⟩ := h e he
  rw [View.phase, hs]
  exact hp

/-- Phase and failure agree exactly if the view is not silent. -/
theorem Candid.agrees_iff (h : v.Candid) :
    (v.phase = .errored ↔ v.lastFailure.isSome = true) ↔ ¬ v.Silent := by
  rw [Silent, not_and, ← ne_eq, ← Option.isSome_iff_ne_none]
  exact ⟨Iff.mp, fun hp => ⟨hp, h.phase⟩⟩

theorem phase_of_none (h : v.session = none) : v.phase = v.lastPhase := by
  rw [phase, h]

theorem Sound.phase_of_some (hv : v.Sound) {s : Session} (hs : v.session = some s) :
    v.phase = .rendering := by
  obtain ⟨p, m, id, hl⟩ := hv s hs
  rw [phase, hs]
  exact hl.phase

/-- Retiring a session is no failure. -/
theorem Sound.phase_retired (hv : v.Sound) : v.retired.phase = .errored ↔ v.phase = .errored := by
  cases hs : v.session with
  | none => simp [retired, hs]
  | some s =>
    rw [hv.phase_of_some hs]
    simp [retired, hs, phase]

/-! ## Changes that are taken up -/

/-- A view that takes up a change is candid afterwards. It is silent only if there was nothing to
attempt and it spoke of a failed attempt before. -/
theorem TakesUp.verdict {change : Change} {now : Nat} {r : Except Failure Unit}
    (h : v.TakesUp change now r v') (hs : v.session = none) :
    v'.Candid ∧ (v'.Silent ↔ v.asks change = .ok none ∧ v.phase = .errored) := by
  have hs' := (v.recorded_resembles change).session.trans hs
  have hf : (v.recorded change).lastFailure = none := by rw [recorded_eq]
  have hp : (v.recorded change).lastPhase = v.lastPhase := by rw [recorded_eq]
  cases h with
  | refuses e ha =>
    refine ⟨fun _ _ => ⟨hs', rfl⟩, ?_⟩
    simp [Silent, View.failed, ha]
  | rests ha =>
    refine ⟨fun e he => ?_, ?_⟩
    · rw [hf] at he
      cases he
    · rw [Silent, phase_of_none hs', phase_of_none hs, hp]
      simp [hf, ha]
  | fails code e ha =>
    refine ⟨fun _ _ => ⟨hs', rfl⟩, ?_⟩
    simp [Silent, View.failed, ha]
  | begins code s p m id ha _ hl =>
    refine ⟨fun e he => ?_, ?_⟩
    · rw [launched, fitted, hf] at he
      cases he
    · simp [Silent, launched, phase, hl.phase, ha]

/-! ## Operations -/

/-- A view that was retired and closed has the verdict it had. -/
theorem closed_verdict (hv : v.Sound) (hc : v.Candid) :
    v.retired.closed.Candid ∧ (v.retired.closed.Silent ↔ v.Silent) := by
  cases hs : v.session with
  | none =>
    have hr : v.retired = v := by simp [retired, hs]
    rw [hr]
    exact ⟨hc, Iff.rfl⟩
  | some s =>
    refine ⟨fun e he => ?_, ?_⟩
    · rw [closed, retired, hs] at he
      exact absurd (hc e he).1 (by simp [hs])
    · rw [Silent, Silent, hv.phase_of_some hs]
      simp [closed, retired, hs, phase]

theorem Performs.candid (h : v.Performs op r v') (hv : v.Sound) (hc : v.Candid) : v'.Candid := by
  cases h with
  | changes change now _ _ r _ ht => exact (ht.verdict v.session_retired).1
  | closes => exact (closed_verdict hv hc).1
  | draws _ _ _ s next hs =>
    intro e he
    exact absurd (hc e he).1 (by simp [hs])
  | _ => exact hc

/-- **When a view does not know why its last attempt failed**: something was taken up without an
attempt after a failed one, or it did not know before and has made no attempt. -/
theorem Performs.silent_iff (h : v.Performs op r v') (hv : v.Sound) (hc : v.Candid) :
    v'.Silent ↔ op.Rests v ∧ v.phase = .errored ∨ v.Silent ∧ ¬ op.Tries v := by
  have hidle (ha : op.asks v = none) (hs : v'.Silent ↔ v.Silent) :
      v'.Silent ↔ op.Rests v ∧ v.phase = .errored ∨ v.Silent ∧ ¬ op.Tries v := by
    simp [Operation.Rests, Operation.Tries, ha, hs]
  cases h with
  | repeats change now hop hr => exact hidle (Operation.asks_of_redundant hop hr) Iff.rfl
  | changes change now hop hr r _ ht =>
    have ha := Operation.asks_of_change hop hr
    rw [(ht.verdict v.session_retired).2, hv.phase_retired, asks_retired,
      Operation.not_tries_iff ha, Operation.Rests, ha, Option.some_inj]
    exact ⟨.inl, fun h => h.elim id fun h => ⟨h.2, h.1.1⟩⟩
  | closes hop =>
    exact hidle (Operation.asks_of_no_change (by rw [hop]; rfl)) (closed_verdict hv hc).2
  | resizes size hop => exact hidle (Operation.asks_of_no_change (by rw [hop]; rfl)) Iff.rfl
  | ignores id now hop => exact hidle (Operation.asks_of_no_change (by rw [hop]; rfl)) Iff.rfl
  | draws id now hop s next hs =>
    refine hidle (Operation.asks_of_no_change (by rw [hop]; rfl)) ?_
    simp [Silent, phase, hs, Session.advanced]

end View

/-! ## Histories -/

namespace Course

variable {d : Device} {c : Course d}

/-- Some change was taken up without an attempt while the view spoke of a failed one, and no attempt
was made since. -/
def Forgotten (c : Course d) (incidents : List Incident) : Prop :=
  ∃ before op after, incidents = before ++ .turn (.perform op) :: after ∧
    op.Rests (c.history before).view ∧ (c.history before).view.phase = .errored ∧
    ∀ mid op' rest, after = mid ++ .turn (.perform op') :: rest →
      ¬ op'.Tries (c.history (before ++ .turn (.perform op) :: mid)).view

theorem history_snoc (incidents : List Incident) (i : Incident) :
    c.history (incidents ++ [i]) = (c.history incidents).next i :=
  List.foldl_append

theorem forgotten_nil : ¬ c.Forgotten [] := by
  rintro ⟨before, op, after, h, -⟩
  simp at h

/-- Forgetting, incident by incident. -/
theorem forgotten_snoc {incidents : List Incident} {i : Incident} :
    c.Forgotten (incidents ++ [i]) ↔
      (∃ op, i = .turn (.perform op) ∧ op.Rests (c.history incidents).view ∧
        (c.history incidents).view.phase = .errored) ∨
      c.Forgotten incidents ∧
        ∀ op, i = .turn (.perform op) → ¬ op.Tries (c.history incidents).view := by
  constructor
  · rintro ⟨before, op, after, h, hrests, hphase, hsince⟩
    rcases List.eq_nil_or_concat' after with rfl | ⟨after, j, rfl⟩
    · obtain ⟨rfl, h⟩ := List.append_inj' h rfl
      exact .inl ⟨op, by simpa using h, hrests, hphase⟩
    · rw [← List.cons_append, ← List.append_assoc] at h
      obtain ⟨rfl, h⟩ := List.append_inj' h rfl
      obtain rfl : i = j := by simpa using h
      refine .inr ⟨⟨before, op, after, rfl, hrests, hphase, ?_⟩, ?_⟩
      · rintro mid op' rest rfl
        exact hsince mid op' (rest ++ [i]) (by simp)
      · rintro op' rfl
        exact hsince after op' [] rfl
  · rintro (⟨op, rfl, hrests, hphase⟩ | ⟨⟨before, op, after, rfl, hrests, hphase, hsince⟩, hi⟩)
    · exact ⟨incidents, op, [], rfl, hrests, hphase, by simp⟩
    · refine ⟨before, op, after ++ [i], by simp, hrests, hphase, fun mid op' rest h => ?_⟩
      rcases List.eq_nil_or_concat' rest with rfl | ⟨rest, j, rfl⟩
      · obtain ⟨rfl, h⟩ := List.append_inj' h rfl
        exact hi op' (by simpa using h)
      · rw [← List.cons_append, ← List.append_assoc] at h
        exact hsince mid op' rest (List.append_inj' h rfl).1

theorem sound_next (h : c.view.Sound) (i : Incident) : (c.next i).view.Sound := by
  rcases i with (op | _) | lost
  · exact (perform_deals h op).sound h
  · exact h
  · exact h

theorem candid_next (hv : c.view.Sound) (hc : c.view.Candid) (i : Incident) :
    (c.next i).view.Candid := by
  rcases i with (op | _) | lost
  · obtain ⟨r, h⟩ := perform_performs hv op
    exact h.candid hv hc
  · exact hc
  · exact hc

/-- Being silent, incident by incident. -/
theorem silent_next (hv : c.view.Sound) (hc : c.view.Candid) (i : Incident) :
    (c.next i).view.Silent ↔
      (∃ op, i = .turn (.perform op) ∧ op.Rests c.view ∧ c.view.phase = .errored) ∨
      c.view.Silent ∧ ∀ op, i = .turn (.perform op) → ¬ op.Tries c.view := by
  rcases i with (op | _) | lost
  · obtain ⟨r, h⟩ := perform_performs hv op
    have hview : (c.next (.turn (.perform op))).view = (c.perform op).view := rfl
    rw [hview, h.silent_iff hv hc]
    simp
  · simp [next, step, drain]
  · simp [next, setLost, View.Silent, View.phase]

/-- What is so of the view after every history: it is silent exactly if it has forgotten. -/
theorem silent_history (device : d.State) {v : View} (hs : v.session = none)
    (hp : v.lastPhase ≠ .errored) (hf : v.lastFailure = none) (incidents : List Incident) :
    let c := (start device v).history incidents
    c.view.Sound ∧ c.view.Candid ∧ (c.view.Silent ↔ (start device v).Forgotten incidents) := by
  induction incidents using List.reverseRecOn with
  | nil =>
    have hv : ((start device v).history []).view = v := rfl
    dsimp only
    rw [hv]
    refine ⟨View.sound_of_none hs, fun e he => ?_, iff_of_false (fun h => ?_) forgotten_nil⟩
    · rw [hf] at he
      cases he
    · exact hp (View.phase_of_none hs ▸ h.1)
  | append_singleton incidents i ih =>
    obtain ⟨hsound, hcandid, hsilent⟩ := ih
    dsimp only
    rw [history_snoc]
    refine ⟨sound_next hsound i, candid_next hsound hcandid i, ?_⟩
    rw [silent_next hsound hcandid i, hsilent, forgotten_snoc]

/-- **A failure that is told is one of the last attempt; that one failed may be told without the
failure.** In every history of a view, with or without a context and on any device, there is a
failure to tell only if the phase is `errored`, and the converse holds exactly if the failure was
not forgotten. -/
theorem failure_known_iff (device : d.State) (hasContext : Bool) (display : PixelSize)
    (parameters : Parameters) (incidents : List Incident) :
    let c := start device (.onCanvas hasContext display parameters)
    let v := (c.history incidents).view
    (v.lastFailure.isSome = true → v.phase = .errored) ∧
      ((v.phase = .errored ↔ v.lastFailure.isSome = true) ↔ ¬ c.Forgotten incidents) := by
  intro c v
  obtain ⟨-, hcandid, hsilent⟩ := silent_history device
    (v := .onCanvas hasContext display parameters) rfl (fun h => by cases h) rfl incidents
  exact ⟨hcandid.phase, hcandid.agrees_iff.trans (not_congr hsilent)⟩

/-- A failed answer, and then the view is hidden: the phase still says that the last attempt failed,
but there is no failure to tell. -/
theorem failure_forgotten :
    let v := (Scripted.course.history [.turn (.perform (.submit (.failed "boom") 0)),
      .turn (.perform (.setVisible false 0))]).view
    ¬ (v.phase = .errored ↔ v.lastFailure.isSome = true) := by
  decide

end Course

end LiveShader
