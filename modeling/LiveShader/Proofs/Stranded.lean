import LiveShader.Proofs.Requests
import LiveShader.Proofs.Tenure

/-!
# Sessions that render but wait for nothing

A session that is rendering should await a callback, since only a callback lets it draw and ask for
the next. Starting and drawing keep it so, and closing ends the phase together with the callback.
But the callback can also be revoked on its own, and then the phase stays as it is.

* A session is stranded by calls (`Session.Call.Strands`) if its callback was revoked at some time
  after it was started, and it was not closed.
* Nothing brings a stranded session back: it cannot be started again, and it ignores every callback.

Results:
* `Tenure.awaits_run`: whether a callback is awaited after any calls.
* `rendering_awaits_iff`: the phase and the callback agree exactly if the session is not stranded.
* `rendering_without_callback`: a session that is started and revoked.
-/

namespace LiveShader

open Engine

namespace Session

/-! ## Calls that strand -/

namespace Call

/-- Calls strand a session if its callback was revoked after it was started, and it was not
closed. -/
def Strands (calls : List Call) : Prop :=
  .close ∉ calls ∧ ∃ now, List.Sublist [.start now, .revoke] calls

/-- Whether a callback is awaited after a call, by the phase before and whether one was awaited. -/
def awaits : Call → Phase → Prop → Prop
  | .start _, .linked, _ => True
  | .revoke, _, _ | .close, _, _ => False
  | _, _, awaited => awaited

/-- Once a session is stranded only closing it makes a difference. -/
theorem Strands.append {calls calls' : List Call} (h : Strands calls) (hclose : .close ∉ calls') :
    Strands (calls ++ calls') := by
  obtain ⟨hopen, now, hsub⟩ := h
  refine ⟨?_, now, hsub.trans (List.sublist_append_left calls calls')⟩
  rw [List.mem_append, not_or]
  exact ⟨hopen, hclose⟩

theorem exists_start_sublist {calls : List Call} :
    (∃ now, List.Sublist [.start now] calls) ↔ calls.any isStart = true := by
  rw [List.any_eq_true]
  constructor
  · rintro ⟨now, h⟩
    exact ⟨.start now, List.singleton_sublist.mp h, rfl⟩
  · rintro ⟨call, hmem, hstart⟩
    cases call with
    | start now => exact ⟨now, List.singleton_sublist.mpr hmem⟩
    | _ => cases hstart

theorem start_revoke_sublist_snoc {calls : List Call} {call : Call} :
    (∃ now, List.Sublist [.start now, .revoke] (calls ++ [call])) ↔
      (∃ now, List.Sublist [.start now, .revoke] calls) ∨
        call = .revoke ∧ calls.any isStart = true := by
  rw [← exists_start_sublist]
  simp only [pair_sublist_snoc, List.singleton_sublist, exists_or, exists_and_left, eq_comm]

theorem phaseAfter_eq_rendering {calls : List Call} :
    phaseAfter calls = .rendering ↔ .close ∉ calls ∧ calls.any isStart = true := by
  unfold phaseAfter
  by_cases hclose : .close ∈ calls
  · simp [hclose]
  · cases hstart : calls.any isStart <;> simp [hclose]

/-- Only a session that is rendering can be stranded. -/
theorem Strands.rendering {calls : List Call} (h : Strands calls) :
    phaseAfter calls = .rendering := by
  obtain ⟨hopen, now, hsub⟩ := h
  have hstart : .start now ∈ calls := hsub.subset List.mem_cons_self
  exact phaseAfter_eq_rendering.mpr ⟨hopen, List.any_eq_true.mpr ⟨_, hstart, rfl⟩⟩

theorem strands_snoc {calls : List Call} {call : Call} :
    Strands (calls ++ [call]) ↔
      call ≠ .close ∧ (Strands calls ∨ call = .revoke ∧ phaseAfter calls = .rendering) := by
  rw [Strands, start_revoke_sublist_snoc, phaseAfter_eq_rendering, Strands, List.mem_append,
    List.mem_singleton, not_or, eq_comm (b := call)]
  tauto

/-- That a session is rendering and not stranded is known after each call from what was so
before. -/
theorem awaits_snoc {calls : List Call} {call : Call} :
    (phaseAfter (calls ++ [call]) = .rendering ∧ ¬ Strands (calls ++ [call])) ↔
      call.awaits (phaseAfter calls) (phaseAfter calls = .rendering ∧ ¬ Strands calls) := by
  have hs : Strands calls → phaseAfter calls = .rendering := Strands.rendering
  rw [phaseAfter_snoc, strands_snoc]
  generalize phaseAfter calls = phase at hs
  cases call <;> cases phase <;> simp_all [leads, awaits]

end Call

/-! ## What is awaited -/

variable {s : Session} {p : Program} {m : PlacedMesh} {b : Biography}

/-- Whether a callback is awaited after a call. -/
theorem Stands.awaits (h : s.Stands p m b) (call : Call) :
    (s.obey call).Meets biography b fun a _ =>
      (a.2.awaited.isSome = true ↔ call.awaits s.phase (s.awaited.isSome = true)) := by
  have hidle (hi : s.Idles call)
      (hc : s.awaited.isSome = true ↔ call.awaits s.phase (s.awaited.isSome = true)) :
      (s.obey call).Meets LiveShader.biography b fun a _ =>
        (a.2.awaited.isSome = true ↔ call.awaits s.phase (s.awaited.isSome = true)) := by
    refine hi.biography.mono ?_
    rintro _ _ ⟨rfl, -⟩
    exact hc
  -- Revoking and closing leave nothing to wait for, however the session stands.
  have hrevoke : (s.obey .revoke).Meets LiveShader.biography b fun a _ =>
      (a.2.awaited.isSome = true ↔ False) := by
    unfold Session.obey
    rw [Plan.meets_bind]
    refine s.revoke_biography.mono ?_
    rintro _ _ ⟨rfl, -⟩
    simp
  have hclose (hh : s.Holds p m) (hphase : s.phase.isTerminal = false) :
      (s.obey .close).Meets LiveShader.biography b fun a _ =>
        (a.2.awaited.isSome = true ↔ False) := by
    unfold Session.obey
    rw [Plan.meets_bind]
    refine (hh.close_biography hphase).mono ?_
    rintro _ _ ⟨rfl, -⟩
    simp
  cases h with
  | linked hl ha =>
    cases call with
    | start now =>
      unfold Session.obey
      rw [Plan.meets_bind]
      refine (hl.start_biography now).mono ?_
      rintro _ _ ⟨⟨id, rfl⟩, -⟩
      rw [hl.phase]
      exact iff_of_true rfl trivial
    | frame id size now => exact hidle (idles_frame (by simp [ha]) size now) Iff.rfl
    | revoke => exact hrevoke
    | close => exact hclose hl.toHolds (by rw [hl.phase]; rfl)
  | rendering hh hphase =>
    cases call with
    | start now =>
      exact hidle (idles_start (by simp [hphase]) now) (by rw [hphase]; rfl)
    | frame id size now =>
      by_cases ha : s.awaited = some id
      · refine (Live.frame_biography ⟨hh, hphase, ha⟩ size now).mono ?_
        rintro _ _ ⟨⟨next, rfl⟩, -⟩
        exact iff_of_true rfl (by simp [Call.awaits, ha])
      · exact hidle (idles_frame ha size now) Iff.rfl
    | revoke => exact hrevoke
    | close => exact hclose hh (by rw [hphase]; rfl)
  | closed hmoves hholdings hphase ha =>
    refine hidle (idles_of_closed hholdings hphase ha call) ?_
    cases call <;> simp [ha, hphase, Call.awaits]

/-- A frame is drawn exactly if its callback is awaited. -/
theorem Stands.draws (h : s.Stands p m b) (id : FrameId) (size : PixelSize) (now : Nat) :
    (s.frame id size now).Meets biography b fun a _ =>
      (a.1 = true ↔ s.awaited = some id) := by
  by_cases ha : s.awaited = some id
  · cases h with
    | linked _ hnone => simp [hnone] at ha
    | rendering hh hphase =>
      refine (Live.frame_biography ⟨hh, hphase, ha⟩ size now).mono ?_
      rintro _ _ ⟨⟨next, rfl⟩, -⟩
      exact iff_of_true rfl ha
    | closed _ _ _ hnone => simp [hnone] at ha
  · refine (idles_frame ha size now).biography.mono ?_
    rintro _ _ ⟨rfl, -⟩
    exact iff_of_false Bool.false_ne_true ha

end Session

/-! ## Tenures -/

namespace Tenure

variable {d : Device} {t : Tenure d}

/-- **Whether a callback is awaited after any calls**: the session is rendering and not stranded. -/
theorem awaits_run {s : Session} {p : Program} {m : PlacedMesh} (hl : s.Linked p m)
    (ha : s.awaited = none) (host : Host d) (calls : List Session.Call) :
    (Tenure.run ⟨s, host, []⟩ calls).session.awaited.isSome = true ↔
      Session.Call.phaseAfter calls = .rendering ∧ ¬ Session.Call.Strands calls := by
  induction calls using List.reverseRecOn with
  | nil => simp [run, ha, Session.Call.phaseAfter]
  | append_singleton calls call ih =>
    obtain ⟨hstands, hphase⟩ := stands_run hl ha host calls
    have hstep := ((hstands.awaits call).run_free (fun _ _ => trivial) d.host
      (Tenure.run ⟨s, host, []⟩ calls).host).2
    rw [run_snoc, Session.Call.awaits_snoc, ← hphase]
    refine Iff.trans hstep ?_
    rw [ih, hphase]

theorem run_append (t : Tenure d) (calls calls' : List Session.Call) :
    t.run (calls ++ calls') = (t.run calls).run calls' :=
  List.foldl_append

/-- **A session that is rendering awaits a callback unless it was stranded.** Whatever was prepared,
on any device, and whatever is asked of the session that came of it,

* a session that awaits a callback is rendering, and the converse holds exactly if the calls have
  not stranded the session;
* a callback draws a frame exactly if it is the one that is awaited;
* a session that is stranded never draws again, whatever else is asked of it. -/
theorem rendering_awaits_iff (stages : Stages) (parameters : Parameters) (host : Host d)
    (s : Session) (h : ((Session.prepare stages parameters).run d.host host).value = .ok s)
    (calls : List Session.Call) :
    let o := (Session.prepare stages parameters).run d.host host
    let t := Tenure.run ⟨s, o.state, []⟩ calls
    (t.session.awaited.isSome = true → t.session.phase = .rendering) ∧
      ((t.session.phase = .rendering ↔ t.session.awaited.isSome = true) ↔
        ¬ Session.Call.Strands calls) ∧
      (∀ id size now, (t.outcome (.frame id size now)).value.1 = true ↔
        t.session.awaited = some id) ∧
      (Session.Call.Strands calls → ∀ calls' id size now,
        ((t.run calls').outcome (.frame id size now)).value.1 = false) := by
  intro o t
  obtain ⟨p, m, hl, ha⟩ := ((Session.prepare_stands stages parameters).run_free
    (fun _ _ => trivial) d.host host).2 s h
  have hphase (calls : List Session.Call) :
      (Tenure.run ⟨s, o.state, []⟩ calls).session.phase = Session.Call.phaseAfter calls :=
    (stands_run hl ha o.state calls).2
  have hawaits (calls : List Session.Call) :
      (Tenure.run ⟨s, o.state, []⟩ calls).session.awaited.isSome = true ↔
        Session.Call.phaseAfter calls = .rendering ∧ ¬ Session.Call.Strands calls :=
    awaits_run hl ha o.state calls
  have hdraws (calls : List Session.Call) (id : FrameId) (size : PixelSize) (now : Nat) :
      ((Tenure.run ⟨s, o.state, []⟩ calls).outcome (.frame id size now)).value.1 = true ↔
        (Tenure.run ⟨s, o.state, []⟩ calls).session.awaited = some id :=
    (((stands_run hl ha o.state calls).1.draws id size now).run_free (fun _ _ => trivial)
      d.host _).2
  refine ⟨?_, ?_, hdraws calls, ?_⟩
  · intro hsome
    rw [hphase]
    exact ((hawaits calls).mp hsome).1
  · have hstrands : Session.Call.Strands calls → Session.Call.phaseAfter calls = .rendering :=
      Session.Call.Strands.rendering
    rw [hphase, hawaits]
    tauto
  · intro hstrands calls' id size now
    rw [Bool.eq_false_iff, ← run_append, Ne, hdraws]
    intro hid
    have hsome := (hawaits (calls ++ calls')).mp (by rw [hid]; rfl)
    have hopen : .close ∉ calls' := by
      have hopen := (Session.Call.phaseAfter_eq_rendering.mp hsome.1).1
      rw [List.mem_append, not_or] at hopen
      exact hopen.2
    exact hsome.2 (hstrands.append hopen)

/-- On the scripted device the phase of a session that was started agrees with its callback. -/
theorem rendering_awaits_first :
    let o := (Session.prepare Scripted.code.stages {}).run Scripted.device.host
      { device := ({} : Objects) }
    ∃ s, o.value = .ok s ∧
      let t := Tenure.run (d := Scripted.device) ⟨s, o.state, []⟩ [.start 0]
      (t.session.phase = .rendering ↔ t.session.awaited.isSome = true) := by
  intro o
  obtain ⟨s, h⟩ := exists_prepared_scripted
  obtain ⟨-, hiff, -⟩ := rendering_awaits_iff Scripted.code.stages {} _ s h [.start 0]
  refine ⟨s, h, hiff.mpr ?_⟩
  rintro ⟨-, now, hsub⟩
  have hlen := hsub.length_le
  simp at hlen

/-- A session is started and its callback revoked: it goes on to say that it is rendering, but there
is no callback to wait for. -/
theorem rendering_without_callback :
    let o := (Session.prepare Scripted.code.stages {}).run Scripted.device.host
      { device := ({} : Objects) }
    ∃ s, o.value = .ok s ∧
      let t := Tenure.run (d := Scripted.device) ⟨s, o.state, []⟩ [.start 0, .revoke]
      ¬ (t.session.phase = .rendering ↔ t.session.awaited.isSome = true) := by
  intro o
  have hrun : o.value.toOption.map (fun s =>
      let t := Tenure.run (d := Scripted.device) ⟨s, o.state, []⟩ [.start 0, .revoke]
      (t.session.phase, t.session.awaited)) = some (.rendering, none) := by decide +kernel
  cases h : o.value with
  | error e =>
    rw [h] at hrun
    cases hrun
  | ok s =>
    rw [h, Except.toOption, Option.map_some, Option.some_inj, Prod.mk.injEq] at hrun
    obtain ⟨hphase, hawaited⟩ := hrun
    refine ⟨s, rfl, fun hiff => ?_⟩
    have hsome := hiff.mp hphase
    rw [hawaited] at hsome
    cases hsome

end Tenure

end LiveShader
