import LiveShader.Proofs.Queue

/-!
# The hand-off from one session to the next

Sessions do not overlap. When a session is retired its request is revoked and its objects are
deleted, one after the other, before anything is done for another session. Here this is read off
the combined log of device and frame queue, without the notices: the `calls`.

* Every call is charged to the change that it is made for, see `Course.chargesOf`.
* `Handoff` is what one operation adds to the calls; `Ordered` is what all calls together satisfy.

Results:
* `Course.handoff`: an operation first makes the calls of the live session, and then its own.
* `strict_handoff`: the calls of every course, in order.
-/

namespace LiveShader

open Engine

/-! ## Calls -/

/-- The calls so far, without notices. -/
def calling : Contract (Action.Reply Request.Reply) (List (Action Request)) where
  next l e := if e.question.isNote then l else l ++ [e.question]

/-- The calls of a log. -/
def Log.calls (log : Log) : List (Action Request) :=
  (log.map Exchange.question).filter fun a => !a.isNote

/-- The calls among charges. -/
def Charges.calls (charges : Charges) : List (Nat × Action Request) :=
  (charges.map fun x => (x.1, x.2.question)).filter fun x => !x.2.isNote

theorem calling_after (l : List (Action Request)) (log : Log) :
    calling.after l log = l ++ Log.calls log := by
  induction log generalizing l with
  | nil => simp [Log.calls]
  | cons e log ih =>
    rw [Contract.after_cons, ih]
    cases h : e.question.isNote <;> simp [calling, Log.calls, h]

@[simp] theorem Charges.calls_append (charges charges' : Charges) :
    Charges.calls (charges ++ charges') = Charges.calls charges ++ Charges.calls charges' := by
  simp [Charges.calls]

@[simp] theorem Charges.calls_map (number : Nat) (log : Log) :
    Charges.calls (log.map (number, ·)) = (Log.calls log).map (number, ·) := by
  simp [Charges.calls, Log.calls, List.filter_map, Function.comp_def]

/-- A plan makes only calls as it owes some contract. -/
theorem Plan.Meets.calling {τ α : Type} {D : Contract (Action.Reply Request.Reply) τ} {t : τ}
    {p : Engine α} {post : α → τ → Prop} (h : p.Meets D t post) (hassumed : ∀ t e, D.assumed t e)
    {P : Action Request → Prop} (howed : ∀ t e, D.owed t e → P e.question)
    (l : List (Action Request)) :
    p.Meets calling l fun _ l' => ∃ rest, l' = l ++ rest ∧ ∀ a ∈ rest, P a := by
  induction p generalizing t l with
  | done a => exact ⟨[], by simp⟩
  | ask q k ih =>
    intro r _
    obtain ⟨ho, hk⟩ := h r (hassumed t _)
    refine ⟨trivial, ?_⟩
    cases hq : q.isNote with
    | true => simpa [LiveShader.calling, hq] using ih r hk l
    | false =>
      have hl := ih r hk (l ++ [q])
      simp only [LiveShader.calling, hq, Bool.false_eq_true, if_false] at hl ⊢
      refine hl.mono ?_
      rintro _ _ ⟨rest, rfl, hrest⟩
      exact ⟨q :: rest, by simp, List.forall_mem_cons.mpr ⟨howed t _ ho, hrest⟩⟩

/-- The calls that retire a session, in order. -/
def retirement (program : Program) (placed : PlacedMesh) (id : FrameId) : List (Action Request) :=
  [.cancelFrame id, .gpu (.useProgram none), .gpu (.deleteProgram program),
    .gpu (.bindVertexArray none), .gpu (.deleteVertexArray placed.array),
    .gpu (.deleteBuffer placed.vertices)] ++
  placed.indices.toList.map fun indices => .gpu (.deleteBuffer indices)

theorem calling_ignoresNotes : calling.IgnoresNotes :=
  fun _ _ _ => ⟨rfl, trivial⟩

/-! ## Parts of operations -/

namespace View

variable {v : View} {s : Session} {p : Program} {m : PlacedMesh} {id : FrameId}
  {l : List (Action Request)}

theorem retire_calling (hs : v.session = some s) (hc : v.canvas.hasContext = true)
    (h : s.Live p m id) :
    v.retire.Meets calling l fun v' l' => v' = v.retired ∧ l' = l ++ retirement p m id := by
  rw [retire_eq hs hc h]
  cases hm : m.indices <;>
    simp [calling, retirement, Build.deleteProgram, PlacedMesh.delete, hm]

/-- What a change that is taken up comes to: a fitting viewport before anything else, and no frame
request unless the attempt succeeds. -/
structure Opening (r : Except Failure Unit) (v : View) (calls : List (Action Request)) : Prop where
  opens : calls = [] ∨ ∃ width height rest, calls = .gpu (.viewport width height) :: rest
  failed : ∀ e, r = .error e → v.session = none ∧ ∀ a ∈ calls, a.isScheduling = false

theorem takeUp_calling (hv : v.session = none) (change : Change) (now : Nat) :
    (v.takeUp change now).Meets calling [] fun a l => Opening a.1 a.2 l := by
  have hidle : ∀ (r : Except Failure Unit) (v' : View), v'.Resembles v → Opening r v' [] :=
    fun r v' h => ⟨.inl rfl, fun _ _ => ⟨h.session.trans hv, fun _ ha => by cases ha⟩⟩
  refine takeUp_meets calling_ignoresNotes hidle ?_
  intro _ width height stages parameters
  rw [Plan.meets_bind, meets_gpu]
  refine fun _ _ => ⟨trivial, ?_⟩
  have hl := (Session.prepare_building (s := {}) stages parameters).calling
    (P := fun a => a.isScheduling = false) (fun _ _ => trivial) (fun _ _ he => he.2)
    [.gpu (.viewport width height)]
  refine (hl.and_yields (Session.prepare_yields stages parameters)).mono ?_
  rintro r _ ⟨⟨rest, rfl, hrest⟩, hr⟩
  cases r with
  | error e =>
    refine fun v' hv' => ⟨.inr ⟨width, height, rest, rfl⟩, fun _ _ => ⟨hv'.session.trans hv, ?_⟩⟩
    exact List.forall_mem_cons.mpr ⟨rfl, hrest⟩
  | ok session =>
    obtain ⟨p, m, hl⟩ := hr session rfl
    dsimp only
    rw [hl.start_eq]
    simp only [calling, PlacedMesh.select, Plan.meets_bind, meets_gpu, meets_requestFrame,
      meets_note, Plan.meets_pure, true_and, forall_const]
    exact fun _ v' _ _ => ⟨.inr ⟨width, height, _, rfl⟩, fun e he => by cases he⟩

/-- Letting go of a view retires its session. -/
theorem drop_calling (hs : v.session = some s) (hc : v.canvas.hasContext = true)
    (h : s.Live p m id) : v.drop.Meets calling l fun _ l' => l' = l ++ retirement p m id := by
  unfold drop
  rw [Plan.meets_discard]
  exact (retire_calling hs hc h).mono fun _ _ h => h.2

theorem close_calling (hs : v.session = some s) (hc : v.canvas.hasContext = true)
    (h : s.Live p m id) :
    (v.perform .close).Meets calling [] fun _ l => l = retirement p m id := by
  simp only [perform, close, bind_assoc, pure_bind, Plan.meets_bind, Plan.meets_pure]
  refine calling_ignoresNotes.noteIf ?_
  exact (retire_calling hs hc h).mono fun _ _ h => h.2

/-- Without a session there is nothing to do for it. -/
theorem perform_calling_of_none (hs : v.session = none) {op : Operation} (hop : op.change = none) :
    (v.perform op).Meets calling [] fun _ l => l = [] := by
  cases op with
  | close =>
    simp only [perform, close, bind_assoc, pure_bind, Plan.meets_bind, Plan.meets_pure,
      retire_of_none hs]
    exact calling_ignoresNotes.noteIf rfl
  | frame id now =>
    simp only [perform, frame_of_none hs, bind_assoc, pure_bind, Plan.meets_bind, Plan.meets_pure]
    exact calling_ignoresNotes.note rfl
  | resize size => rfl
  | _ => cases hop

end View

/-! ## Operations -/

namespace Course

variable {d : Device} {c : Course d}

/-- What an operation does for the live session, `earlier`, and then for itself, `later`. -/
structure Handoff (c : Course d) (op : Operation) (earlier later : List (Action Request)) :
    Prop where
  calls : Charges.calls (c.chargesOf op) =
    earlier.map (c.owner, ·) ++ later.map (c.past.length, ·)
  idle : c.view.session = none → earlier = []
  retires : ∀ s, c.view.session = some s → op.retires c.view = true →
    ∃ p m id, s.Live p m id ∧ earlier = retirement p m id
  keeps : op.retires c.view = false → later = []
  opens : later = [] ∨ ∃ width height rest, later = .gpu (.viewport width height) :: rest
  failed : ∀ e, (c.outcome op).value.1 = .reacted (.error e) →
    (c.outcome op).value.2.session = none ∧ ∀ a ∈ later, a.isScheduling = false

/-- The calls of a run that meets the contract of calls. -/
theorem calls_of_meets {α : Type} {p : Engine α} {post : α → List (Action Request) → Prop}
    (h : p.Meets calling [] post) (host : Host d) :
    post (p.run d.host host).value (Log.calls (p.run d.host host).log) := by
  have hp := (h.run_free (fun _ _ => trivial) d.host host).2
  rwa [calling_after, List.nil_append] at hp

/-- An operation that is not a change says nothing of a failed attempt. -/
theorem result_of_no_change {op : Operation} (h : op.change = none) (r : Except Failure Unit) :
    (c.outcome op).value.1 ≠ .reacted r := by
  cases op with
  | close => simp [outcome, View.perform]
  | frame id now => simp [outcome, View.perform]
  | resize size => simp [outcome, View.perform]
  | _ => cases h

/-- **An operation makes the calls of the live session first, and then its own.** -/
theorem handoff (h : c.view.Ready) (op : Operation) :
    ∃ earlier later, c.Handoff op earlier later := by
  cases hop : op.change with
  | none =>
    have hr : op.renews c.view = false := Operation.renews_of_no_change hop
    refine ⟨Log.calls (c.outcome op).log, [], ?_, ?_, ?_, fun _ => rfl, .inl rfl, ?_⟩
    · rw [chargesOf_of_no_change hop, Charges.calls_map]
      simp
    · exact fun hs => calls_of_meets (View.perform_calling_of_none hs hop) c.host
    · intro s hs hret
      have : op = .close := by simpa [Operation.retires, hr] using hret
      subst this
      obtain ⟨p, m, id, hl⟩ := h.sound s hs
      have hc : c.view.canvas.hasContext = true := h.hasContext (by simp [hs])
      exact ⟨p, m, id, hl, calls_of_meets (View.close_calling hs hc hl) c.host⟩
    · exact fun e he => absurd he (result_of_no_change hop _)
  | some change =>
    obtain ⟨change, now⟩ := change
    cases hr : c.view.isRedundant change with
    | true =>
      obtain ⟨ho, hch⟩ := c.redundant_outcome hop hr
      have hret : op.retires c.view = false := Operation.retires_of_redundant hop hr
      refine ⟨[], [], ?_, fun _ => rfl, ?_, fun _ => rfl, .inl rfl, ?_⟩
      · rw [hch]
        rfl
      · exact fun _ _ ht => by simp [hret] at ht
      · exact fun e he => by simp [ho] at he
    | false =>
      obtain ⟨ho, hch⟩ := c.change_outcome hop hr
      have hret : op.retires c.view = true :=
        Operation.retires_of_renews (Operation.renews_of_not_redundant hop hr)
      have hv : (c.view.retire.run d.host c.host).value = c.view.retired :=
        (View.retire_queueing h.sound).queue.1
      have hl := calls_of_meets (View.takeUp_calling (hv ▸ c.view.session_retired) change now)
        (c.view.retire.run d.host c.host).state
      refine ⟨Log.calls (c.view.retire.run d.host c.host).log, _, ?_, ?_, ?_, ?_, hl.opens, ?_⟩
      · rw [hch, Charges.calls_append, Charges.calls_map, Charges.calls_map]
      · intro hs
        rw [View.retire_of_none hs]
        rfl
      · intro s hs _
        obtain ⟨p, m, id, hl⟩ := h.sound s hs
        have hc : c.view.canvas.hasContext = true := h.hasContext (by simp [hs])
        exact ⟨p, m, id, hl, (calls_of_meets (View.retire_calling hs hc hl) c.host).2⟩
      · exact fun hk => by simp [hret] at hk
      · intro e he
        rw [ho] at he ⊢
        exact hl.failed e (by simpa using he)

/-! ## Courses -/

/-- The calls so far are in the order of the changes that they are made for. While a session is live
nothing was done for a later change, and nothing is ever scheduled for an attempt that failed. -/
structure Ordered (c : Course d) : Prop where
  ready : c.view.Ready
  numbered : c.Numbered
  sorted : ((Charges.calls c.charges).map Prod.fst).Pairwise (· ≤ ·)
  live : c.view.session.isSome → ∀ x ∈ Charges.calls c.charges, x.1 ≤ c.owner
  failed : ∀ number op e log charges,
    c.past[number]? = some (.performed op (.reacted (.error e)) log charges) →
      (c.view.session.isSome → c.owner ≠ number) ∧
      ∀ x ∈ Charges.calls c.charges, x.1 = number → x.2.isScheduling = false

theorem ordered_start (device : d.State) {v : View} (h : v.session = none) :
    (start device v).Ordered where
  ready := View.ready_of_none h
  numbered := numbered_start device h
  sorted := List.Pairwise.nil
  live hs := by simp [start, h] at hs
  failed number op e log charges hp := by simp [start] at hp

/-- The calls of an operation come after all that were made before. -/
theorem Ordered.mem_lt (h : c.Ordered) {x : Nat × Action Request}
    (hx : x ∈ Charges.calls c.charges) : x.1 < c.past.length := by
  unfold Charges.calls at hx
  rw [List.mem_filter, List.mem_map] at hx
  obtain ⟨⟨y, hy, rfl⟩, -⟩ := hx
  exact h.numbered.charges y hy

theorem Handoff.isSome {op : Operation} {earlier later : List (Action Request)}
    (h : c.Handoff op earlier later) {a : Action Request} (ha : a ∈ earlier) :
    c.view.session.isSome := by
  rw [Option.isSome_iff_ne_none]
  intro hs
  rw [h.idle hs] at ha
  cases ha

theorem Handoff.mem_calls {op : Operation} {earlier later : List (Action Request)}
    (h : c.Handoff op earlier later) {x : Nat × Action Request} :
    x ∈ Charges.calls (c.perform op).charges ↔ x ∈ Charges.calls c.charges ∨
      x.1 = c.owner ∧ x.2 ∈ earlier ∨ x.1 = c.past.length ∧ x.2 ∈ later := by
  obtain ⟨number, a⟩ := x
  rw [charges_perform, Charges.calls_append, h.calls]
  simp [and_left_comm, eq_comm (a := number)]

theorem pairwise_replicated {α : Type} (number : Nat) (l : List α) :
    ((l.map (number, ·)).map Prod.fst).Pairwise (· ≤ ·) := by
  rw [List.map_map, List.pairwise_map]
  exact List.pairwise_of_forall fun _ _ => Nat.le_refl _

section Perform

variable {op : Operation} {earlier later : List (Action Request)}

theorem Ordered.sorted_perform (h : c.Ordered) (hh : c.Handoff op earlier later) :
    ((Charges.calls (c.perform op).charges).map Prod.fst).Pairwise (· ≤ ·) := by
  have hle := h.numbered.owner
  rw [charges_perform, Charges.calls_append, hh.calls, List.map_append, List.map_append,
    List.pairwise_append, List.pairwise_append]
  refine ⟨h.sorted, ⟨pairwise_replicated _ _, pairwise_replicated _ _, ?_⟩, ?_⟩
  · simp only [List.map_map, List.mem_map, Function.comp_apply]
    rintro _ ⟨_, -, rfl⟩ _ ⟨_, -, rfl⟩
    exact hle
  · simp only [List.map_map, List.mem_map, List.mem_append, Function.comp_apply]
    rintro _ ⟨x, hx, rfl⟩ _ (⟨a, ha, rfl⟩ | ⟨_, -, rfl⟩)
    · exact h.live (hh.isSome ha) x hx
    · exact Nat.le_of_lt (h.mem_lt hx)

theorem Ordered.live_perform (h : c.Ordered) (hh : c.Handoff op earlier later)
    (hs : (c.perform op).view.session.isSome) :
    ∀ x ∈ Charges.calls (c.perform op).charges, x.1 ≤ (c.perform op).owner := by
  intro x hx
  rw [hh.mem_calls] at hx
  rcases Course.live_perform h.ready.sound hs with ⟨-, ho⟩ | ⟨hop, hs', ho⟩
  · rw [ho]
    rcases hx with hx | ⟨hx, -⟩ | ⟨hx, -⟩
    · exact Nat.le_of_lt (h.mem_lt hx)
    · exact Nat.le_trans (Nat.le_of_eq hx) h.numbered.owner
    · exact Nat.le_of_eq hx
  · rw [ho]
    rcases hx with hx | ⟨hx, -⟩ | ⟨-, hx⟩
    · exact h.live hs' x hx
    · exact Nat.le_of_eq hx
    · simp [hh.keeps hop] at hx

theorem Ordered.failed_perform (h : c.Ordered) (hh : c.Handoff op earlier later) {number : Nat}
    {op' : Operation} {e : Failure} {log : Log} {charges : Charges}
    (hp : (c.perform op).past[number]? = some (.performed op' (.reacted (.error e)) log charges)) :
    ((c.perform op).view.session.isSome → (c.perform op).owner ≠ number) ∧
      ∀ x ∈ Charges.calls (c.perform op).charges, x.1 = number → x.2.isScheduling = false := by
  have hpast : (c.perform op).past = c.past ++ [.performed op (c.outcome op).value.1
      (c.outcome op).log (c.chargesOf op)] := rfl
  rw [hpast, List.getElem?_append] at hp
  split at hp
  -- The attempt failed before, and nothing is charged to it any more.
  · rename_i hlt
    obtain ⟨hown, hcalls⟩ := h.failed _ _ _ _ _ hp
    refine ⟨fun hs => ?_, fun x hx hn => ?_⟩
    · rcases Course.live_perform h.ready.sound hs with ⟨-, ho⟩ | ⟨-, hs', ho⟩
      · omega
      · rw [ho]
        exact hown hs'
    · rw [hh.mem_calls] at hx
      rcases hx with hx | ⟨hx, ha⟩ | ⟨hx, -⟩
      · exact hcalls x hx hn
      · exact absurd (hx.symm.trans hn) (hown (hh.isSome ha))
      · omega
  -- The attempt fails now.
  · rename_i hge
    have hlt := (List.getElem?_eq_some_iff.mp hp).1
    rw [List.length_singleton] at hlt
    obtain rfl : number = c.past.length := by omega
    simp only [Nat.sub_self, List.getElem?_cons_zero, Option.some_inj, Event.performed.injEq] at hp
    obtain ⟨hs, hcalls⟩ := hh.failed e hp.2.1
    refine ⟨fun hs' => ?_, fun x hx hn => ?_⟩
    · have hv : (c.perform op).view = (c.outcome op).value.2 := rfl
      simp [hv, hs] at hs'
    · rw [hh.mem_calls] at hx
      rcases hx with hx | ⟨hx, ha⟩ | ⟨-, ha⟩
      · exact absurd (h.mem_lt hx) (by omega)
      · exact absurd (h.numbered.live (hh.isSome ha)) (by omega)
      · exact hcalls _ ha

end Perform

theorem Ordered.perform (h : c.Ordered) (op : Operation) : (c.perform op).Ordered := by
  obtain ⟨earlier, later, hh⟩ := handoff h.ready op
  exact {
    ready := ready_step h.ready (.perform op)
    numbered := h.numbered.perform op
    sorted := h.sorted_perform hh
    live := h.live_perform hh
    failed := fun _ _ _ _ _ hp => h.failed_perform hh hp }

theorem Ordered.drain (h : c.Ordered) : c.drain.Ordered where
  ready := h.ready
  numbered := h.numbered.drain
  sorted := by
    rw [charges_drain]
    exact h.sorted
  live := by
    rw [charges_drain]
    exact h.live
  failed number op e log charges hp := by
    rw [charges_drain]
    refine h.failed number op e log charges ?_
    have hpast : c.drain.past = c.past ++ [.drained c.host.queue.outstanding] := rfl
    rw [hpast, List.getElem?_append] at hp
    split at hp
    · exact hp
    · rw [List.getElem?_singleton] at hp
      split at hp <;> cases hp

theorem ordered_run (h : c.Ordered) (turns : List Turn) : (c.run turns).Ordered :=
  run_induction (P := Ordered) h (fun c t h => by
    cases t with
    | perform op => exact h.perform op
    | drain => exact h.drain) turns

/-- What an operation that does not let go of the session leaves in place. -/
theorem session_perform (h : c.view.Sound) {op : Operation} (hop : op.retires c.view = false)
    {s : Session} (hs : c.view.session = some s) :
    ∃ s', (c.perform op).view.session = some s' ∧ s'.holdings = s.holdings := by
  cases perform_deals h op with
  | stays _ hs' => exact ⟨s, hs'.trans hs, rfl⟩
  | ends hop' => simp [hop] at hop'
  | begins hop' => simp [Operation.retires_of_renews hop'] at hop
  | draws id now _ s' p m hs' _ hs'' =>
    rw [hs, Option.some_inj] at hs'
    subst hs'
    exact ⟨_, hs'', rfl⟩

/-- The calls with which the view is let go of. -/
def finalCalls (c : Course d) : List (Action Request) :=
  Log.calls (c.view.drop.run d.host c.host).log

theorem finalCalls_of_live (h : c.view.Ready) {s : Session} (hs : c.view.session = some s) :
    ∃ p m id, s.Live p m id ∧ c.finalCalls = retirement p m id := by
  obtain ⟨p, m, id, hl⟩ := h.sound s hs
  have hc : c.view.canvas.hasContext = true := h.hasContext (by simp [hs])
  exact ⟨p, m, id, hl, calls_of_meets (View.drop_calling hs hc hl) c.host⟩

theorem finalCalls_of_none (hs : c.view.session = none) : c.finalCalls = [] := by
  simp [finalCalls, View.drop, View.retire_of_none hs, Plan.discard_eq, Log.calls]

theorem Ordered.sorted_final (h : c.Ordered) :
    ((Charges.calls c.charges ++ c.finalCalls.map (c.owner, ·)).map Prod.fst).Pairwise (· ≤ ·) := by
  cases hs : c.view.session with
  | none =>
    rw [finalCalls_of_none hs, List.map_nil, List.append_nil]
    exact h.sorted
  | some s =>
    rw [List.map_append, List.pairwise_append]
    refine ⟨h.sorted, pairwise_replicated _ _, ?_⟩
    simp only [List.map_map, List.mem_map, Function.comp_apply]
    rintro _ ⟨x, hx, rfl⟩ _ ⟨_, -, rfl⟩
    exact h.live (by simp [hs]) x hx

/-- **Strict hand-off.** In every course of a view of a canvas with a context, on any device,

* an operation that retires the live session begins with the calls that revoke its request and
  delete its objects, in this order, and only then come calls for the change itself, from the
  viewport on; any other operation leaves the session what it holds;
* letting go of the view makes just the calls that retire the session;
* whatever is called for one change is called before anything is for a later one;
* for a change whose attempt failed no frame is ever requested or revoked. -/
theorem strict_handoff (device : d.State) (display : PixelSize) (parameters : Parameters)
    (turns : List Turn) :
    let c := (start device (.onCanvas true display parameters)).run turns
    c.charges.map Prod.snd = c.log ∧
      (∀ op s, c.view.session = some s → op.retires c.view = true →
        ∃ p m id later, s.Live p m id ∧
          Charges.calls (c.chargesOf op) =
            (retirement p m id).map (c.owner, ·) ++ later.map (c.past.length, ·) ∧
          (later = [] ∨ ∃ width height rest, later = .gpu (.viewport width height) :: rest)) ∧
      (∀ op s, c.view.session = some s → op.retires c.view = false →
        ∃ s', (c.perform op).view.session = some s' ∧ s'.holdings = s.holdings) ∧
      (∀ s, c.view.session = some s →
        ∃ p m id, s.Live p m id ∧ c.finalCalls = retirement p m id) ∧
      ((Charges.calls c.charges ++ c.finalCalls.map (c.owner, ·)).map Prod.fst).Pairwise (· ≤ ·) ∧
      ∀ number op e log charges,
        c.past[number]? = some (.performed op (.reacted (.error e)) log charges) →
          ∀ x ∈ Charges.calls c.charges, x.1 = number → x.2.isScheduling = false := by
  intro c
  have hc : c.Ordered := ordered_run (ordered_start device rfl) turns
  refine ⟨charges_log_run rfl turns, ?_, ?_, ?_, hc.sorted_final, ?_⟩
  · intro op s hs hop
    obtain ⟨earlier, later, hh⟩ := handoff hc.ready op
    obtain ⟨p, m, id, hl, rfl⟩ := hh.retires s hs hop
    exact ⟨p, m, id, later, hl, hh.calls, hh.opens⟩
  · intro op s hs hop
    exact session_perform hc.ready.sound hop hs
  · intro s hs
    exact finalCalls_of_live hc.ready hs
  · intro number op e log charges hp
    exact (hc.failed number op e log charges hp).2

end Course

end LiveShader
