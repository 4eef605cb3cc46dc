import LiveShader.Engine

/-!
# Contracts between plans and machines

A `Contract` follows a run with a state of its own and says two things about each exchange: what
the machine's reply is `assumed` to be like, and what the plan's question `owed` to be like. Both
may depend on everything that was asked and answered before, as far as the state tells it.

* `Plan.Meets` is a weakest precondition: from a state of the contract, and however questions are
  answered within what is assumed, every question is as it is owed and the plan ends as demanded.
* `Contract.Assumed` and `Contract.Owed` say the same two things of the log of a run.

Results:
* `Plan.Meets.run`: a plan that meets a contract keeps it on every machine, in every state.
* `meets_bind`: a plan after another meets a contract from the state that the first one leaves.
* `Plan.Meets.frame`: a plan whose questions do not concern a contract leaves its state alone.
* `Plan.Meets.expand`: a contract is carried from one layer of plans to the layer below.
* `Plan.Meets.transcript`: what is said of every log that a plan may leave is so of that of a run.
-/

namespace LiveShader

variable {Q : Type} {R : Q → Type} {σ α β : Type}

/-- What a machine is assumed to reply and what a plan owes, in a state that exchanges change. -/
structure Contract {Q : Type} (R : Q → Type) (σ : Type) where
  next : σ → Exchange R → σ
  assumed : σ → Exchange R → Prop := fun _ _ => True
  owed : σ → Exchange R → Prop := fun _ _ => True

namespace Contract

/-- The state after a log. -/
def after (C : Contract R σ) (s : σ) (log : List (Exchange R)) : σ :=
  log.foldl C.next s

/-- `P` holds of every exchange of a log, in the state that those before it lead to. -/
def Along (C : Contract R σ) (P : σ → Exchange R → Prop) : σ → List (Exchange R) → Prop
  | _, [] => True
  | s, e :: log => P s e ∧ C.Along P (C.next s e) log

/-- Every reply of a log is as assumed. -/
def Assumed (C : Contract R σ) : σ → List (Exchange R) → Prop :=
  C.Along C.assumed

/-- Every question of a log is as owed. -/
def Owed (C : Contract R σ) : σ → List (Exchange R) → Prop :=
  C.Along C.owed

variable (C : Contract R σ) {P : σ → Exchange R → Prop} {s : σ}

instance Along.decidable [∀ s e, Decidable (P s e)] :
    (s : σ) → (log : List (Exchange R)) → Decidable (C.Along P s log)
  | _, [] => .isTrue trivial
  | s, e :: log =>
    have := decidable (C.next s e) log
    inferInstanceAs (Decidable (P s e ∧ C.Along P (C.next s e) log))

@[simp] theorem after_nil : C.after s [] = s := rfl

@[simp] theorem after_cons {e : Exchange R} {log : List (Exchange R)} :
    C.after s (e :: log) = C.after (C.next s e) log := rfl

@[simp] theorem after_append {log log' : List (Exchange R)} :
    C.after s (log ++ log') = C.after (C.after s log) log' :=
  List.foldl_append

theorem along_append {log log' : List (Exchange R)} :
    C.Along P s (log ++ log') ↔ C.Along P s log ∧ C.Along P (C.after s log) log' := by
  induction log generalizing s with
  | nil => simp [Along]
  | cons e log ih => simp [Along, ih, and_assoc]

theorem assumed_append {log log' : List (Exchange R)} :
    C.Assumed s (log ++ log') ↔ C.Assumed s log ∧ C.Assumed (C.after s log) log' :=
  C.along_append

theorem owed_append {log log' : List (Exchange R)} :
    C.Owed s (log ++ log') ↔ C.Owed s log ∧ C.Owed (C.after s log) log' :=
  C.along_append

/-- What is owed in every state is owed along every log. -/
theorem along_of_forall (h : ∀ s e, P s e) (s : σ) (log : List (Exchange R)) : C.Along P s log := by
  induction log generalizing s with
  | nil => trivial
  | cons e log ih => exact ⟨h s e, ih _⟩

/-- What one contract owes along a log implies what another owes, exchange by exchange. -/
theorem Along.imp {τ : Type} {D : Contract R τ} {P' : τ → Exchange R → Prop} {t : τ}
    {log : List (Exchange R)} (h : C.Along P s log) (himp : ∀ s e, P s e → ∀ t, P' t e) :
    D.Along P' t log := by
  induction log generalizing s t with
  | nil => trivial
  | cons e log ih => exact ⟨himp s e h.1 t, ih h.2⟩

end Contract

namespace Plan

/-! ## Plans that meet a contract -/

/-- From the state `s` of a contract the plan owes nothing and ends with `post`, however it is
answered within what is assumed. -/
def Meets (C : Contract R σ) (p : Plan R α) (s : σ) (post : α → σ → Prop) : Prop :=
  match p with
  | .done a => post a s
  | .ask q k => ∀ r, C.assumed s ⟨q, r⟩ → C.owed s ⟨q, r⟩ ∧ (k r).Meets C (C.next s ⟨q, r⟩) post

variable {C : Contract R σ} {s : σ}

/-- **A plan that meets a contract keeps it** on every machine that replies as assumed. -/
theorem Meets.run {p : Plan R α} {post : α → σ → Prop} (h : p.Meets C s post) (m : Machine R)
    (t : m.State) (ha : C.Assumed s (p.run m t).log) :
    C.Owed s (p.run m t).log ∧ post (p.run m t).value (C.after s (p.run m t).log) := by
  induction p generalizing s t with
  | done a => exact ⟨trivial, h⟩
  | ask q k ih =>
    obtain ⟨hr, ha⟩ := ha
    obtain ⟨ho, hk⟩ := h _ hr
    obtain ⟨ho', hp⟩ := ih _ hk _ ha
    exact ⟨⟨ho, ho'⟩, hp⟩

/-- A contract that assumes nothing is kept on every machine. -/
theorem Meets.run_free {p : Plan R α} {post : α → σ → Prop} (h : p.Meets C s post)
    (hassumed : ∀ s e, C.assumed s e) (m : Machine R) (t : m.State) :
    C.Owed s (p.run m t).log ∧ post (p.run m t).value (C.after s (p.run m t).log) :=
  h.run m t (C.along_of_forall hassumed _ _)

/-- The rule of consequence. -/
theorem Meets.mono {p : Plan R α} {post post' : α → σ → Prop} (h : p.Meets C s post)
    (hpost : ∀ a s, post a s → post' a s) : p.Meets C s post' := by
  induction p generalizing s with
  | done a => exact hpost a s h
  | ask q k ih => exact fun r hr => ⟨(h r hr).1, ih r (h r hr).2⟩

@[simp] theorem meets_pure {a : α} {post : α → σ → Prop} :
    (pure a : Plan R α).Meets C s post ↔ post a s := Iff.rfl

/-- A plan after another starts from the state that the first one leaves. -/
@[simp] theorem meets_bind {p : Plan R α} {f : α → Plan R β} {post : β → σ → Prop} :
    (p >>= f).Meets C s post ↔ p.Meets C s fun a s => (f a).Meets C s post := by
  induction p generalizing s with
  | done a => rfl
  | ask q k ih =>
    exact forall_congr' fun r => imp_congr_right fun _ => and_congr_right fun _ => ih r

@[simp] theorem meets_map {p : Plan R α} {f : α → β} {post : β → σ → Prop} :
    (f <$> p).Meets C s post ↔ p.Meets C s fun a s => post (f a) s := by
  rw [← bind_pure_comp, meets_bind]
  rfl

@[simp] theorem meets_discard {p : Plan R α} {post : Unit → σ → Prop} :
    (discard p).Meets C s post ↔ p.Meets C s fun _ s => post () s :=
  meets_map

/-! ## From one contract to another -/

variable {τ : Type} {D : Contract R τ} {t : τ}

/-- The contract that says nothing. -/
def free : Contract R Unit where
  next _ _ := ()

/-- However the plan is answered, its value satisfies `P`. -/
def Yields (P : α → Prop) (p : Plan R α) : Prop :=
  p.Meets free () fun a _ => P a

/-- What a contract that assumes nothing says of the value alone is so without it. -/
theorem Meets.yields {P : α → Prop} {p : Plan R α} (h : p.Meets D t fun a _ => P a)
    (hassumed : ∀ t e, D.assumed t e) : p.Yields P := by
  induction p generalizing t with
  | done a => exact h
  | ask q k ih => exact fun r _ => ⟨trivial, ih r (h r (hassumed t _)).2⟩

/-- What a plan always yields it also yields when it meets a contract. -/
theorem Meets.and_yields {p : Plan R α} {post : α → σ → Prop} {P : α → Prop}
    (h : p.Meets C s post) (hp : p.Yields P) : p.Meets C s fun a s => post a s ∧ P a := by
  induction p generalizing s with
  | done a => exact ⟨h, hp⟩
  | ask q k ih => exact fun r hr => ⟨(h r hr).1, ih r (h r hr).2 (hp r trivial).2⟩

theorem yields_true (p : Plan R α) : p.Yields fun _ => True := by
  induction p with
  | done a => trivial
  | ask q k ih => exact fun r _ => ⟨trivial, ih r⟩

/-- A plan meets every contract that owes nothing. -/
theorem Yields.meets {p : Plan R α} {P : α → Prop} (hp : p.Yields P) (howed : ∀ s e, C.owed s e) :
    p.Meets C s fun a _ => P a := by
  induction p generalizing s with
  | done a => exact hp
  | ask q k ih => exact fun r _ => ⟨howed s _, ih r (hp r trivial).2⟩

/-- A contract that owes less. -/
theorem Meets.of_owed {C' : Contract R σ} {p : Plan R α} {post : α → σ → Prop}
    (h : p.Meets C' s post) (hnext : C.next = C'.next) (hassumed : ∀ s e, C'.assumed s e)
    (howed : ∀ s e, C'.owed s e → C.owed s e) : p.Meets C s post := by
  induction p generalizing s with
  | done a => exact h
  | ask q k ih =>
    intro r _
    obtain ⟨ho, hk⟩ := h r (hassumed s _)
    refine ⟨howed s _ ho, ?_⟩
    rw [hnext]
    exact ih r hk

/-- **Layers.** If the plan for each question does what the question means in the upper contract,
and owes in the lower contract nothing that is not owed in the upper one, then a plan that meets
the upper contract meets the lower one when it is expanded. -/
theorem Meets.expand {Q' : Type} {R' : Q' → Type} {f : (q : Q) → Plan R' (R q)}
    {D : Contract R' σ} {p : Plan R α} {post : α → σ → Prop} (h : p.Meets C s post)
    (hassumed : ∀ s e, C.assumed s e)
    (hf : ∀ q s, (∀ r, C.owed s ⟨q, r⟩) → (f q).Meets D s fun r s' => s' = C.next s ⟨q, r⟩) :
    (p.expand f).Meets D s post := by
  induction p generalizing s with
  | done a => exact h
  | ask q k ih =>
    have hq := hf q s fun r => (h r (hassumed s _)).1
    refine meets_bind.mpr (hq.mono ?_)
    rintro r _ rfl
    exact ih r (h r (hassumed s _)).2

/-- **The frame rule.** A plan that owes one contract only questions that do not concern another
leaves the state of the other alone. -/
theorem Meets.frame {p : Plan R α} {post : α → τ → Prop} (h : p.Meets D t post)
    (hassumed : ∀ t e, D.assumed t e)
    (hnext : ∀ t e, D.owed t e → ∀ s, C.next s e = s ∧ C.owed s e) :
    p.Meets C s fun _ s' => s' = s := by
  induction p generalizing t with
  | done a => rfl
  | ask q k ih =>
    intro r _
    obtain ⟨ho, hk⟩ := h r (hassumed t _)
    obtain ⟨hs, hc⟩ := hnext t _ ho s
    refine ⟨hc, ?_⟩
    rw [hs]
    exact ih r hk

end Plan

/-! ## The log as a state -/

/-- The contract whose state is the log so far. -/
def transcript : Contract R (List (Exchange R)) where
  next log e := log ++ [e]

theorem transcript_after (log log' : List (Exchange R)) :
    transcript.after log log' = log ++ log' := by
  induction log' generalizing log with
  | nil => exact (List.append_nil log).symm
  | cons e log' ih =>
    rw [Contract.after_cons, ih]
    exact List.append_assoc log [e] log'

/-- What meets the contract of the log is so of the log of a run. -/
theorem Plan.Meets.transcript {p : Plan R α} {post : α → List (Exchange R) → Prop}
    (h : p.Meets transcript [] post) (m : Machine R) (t : m.State) :
    post (p.run m t).value (p.run m t).log := by
  have hp := (h.run_free (fun _ _ => trivial) m t).2
  rwa [transcript_after, List.nil_append] at hp

/-- A plan adds to the log. -/
theorem Plan.adds (p : Plan R α) {log : List (Exchange R)} :
    p.Meets LiveShader.transcript log fun _ log' => log <+: log' := by
  induction p generalizing log with
  | done a => exact List.prefix_rfl
  | ask q k ih =>
    intro r _
    exact ⟨trivial, (ih r).mono fun _ _ h => (List.prefix_append _ _).trans h⟩

/-! ## What the engine does -/

namespace Engine

variable {C : Contract (Action.Reply Request.Reply) σ} {s : σ}

@[simp] theorem meets_gpu {r : Request} {post : r.Reply → σ → Prop} :
    @Plan.Meets _ _ _ (no_index _) C (gpu r) s post ↔
      ∀ a, C.assumed s ⟨.gpu r, a⟩ → C.owed s ⟨.gpu r, a⟩ ∧ post a (C.next s ⟨.gpu r, a⟩) := Iff.rfl

@[simp] theorem meets_requestFrame {post : FrameId → σ → Prop} :
    requestFrame.Meets C s post ↔
      ∀ id, C.assumed s ⟨.requestFrame, id⟩ →
        C.owed s ⟨.requestFrame, id⟩ ∧ post id (C.next s ⟨.requestFrame, id⟩) := Iff.rfl

@[simp] theorem meets_cancelFrame {id : FrameId} {post : Unit → σ → Prop} :
    (cancelFrame id).Meets C s post ↔
      (C.assumed s ⟨.cancelFrame id, ()⟩ →
        C.owed s ⟨.cancelFrame id, ()⟩ ∧ post () (C.next s ⟨.cancelFrame id, ()⟩)) :=
  ⟨fun h => h (), fun h _ => h⟩

@[simp] theorem meets_note {n : Notice} {post : Unit → σ → Prop} :
    (note n).Meets C s post ↔
      (C.assumed s ⟨.note n, ()⟩ → C.owed s ⟨.note n, ()⟩ ∧ post () (C.next s ⟨.note n, ()⟩)) :=
  ⟨fun h => h (), fun h _ => h⟩

end Engine

end LiveShader
