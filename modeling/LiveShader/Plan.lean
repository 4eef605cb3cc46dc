/-!
# Plans and the machines that carry them out

A `Plan` is a computation that may ask questions on its way and goes on according to the answers.
A `Machine` answers questions one after the other and changes its state as it does. Running a plan
on a machine gives a value, the machine's state afterwards, and the log of all questions with their
answers, in order.

* `Plan.expand` replaces every question of a plan by a plan of its own. So a layer between an
  engine and a device is nothing but a plan for each question.

Results:
* `run_bind`: the log of one plan after another is the one log after the other.
* `expand_bind`: expanding one plan after another is expanding them apart.
* `expand_expand`: expanding twice is expanding once, by plans that are expanded.
-/

namespace LiveShader

variable {Q Q' : Type} {R : Q → Type} {R' : Q' → Type} {α β : Type}

/-- A computation that asks questions; `R q` is the type of answers to `q`. -/
inductive Plan {Q : Type} (R : Q → Type) (α : Type) where
  | done (a : α)
  | ask (q : Q) (k : R q → Plan R α)

/-- Something that answers questions. -/
structure Machine {Q : Type} (R : Q → Type) where
  State : Type
  answer : (q : Q) → State → R q × State

/-- A question and the answer it got. -/
structure Exchange {Q : Type} (R : Q → Type) where
  question : Q
  reply : R question

namespace Plan

/-- One plan, then another that depends on its value. -/
def bind (p : Plan R α) (f : α → Plan R β) : Plan R β :=
  match p with
  | .done a => f a
  | .ask q k => .ask q fun r => (k r).bind f

instance : Monad (Plan R) where
  pure := .done
  bind := Plan.bind

/-- Ask one question. -/
def query (q : Q) : Plan R (R q) :=
  .ask q .done

/-- Replace every question by a plan. -/
def expand (f : (q : Q) → Plan R' (R q)) : Plan R α → Plan R' α
  | .done a => .done a
  | .ask q k => (f q).bind fun r => (k r).expand f

/-! ## Running -/

/-- What a run leaves behind. -/
structure Outcome {Q : Type} {R : Q → Type} (m : Machine R) (α : Type) where
  value : α
  state : m.State
  log : List (Exchange R)

/-- Carry out a plan from a state. -/
def run (m : Machine R) : Plan R α → m.State → Outcome m α
  | .done a, s => ⟨a, s, []⟩
  | .ask q k, s =>
    let (r, s) := m.answer q s
    let o := (k r).run m s
    { o with log := ⟨q, r⟩ :: o.log }

variable {m : Machine R}

@[simp] theorem run_pure (a : α) (s : m.State) : (pure a : Plan R α).run m s = ⟨a, s, []⟩ := rfl

/-- A plan after another runs from the state that the first one leaves, and adds to its log. -/
theorem run_bind (p : Plan R α) (f : α → Plan R β) (s : m.State) :
    (p.bind f).run m s =
      let o := p.run m s
      let o' := (f o.value).run m o.state
      ⟨o'.value, o'.state, o.log ++ o'.log⟩ := by
  induction p generalizing s with
  | done a => simp [bind, run]
  | ask q k ih => simp [bind, run, ih]

@[simp] theorem run_seq (p : Plan R α) (f : α → Plan R β) (s : m.State) :
    (p >>= f).run m s =
      let o := p.run m s
      let o' := (f o.value).run m o.state
      ⟨o'.value, o'.state, o.log ++ o'.log⟩ :=
  run_bind p f s

/-- Binding is associative. -/
theorem bind_assoc {γ : Type} (p : Plan R α) (f : α → Plan R β) (g : β → Plan R γ) :
    (p.bind f).bind g = p.bind fun a => (f a).bind g := by
  induction p with
  | done a => rfl
  | ask q k ih => simp [bind, ih]

theorem bind_done (p : Plan R α) : p.bind .done = p := by
  induction p with
  | done a => rfl
  | ask q k ih => simp [bind, ih]

instance : LawfulMonad (Plan R) :=
  LawfulMonad.mk' _ bind_done (fun _ _ => rfl) bind_assoc

@[simp] theorem run_map (f : α → β) (p : Plan R α) (s : m.State) :
    (f <$> p).run m s = let o := p.run m s; ⟨f o.value, o.state, o.log⟩ := by
  rw [← bind_pure_comp, run_seq]
  simp

/-- Letting go of the value is mapping it. -/
theorem discard_eq (p : Plan R α) : discard p = (fun _ => ()) <$> p := rfl

/-- Expanding goes through binding. -/
theorem expand_bind (f : (q : Q) → Plan R' (R q)) (p : Plan R α) (g : α → Plan R β) :
    (p.bind g).expand f = (p.expand f).bind fun a => (g a).expand f := by
  induction p with
  | done a => rfl
  | ask q k ih => simp [bind, expand, ih, bind_assoc]

/-- Two layers of plans are one. -/
theorem expand_expand {Q'' : Type} {R'' : Q'' → Type} (f : (q : Q) → Plan R' (R q))
    (g : (q : Q') → Plan R'' (R' q)) (p : Plan R α) :
    (p.expand f).expand g = p.expand fun q => (f q).expand g := by
  induction p with
  | done a => rfl
  | ask q k ih => simp [expand, expand_bind, ih]

end Plan

end LiveShader
