import LiveShader.Proofs.Course

/-!
# Orderly devices

An orderly device numbers its objects one after the other and refuses none, and what it says of a
shader or of a program depends on nothing but the texts that these were made from.

* A `Ledger` is what was made on a device: the text of each shader, and for each program the stages
  that it was linked from. It is a function of the requests alone.
* A `Judge` says what is replied, given what the ledger holds of the object in question. It is any
  function at all.
* `Judge.device` is the device that keeps a ledger and answers as the judge says. Another device is
  `Orderly` if, from the state it is in, it cannot be told from this one, whatever it is asked.

Results:
* `Judge.Explains.run_host`: with an orderly device a host does what it does with a ledger.
* `Objects.orderly_run`: a simulated device on which no failure was asked for is orderly.
-/

namespace LiveShader

/-! ## Ledgers -/

/-- A shader as it was made. -/
structure ShaderEntry where
  stage : Stage
  text : String := ""
  /-- The text when it was compiled last. -/
  compiled : Option String := none
  deleted : Bool := false

/-- The stages that a program was linked from; `none` is one that was never created. -/
abbrev Parts := List (Option ShaderEntry)

/-- What became of a program, without any handles. -/
structure Linking where
  /-- What it was linked from last. -/
  parts : Option Parts := none
  deleted : Bool := false

/-- A program as it was made. -/
structure ProgramEntry extends Linking where
  attached : List Shader := []

/-- What was made on a device. -/
structure Ledger where
  /-- How many objects have been created. -/
  issued : Nat := 0
  shaders : Shader → Option ShaderEntry := fun _ => none
  programs : Program → Option ProgramEntry := fun _ => none

namespace Ledger

variable {l : Ledger} {n : Nat}

/-- The next number, for an object of any kind. -/
def fresh {kind : ObjectKind} (l : Ledger) : Handle kind :=
  ⟨l.issued + 1, Nat.succ_pos _⟩

/-- The next number is given away. -/
def issue (l : Ledger) : Ledger :=
  { l with issued := l.issued + 1 }

/-- Enter a shader. -/
def setShader (l : Ledger) (s : Shader) (entry : Option ShaderEntry) : Ledger :=
  { l with shaders := fun x => if x = s then entry else l.shaders x }

/-- Enter a program. -/
def setProgram (l : Ledger) (p : Program) (entry : Option ProgramEntry) : Ledger :=
  { l with programs := fun x => if x = p then entry else l.programs x }

/-- Change the entry of a shader, if there is one. -/
def onShader (l : Ledger) (s : Shader) (f : ShaderEntry → ShaderEntry) : Ledger :=
  l.setShader s ((l.shaders s).map f)

/-- Change the entry of a program, if there is one. -/
def onProgram (l : Ledger) (p : Program) (f : ProgramEntry → ProgramEntry) : Ledger :=
  l.setProgram p ((l.programs p).map f)

/-- What became of a program. -/
def linking (l : Ledger) (p : Program) : Option Linking :=
  (l.programs p).map ProgramEntry.toLinking

/-- The ledger has given away the numbers up to `n`, and there are no entries beyond. -/
structure Ends (l : Ledger) (n : Nat) : Prop where
  issued : l.issued = n
  shaders : ∀ s, n < s.id → l.shaders s = none
  programs : ∀ p, n < p.id → l.programs p = none

theorem Ends.onShader (h : l.Ends n) (s : Shader) (f : ShaderEntry → ShaderEntry) :
    (l.onShader s f).Ends n where
  issued := h.issued
  shaders t ht := by
    have hnone := h.shaders t ht
    simp only [Ledger.onShader, setShader]
    split <;> simp_all
  programs := h.programs

theorem Ends.onProgram (h : l.Ends n) (p : Program) (f : ProgramEntry → ProgramEntry) :
    (l.onProgram p f).Ends n where
  issued := h.issued
  shaders := h.shaders
  programs q hq := by
    have hnone := h.programs q hq
    simp only [Ledger.onProgram, setProgram]
    split <;> simp_all

end Ledger

/-! ## Judges -/

/-- What is replied to questions about shaders and programs, given what was made. -/
structure Judge where
  compiles : Option ShaderEntry → Bool
  shaderLog : Option ShaderEntry → String
  links : Option Linking → Bool
  programLog : Option Linking → String
  uniform : Option Linking → String → Option UniformLocation
  attrib : Option Linking → String → Option Nat

namespace Judge

/-- Answer a request. -/
def answer (judge : Judge) : (r : Request) → Ledger → r.Reply × Ledger
  | .createShader stage, l => (.ok l.fresh, l.issue.setShader l.fresh (some { stage }))
  | .shaderSource s text, l => ((), l.onShader s fun x => { x with text })
  | .compileShader s, l => ((), l.onShader s fun x => { x with compiled := some x.text })
  | .shaderCompileStatus s, l => (judge.compiles (l.shaders s), l)
  | .shaderInfoLog s, l => (judge.shaderLog (l.shaders s), l)
  | .deleteShader s, l => ((), l.onShader s fun x => { x with deleted := true })
  | .createProgram, l => (.ok l.fresh, l.issue.setProgram l.fresh (some {}))
  | .attachShader p s, l => ((), l.onProgram p fun x => { x with attached := x.attached ++ [s] })
  | .detachShader p s, l =>
    ((), l.onProgram p fun x => { x with attached := x.attached.filter fun t => t != s })
  | .linkProgram p, l =>
    ((), l.onProgram p fun x => { x with parts := some (x.attached.map l.shaders) })
  | .programLinkStatus p, l => (judge.links (l.linking p), l)
  | .programInfoLog p, l => (judge.programLog (l.linking p), l)
  | .deleteProgram p, l => ((), l.onProgram p fun x => { x with deleted := true })
  | .useProgram _, l => ((), l)
  | .uniformLocation p name, l => (judge.uniform (l.linking p) name, l)
  | .attribLocation p name, l => (judge.attrib (l.linking p) name, l)
  | .createVertexArray, l => (.ok l.fresh, l.issue)
  | .bindVertexArray _, l => ((), l)
  | .deleteVertexArray _, l => ((), l)
  | .createBuffer, l => (.ok l.fresh, l.issue)
  | .bindBuffer _ _, l => ((), l)
  | .bufferData _ _, l => ((), l)
  | .deleteBuffer _, l => ((), l)
  | .floatAttribute _ _, l => ((), l)
  | .enableDepthAndCulling, l => ((), l)
  | .viewport _ _, l => ((), l)
  | .clear _, l => ((), l)
  | .uniformFloat _ _, l => ((), l)
  | .uniformVec2 _ _ _, l => ((), l)
  | .uniformMat4 _ _, l => ((), l)
  | .drawArrays _, l => ((), l)
  | .drawElements _, l => ((), l)

/-- The device that keeps a ledger and answers as the judge says. -/
def device (judge : Judge) : Device where
  State := Ledger
  answer := judge.answer

/-- Whatever a device is asked from its state on, it answers as the ledger has it. -/
def Explains (judge : Judge) (d : Device) (s : d.State) (l : Ledger) : Prop :=
  ∀ p : Plan Request.Reply Unit, (p.run d s).log = (p.run judge.device l).log

end Judge

/-- From its state on a device numbers objects from `n` and answers as the judge says. -/
def Orderly (judge : Judge) (d : Device) (s : d.State) (n : Nat) : Prop :=
  ∃ l, l.Ends n ∧ judge.Explains d s l

namespace Judge

variable {judge : Judge} {d : Device} {s : d.State} {l : Ledger}

/-- An explanation covers the next reply, and everything after it. -/
theorem Explains.answer (h : judge.Explains d s l) (r : Request) :
    (d.answer r s).1 = (judge.answer r l).1 ∧
      judge.Explains d (d.answer r s).2 (judge.answer r l).2 := by
  have hask (p : Plan Request.Reply Unit) :
      (⟨r, (d.answer r s).1⟩ : Exchange Request.Reply) = ⟨r, (judge.answer r l).1⟩ ∧
        (p.run d (d.answer r s).2).log = (p.run judge.device (judge.answer r l).2).log :=
    List.cons.inj (h (.ask r fun _ => p))
  refine ⟨?_, fun p => (hask p).2⟩
  have hr := (hask (.done ())).1
  rw [Exchange.mk.injEq] at hr
  exact eq_of_heq hr.2

/-- Replies that are explained one after the other are explained. -/
theorem Explains.of_invariant {keeps : d.State → Ledger → Prop}
    (hkeeps : ∀ s l, keeps s l → ∀ r, (d.answer r s).1 = (judge.answer r l).1 ∧
      keeps (d.answer r s).2 (judge.answer r l).2) (h : keeps s l) : judge.Explains d s l := by
  intro p
  induction p generalizing s l with
  | done a => rfl
  | ask r k ih =>
    obtain ⟨hr, hk⟩ := hkeeps s l h r
    have hlog := ih (d.answer r s).1 hk
    simp only [Plan.run, device] at hlog ⊢
    rw [hlog, hr]

/-- **With an orderly device a host does what it does with a ledger.** -/
theorem Explains.run_host {α : Type} (h : judge.Explains d s l) (p : Engine α)
    (queue : CallbackQueue) :
    let o := p.run d.host ⟨s, queue⟩
    let o' := p.run judge.device.host ⟨l, queue⟩
    o.value = o'.value ∧ o.log = o'.log ∧ o.state.queue = o'.state.queue ∧
      judge.Explains d o.state.device o'.state.device := by
  induction p generalizing s l queue with
  | done a => exact ⟨rfl, rfl, rfl, h⟩
  | ask x k ih =>
    cases x with
    | gpu r =>
      obtain ⟨hr, hnext⟩ := h.answer r
      obtain ⟨hvalue, hlog, hqueue, hdevice⟩ := ih (d.answer r s).1 hnext queue
      simp only [Plan.run, device, ← hr] at hvalue hlog hqueue hdevice ⊢
      exact ⟨hvalue, by rw [hlog], hqueue, hdevice⟩
    | requestFrame =>
      obtain ⟨hvalue, hlog, hrest⟩ := ih queue.request.1 h queue.request.2
      exact ⟨hvalue, congrArg _ hlog, hrest⟩
    | cancelFrame id =>
      obtain ⟨hvalue, hlog, hrest⟩ := ih () h (queue.cancel id)
      exact ⟨hvalue, congrArg _ hlog, hrest⟩
    | note n =>
      obtain ⟨hvalue, hlog, hrest⟩ := ih () h queue
      exact ⟨hvalue, congrArg _ hlog, hrest⟩

end Judge

/-! ## Simulated devices -/

namespace Objects

section Lookup

variable {α β : Type} [DecidableEq α]

theorem lookup_cons (e : α × β) (l : List (α × β)) (a : α) :
    (e :: l).lookup a = if a = e.1 then some e.2 else l.lookup a := by
  obtain ⟨k, b⟩ := e
  rw [List.lookup_cons]
  by_cases h : a = k
  · simp [h]
  · simp [h, beq_false_of_ne h]

theorem lookup_changing (key a : α) (f : β → β) (l : List (α × β)) :
    (changing key f l).lookup a = if a = key then (l.lookup a).map f else l.lookup a := by
  induction l with
  | nil => simp [changing]
  | cons e l ih =>
    simp only [changing, List.map_cons] at ih ⊢
    rw [lookup_cons, lookup_cons, ih]
    by_cases he : e.1 = key
    · subst he
      by_cases ha : a = e.1 <;> simp [ha]
    · by_cases ha : a = e.1
      · simp [ha, he]
      · simp [ha, he]

theorem lookup_without (key a : α) (l : List (α × β)) :
    (without key l).lookup a = if a = key then none else l.lookup a := by
  induction l with
  | nil => simp [without]
  | cons e l ih =>
    simp only [without, List.filter_cons] at ih ⊢
    rw [lookup_cons]
    by_cases he : e.1 = key
    · simp only [he, beq_self_eq_true, Bool.not_true, Bool.false_eq_true, if_false, ih]
      split <;> rfl
    · simp only [beq_false_of_ne he, Bool.not_false, if_true, lookup_cons, ih]
      by_cases ha : a = e.1
      · simp [ha, he]
      · simp [ha]

end Lookup

/-- The shader that a device keeps for an entry. -/
def ofShader (x : ShaderEntry) : Option ShaderObject :=
  if x.deleted then none else some ⟨x.text, x.compiled.any compiles⟩

/-- The texts of the stages that existed. -/
def textsOf (parts : Option Parts) : List String :=
  (parts.getD []).filterMap fun x => (x.bind ofShader).map ShaderObject.text

/-- Whether a device takes a program to be linked. -/
def linksParts (rules : Rules) (parts : Option Parts) : Bool :=
  parts.any fun x => rules.links x.length (textsOf parts).length

/-- The program that a device keeps for an entry. -/
def ofProgram (rules : Rules) (x : ProgramEntry) : Option ProgramObject :=
  if x.deleted then none else some ⟨x.attached, textsOf x.parts, linksParts rules x.parts⟩

/-- What a program that was not deleted was linked from last. -/
def partsOf (x : Option Linking) : Option Parts :=
  x.bind fun x => if x.deleted then none else x.parts

/-- What the rules of a simulated device come to. -/
def judge (rules : Rules) : Judge where
  compiles x := ((x.bind ofShader).map ShaderObject.compiled).getD false
  shaderLog x := rules.shaderLog (x.bind ofShader)
  links x := linksParts rules (partsOf x)
  programLog _ := ""
  uniform x name := (rules.uniform (textsOf (partsOf x)) name).map .mk
  attrib x name := rules.attrib (textsOf (partsOf x)) name

/-- A device without failures to come keeps what a ledger says. -/
structure Tracks (rules : Rules) (o : Objects) (l : Ledger) : Prop where
  linkFailure : o.linkFailure = none
  creationsLeft : o.creationsLeft = none
  ends : l.Ends o.issued
  shaders : ∀ s, o.shaders.lookup s = (l.shaders s).bind ofShader
  programs : ∀ p, o.programs.lookup p = (l.programs p).bind (ofProgram rules)

namespace Tracks

variable {rules : Rules} {o : Objects} {l : Ledger}

theorem freed (h : Tracks rules o l) (alive : Bool) : Tracks rules (o.freed alive) l := by
  cases alive with
  | true => exact h
  | false => exact ⟨h.linkFailure, h.creationsLeft, h.ends, h.shaders, h.programs⟩

theorem used (h : Tracks rules o l) : Tracks rules o.used l := by
  unfold Objects.used
  split
  · exact h
  · split
    · exact h
    · exact ⟨h.linkFailure, h.creationsLeft, h.ends, h.shaders, h.programs⟩

/-- Shaders are changed in one place, on the device and in the ledger. -/
theorem setShaders (h : Tracks rules o l) (s : Shader) {shaders : List (Shader × ShaderObject)}
    {g : ShaderEntry → ShaderEntry} (hshaders : ∀ t, shaders.lookup t =
      if t = s then (l.shaders s).bind fun x => ofShader (g x) else o.shaders.lookup t) :
    Tracks rules { o with shaders } (l.onShader s g) := by
  refine ⟨h.linkFailure, h.creationsLeft, h.ends.onShader s g, fun t => ?_, h.programs⟩
  rw [hshaders, Ledger.onShader, Ledger.setShader]
  dsimp only
  split
  · rw [Option.bind_map]
    rfl
  · exact h.shaders t

theorem setPrograms (h : Tracks rules o l) (p : Program)
    {programs : List (Program × ProgramObject)} {g : ProgramEntry → ProgramEntry}
    (hprograms : ∀ q, programs.lookup q =
      if q = p then (l.programs p).bind fun x => ofProgram rules (g x) else o.programs.lookup q) :
    Tracks rules { o with programs } (l.onProgram p g) := by
  refine ⟨h.linkFailure, h.creationsLeft, h.ends.onProgram p g, h.shaders, fun q => ?_⟩
  rw [hprograms, Ledger.onProgram, Ledger.setProgram]
  dsimp only
  split
  · rw [Option.bind_map]
    rfl
  · exact h.programs q

theorem onShader (h : Tracks rules o l) (s : Shader) {f : ShaderObject → ShaderObject}
    {g : ShaderEntry → ShaderEntry} (hfg : ∀ x, (ofShader x).map f = ofShader (g x)) :
    Tracks rules (o.onShader s f) (l.onShader s g) := by
  refine h.setShaders s fun t => ?_
  rw [lookup_changing]
  split
  · subst t
    rw [h.shaders, Option.map_bind]
    exact congrArg _ (funext hfg)
  · rfl

theorem onProgram (h : Tracks rules o l) (p : Program) {f : ProgramObject → ProgramObject}
    {g : ProgramEntry → ProgramEntry}
    (hfg : ∀ x, (ofProgram rules x).map f = ofProgram rules (g x)) :
    Tracks rules (o.onProgram p f) (l.onProgram p g) := by
  refine h.setPrograms p fun q => ?_
  rw [lookup_changing]
  split
  · subst q
    rw [h.programs, Option.map_bind]
    exact congrArg _ (funext hfg)
  · rfl

theorem deleteShader (h : Tracks rules o l) (s : Shader) :
    Tracks rules { o with shaders := without s o.shaders }
      (l.onShader s fun x => { x with deleted := true }) := by
  refine h.setShaders s fun t => ?_
  rw [lookup_without]
  split
  · cases l.shaders s <;> rfl
  · rfl

theorem deleteProgram (h : Tracks rules o l) (p : Program) :
    Tracks rules { o with programs := without p o.programs }
      (l.onProgram p fun x => { x with deleted := true }) := by
  refine h.setPrograms p fun q => ?_
  rw [lookup_without]
  split
  · cases l.programs p <;> rfl
  · rfl

/-- A creation gives away the next number. -/
theorem issue (h : Tracks rules o l) : Tracks rules { o with issued := o.issued + 1 } l.issue where
  linkFailure := h.linkFailure
  creationsLeft := h.creationsLeft
  ends :=
    { issued := congrArg (· + 1) h.ends.issued
      shaders := fun s hs => h.ends.shaders s (Nat.lt_of_succ_lt hs)
      programs := fun p hp => h.ends.programs p (Nat.lt_of_succ_lt hp) }
  shaders := h.shaders
  programs := h.programs

theorem create (h : Tracks rules o l) {kind : ObjectKind}
    (store : Handle kind → Objects → Objects) :
    o.create store = (.ok l.fresh, store l.fresh { o with issued := o.issued + 1 }) := by
  obtain ⟨issued, shaders, programs, vertexArrays, buffers, current, linkFailure, creationsLeft,
    doubleFrees, danglingUses⟩ := o
  obtain ⟨rfl⟩ : creationsLeft = none := h.creationsLeft
  obtain ⟨rfl⟩ : l.issued = issued := h.ends.issued
  rfl

theorem createShader (h : Tracks rules o l) (stage : Stage) :
    Tracks rules { o with issued := o.issued + 1, shaders := o.shaders ++ [(l.fresh, {})] }
      (l.issue.setShader l.fresh (some { stage })) := by
  have hi := h.issue
  refine ⟨hi.linkFailure, hi.creationsLeft, ⟨hi.ends.issued, fun t ht => ?_, hi.ends.programs⟩,
    fun t => ?_, hi.programs⟩
  · have hne : t ≠ l.fresh := by
      rintro rfl
      simp [Ledger.fresh, h.ends.issued] at ht
    simp only [Ledger.setShader, if_neg hne, hi.ends.shaders t ht]
  · have hfresh : l.shaders l.fresh = none :=
      h.ends.shaders _ (by simp [Ledger.fresh, h.ends.issued])
    simp only [Ledger.setShader, Ledger.issue, List.lookup_append, h.shaders]
    by_cases ht : t = l.fresh
    · subst ht
      simp [hfresh, ofShader]
    · simp [lookup_cons, ht]

theorem createProgram (h : Tracks rules o l) :
    Tracks rules { o with issued := o.issued + 1, programs := o.programs ++ [(l.fresh, {})] }
      (l.issue.setProgram l.fresh (some {})) := by
  have hi := h.issue
  refine ⟨hi.linkFailure, hi.creationsLeft, ⟨hi.ends.issued, hi.ends.shaders, fun q hq => ?_⟩,
    hi.shaders, fun q => ?_⟩
  · have hne : q ≠ l.fresh := by
      rintro rfl
      simp [Ledger.fresh, h.ends.issued] at hq
    simp only [Ledger.setProgram, if_neg hne, hi.ends.programs q hq]
  · have hfresh : l.programs l.fresh = none :=
      h.ends.programs _ (by simp [Ledger.fresh, h.ends.issued])
    simp only [Ledger.setProgram, Ledger.issue, List.lookup_append, h.programs]
    by_cases hq : q = l.fresh
    · subst hq
      simp [hfresh, ofProgram, textsOf, linksParts]
    · simp [lookup_cons, hq]

theorem sourcesOf (h : Tracks rules o l) (p : Program) :
    o.sourcesOf p = textsOf (partsOf (l.linking p)) := by
  simp only [Objects.sourcesOf, h.programs, Ledger.linking]
  cases l.programs p with
  | none => rfl
  | some x =>
    simp only [partsOf, ofProgram, Option.bind_some, Option.map_some]
    cases x.deleted <;> rfl

theorem linked (h : Tracks rules o l) (p : Program) :
    ((o.programs.lookup p).map ProgramObject.linked).getD false =
      linksParts rules (partsOf (l.linking p)) := by
  simp only [h.programs, Ledger.linking]
  cases l.programs p with
  | none => rfl
  | some x =>
    simp only [partsOf, ofProgram, Option.bind_some, Option.map_some]
    cases x.deleted <;> rfl

/-- The texts that are there are those of the stages that exist. -/
theorem texts (h : Tracks rules o l) (attached : List Shader) :
    (attached.filterMap fun s => (o.shaders.lookup s).map ShaderObject.text) =
      textsOf (some (attached.map l.shaders)) := by
  simp only [textsOf, Option.getD_some, List.filterMap_map, h.shaders]
  rfl

theorem link (h : Tracks rules o l) (p : Program) :
    Tracks rules (o.link rules p)
      (l.onProgram p fun x => { x with parts := some (x.attached.map l.shaders) }) := by
  refine h.onProgram p fun x => ?_
  simp only [ofProgram, h.texts, h.linkFailure, linksParts, Option.any_some, List.length_map]
  cases x.deleted <;> simp

/-- **A device without failures to come answers as its ledger has it.** -/
theorem answer (h : Tracks rules o l) (r : Request) :
    (Objects.answer rules r o).1 = ((judge rules).answer r l).1 ∧
      Tracks rules (Objects.answer rules r o).2 ((judge rules).answer r l).2 := by
  cases r with
  | createShader stage =>
    rw [Objects.answer, h.create]
    exact ⟨rfl, h.createShader stage⟩
  | shaderSource s text =>
    refine ⟨rfl, h.onShader s fun x => ?_⟩
    simp only [ofShader]
    cases x.deleted <;> rfl
  | compileShader s =>
    refine ⟨rfl, h.onShader s fun x => ?_⟩
    simp only [ofShader]
    cases x.deleted <;> rfl
  | shaderCompileStatus s => exact ⟨by simp [Objects.answer, Judge.answer, judge, h.shaders], h⟩
  | shaderInfoLog s => exact ⟨by simp [Objects.answer, Judge.answer, judge, h.shaders], h⟩
  | deleteShader s => exact ⟨rfl, (h.deleteShader s).freed _⟩
  | createProgram =>
    rw [Objects.answer, h.create]
    exact ⟨rfl, h.createProgram⟩
  | attachShader p s =>
    refine ⟨rfl, h.onProgram p fun x => ?_⟩
    simp only [ofProgram]
    cases x.deleted <;> rfl
  | detachShader p s =>
    refine ⟨rfl, h.onProgram p fun x => ?_⟩
    simp only [ofProgram]
    cases x.deleted <;> rfl
  | linkProgram p => exact ⟨rfl, h.link p⟩
  | programLinkStatus p => exact ⟨h.linked p, h⟩
  | programInfoLog p =>
    refine ⟨?_, ⟨rfl, h.creationsLeft, h.ends, h.shaders, h.programs⟩⟩
    simp [Objects.answer, Judge.answer, judge, h.linkFailure]
  | deleteProgram p => exact ⟨rfl, (h.deleteProgram p).freed _⟩
  | useProgram p =>
    exact ⟨rfl, used ⟨h.linkFailure, h.creationsLeft, h.ends, h.shaders, h.programs⟩⟩
  | uniformLocation p name =>
    exact ⟨by simp [Objects.answer, Judge.answer, judge, h.sourcesOf], h⟩
  | attribLocation p name =>
    exact ⟨by simp [Objects.answer, Judge.answer, judge, h.sourcesOf], h⟩
  | createVertexArray =>
    rw [Objects.answer, h.create]
    have hi := h.issue
    exact ⟨rfl, ⟨hi.linkFailure, hi.creationsLeft, hi.ends, hi.shaders, hi.programs⟩⟩
  | deleteVertexArray a =>
    refine ⟨rfl, freed ?_ _⟩
    exact ⟨h.linkFailure, h.creationsLeft, h.ends, h.shaders, h.programs⟩
  | createBuffer =>
    rw [Objects.answer, h.create]
    have hi := h.issue
    exact ⟨rfl, ⟨hi.linkFailure, hi.creationsLeft, hi.ends, hi.shaders, hi.programs⟩⟩
  | deleteBuffer b =>
    refine ⟨rfl, freed ?_ _⟩
    exact ⟨h.linkFailure, h.creationsLeft, h.ends, h.shaders, h.programs⟩
  | drawArrays n => exact ⟨rfl, h.used⟩
  | drawElements n => exact ⟨rfl, h.used⟩
  | _ => exact ⟨rfl, h⟩

end Tracks

variable {rules : Rules} {o : Objects}

/-- A device that tracks a ledger is orderly. -/
theorem Tracks.orderly {l : Ledger} (h : Tracks rules o l) :
    Orderly (judge rules) (device rules) o o.issued :=
  ⟨l, h.ends, Judge.Explains.of_invariant (d := device rules) (fun _ _ h r => h.answer r) h⟩

theorem tracks_fresh : Tracks rules {} {} :=
  ⟨rfl, rfl, ⟨rfl, fun _ _ => rfl, fun _ _ => rfl⟩, fun _ => rfl, fun _ => rfl⟩

/-- A host keeps its device tracked. -/
theorem tracks_host {α : Type} (p : Engine α) {h : Host (device rules)}
    (ht : ∃ l, Tracks rules h.device l) :
    ∃ l, Tracks rules (p.run (device rules).host h).state.device l := by
  induction p generalizing h with
  | done a => exact ht
  | ask x k ih =>
    cases x with
    | gpu r =>
      obtain ⟨l, hl⟩ := ht
      exact ih _ ⟨_, (hl.answer r).2⟩
    | requestFrame => exact ih _ ht
    | cancelFrame id => exact ih _ ht
    | note n => exact ih _ ht

/-- **A simulated device on which no failure was asked for is orderly** in every course. -/
theorem orderly_run (rules : Rules) (view : View) (turns : List Turn) :
    let c := (Course.start (d := device rules) ({} : Objects) view).run turns
    Orderly (judge rules) (device rules) c.host.device (Objects.issued c.host.device) := by
  have htracks := Course.run_induction
    (P := fun c : Course (device rules) => ∃ l, Tracks rules c.host.device l)
    (c := Course.start (d := device rules) ({} : Objects) view) ⟨_, tracks_fresh⟩
    (fun c t h => by
      cases t with
      | drain => exact h
      | perform op => exact tracks_host _ h) turns
  exact htracks.choose_spec.orderly

end Objects

end LiveShader
