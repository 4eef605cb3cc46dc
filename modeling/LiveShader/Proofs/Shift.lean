import LiveShader.Proofs.Handoff
import LiveShader.Proofs.Orderly

/-!
# Runs that mirror each other

Two runs may differ in nothing but the numbers that the device and the frame queue give away: all of
the one are larger than those of the other by a constant, see `Shift`. Notices are left aside.

* `Engine.Mirrors` compares two computations, question by question. It assumes nothing of the
  replies but that they are mirrored, too, and each side may have notices of its own.
* `Ledger.Over` compares two ledgers: whatever the second holds the first holds under larger
  numbers, on top of what it held before.

Results:
* `Judge.answer_over`: what is asked under larger numbers is answered so.
* `Engine.Mirrors.run`: computations that mirror each other have runs that do, on every orderly
  device and the ledger device.
-/

namespace LiveShader

/-! ## Larger numbers -/

/-- By how much the numbers of objects and those of frame requests are larger. A negative one takes
back what was added before, see `Exchange.shift_shift`; it stops at the least number there is. -/
structure Shift where
  objects : Int := 0
  frames : Int := 0

variable {kind : ObjectKind}

/-- A handle under a larger number. -/
def Handle.shift (k : Int) (h : Handle kind) : Handle kind :=
  ⟨(h.id + k - 1).toNat + 1, Nat.succ_pos _⟩

/-- A frame request under a larger number. -/
def FrameId.shift (k : Int) (id : FrameId) : FrameId :=
  ⟨(id.raw + k).toNat⟩

/-- A request about objects with larger numbers. -/
def Request.shift (k : Int) : Request → Request
  | .shaderSource s text => .shaderSource (s.shift k) text
  | .compileShader s => .compileShader (s.shift k)
  | .shaderCompileStatus s => .shaderCompileStatus (s.shift k)
  | .shaderInfoLog s => .shaderInfoLog (s.shift k)
  | .deleteShader s => .deleteShader (s.shift k)
  | .attachShader p s => .attachShader (p.shift k) (s.shift k)
  | .detachShader p s => .detachShader (p.shift k) (s.shift k)
  | .linkProgram p => .linkProgram (p.shift k)
  | .programLinkStatus p => .programLinkStatus (p.shift k)
  | .programInfoLog p => .programInfoLog (p.shift k)
  | .deleteProgram p => .deleteProgram (p.shift k)
  | .useProgram p => .useProgram (p.map (Handle.shift k))
  | .uniformLocation p name => .uniformLocation (p.shift k) name
  | .attribLocation p name => .attribLocation (p.shift k) name
  | .bindVertexArray a => .bindVertexArray (a.map (Handle.shift k))
  | .deleteVertexArray a => .deleteVertexArray (a.shift k)
  | .bindBuffer target b => .bindBuffer target (b.map (Handle.shift k))
  | .deleteBuffer b => .deleteBuffer (b.shift k)
  | r => r

/-- The reply to a request about objects with larger numbers. -/
def Request.shiftReply (k : Int) : (r : Request) → r.Reply → (r.shift k).Reply
  | .createShader _, h | .createProgram, h | .createVertexArray, h | .createBuffer, h =>
    h.map (Handle.shift k)
  | .shaderCompileStatus _, x | .shaderInfoLog _, x | .programLinkStatus _, x
  | .programInfoLog _, x | .uniformLocation .., x | .attribLocation .., x => x
  | .shaderSource .., x | .compileShader _, x | .deleteShader _, x | .attachShader .., x
  | .detachShader .., x | .linkProgram _, x | .deleteProgram _, x | .useProgram _, x
  | .bindVertexArray _, x | .deleteVertexArray _, x | .bindBuffer .., x | .bufferData .., x
  | .deleteBuffer _, x | .floatAttribute .., x | .enableDepthAndCulling, x | .viewport .., x
  | .clear _, x | .uniformFloat .., x | .uniformVec2 .., x | .uniformMat4 .., x
  | .drawArrays _, x | .drawElements _, x => x

namespace Action

/-- An action under larger numbers. Notices stay as they are. -/
def shift (ρ : Shift) : Action Request → Action Request
  | .gpu r => .gpu (r.shift ρ.objects)
  | .requestFrame => .requestFrame
  | .cancelFrame id => .cancelFrame (id.shift ρ.frames)
  | .note n => .note n

/-- The reply to an action under larger numbers. -/
def shiftReply (ρ : Shift) :
    (a : Action Request) → a.Reply Request.Reply → (a.shift ρ).Reply Request.Reply
  | .gpu r, x => r.shiftReply ρ.objects x
  | .requestFrame, id => id.shift ρ.frames
  | .cancelFrame _, x | .note _, x => x

end Action

/-- An exchange under larger numbers. -/
def Exchange.shift (ρ : Shift) (e : Exchange (Action.Reply Request.Reply)) :
    Exchange (Action.Reply Request.Reply) :=
  ⟨e.question.shift ρ, e.question.shiftReply ρ e.reply⟩

/-- Numbers that are larger by natural numbers. -/
def Shift.up (objects frames : Nat) : Shift :=
  ⟨objects, frames⟩

theorem Handle.id_shift (n : Nat) (h : Handle kind) : (h.shift n).id = h.id + n := by
  have hpos := h.positive
  simp only [shift]
  omega

theorem FrameId.raw_shift (n : Nat) (id : FrameId) : (id.shift n).raw = id.raw + n := by
  simp only [shift]
  omega

@[simp] theorem Handle.shift_inj (n : Nat) {h h' : Handle kind} :
    h.shift n = h'.shift n ↔ h = h' := by
  refine ⟨fun heq => Handle.id_inj ?_, congrArg _⟩
  have hid := congrArg Handle.id heq
  rw [id_shift, id_shift] at hid
  omega

@[simp] theorem Handle.shift_bne (n : Nat) (h h' : Handle kind) :
    (h.shift n != h'.shift n) = (h != h') := by
  rw [Bool.eq_iff_iff, bne_iff_ne, bne_iff_ne, Ne, shift_inj]

@[simp] theorem FrameId.shift_inj (n : Nat) {id id' : FrameId} :
    id.shift n = id'.shift n ↔ id = id' := by
  refine ⟨fun heq => ?_, congrArg _⟩
  have hraw := congrArg FrameId.raw heq
  rw [raw_shift, raw_shift] at hraw
  cases id
  cases id'
  simpa using hraw

@[simp] theorem FrameId.shift_bne (n : Nat) (id id' : FrameId) :
    (id.shift n != id'.shift n) = (id != id') := by
  rw [Bool.eq_iff_iff, bne_iff_ne, bne_iff_ne, Ne, shift_inj]

/-! ### One shift after another -/

theorem Handle.shift_shift (a b : Nat) (h : Handle kind) :
    (h.shift a).shift (b - a) = h.shift b := by
  have hid : (h.shift a).id = h.id + a := id_shift a h
  have hid' : (h.shift b).id = h.id + b := id_shift b h
  have hpos := h.positive
  apply Handle.id_inj
  change ((h.shift a).id + ((b : Int) - a) - 1).toNat + 1 = (h.shift b).id
  omega

theorem Handle.shift_comp (a b : Nat) :
    (Handle.shift (b - a) : Handle kind → Handle kind) ∘ Handle.shift a = Handle.shift b :=
  funext (shift_shift a b)

theorem FrameId.shift_shift (a b : Nat) (id : FrameId) :
    (id.shift a).shift (b - a) = id.shift b := by
  simp only [shift, mk.injEq]
  omega

theorem Exchange.shift_shift (a b c d : Nat) (e : Exchange (Action.Reply Request.Reply)) :
    (e.shift (.up a b)).shift ⟨c - a, d - b⟩ = e.shift (.up c d) := by
  obtain ⟨x, reply⟩ := e
  cases x with
  | gpu r =>
    have hcreated {kind : ObjectKind} (h : Except String (Handle kind)) :
        (h.map (Handle.shift a)).map (Handle.shift (c - a)) = h.map (Handle.shift c) := by
      cases h with
      | error refusal => rfl
      | ok h => exact congrArg Except.ok (h.shift_shift a c)
    cases r <;>
      simp [Exchange.shift, Action.shift, Action.shiftReply, Request.shift, Request.shiftReply,
        Shift.up, Handle.shift_shift, Handle.shift_comp, hcreated]
  | requestFrame =>
    simp [Exchange.shift, Action.shift, Action.shiftReply, Shift.up, FrameId.shift_shift]
  | cancelFrame id =>
    simp [Exchange.shift, Action.shift, Action.shiftReply, Shift.up, FrameId.shift_shift]
  | note n => rfl

theorem Log.shift_shift (a b c d : Nat) (log : Log) :
    (log.map (Exchange.shift (.up a b))).map (Exchange.shift ⟨c - a, d - b⟩) =
      log.map (Exchange.shift (.up c d)) := by
  rw [List.map_map]
  exact List.map_congr_left fun e _ => e.shift_shift a b c d

/-! ## Ledgers -/

/-- A program entry under larger numbers. -/
def ProgramEntry.shift (k : Int) (x : ProgramEntry) : ProgramEntry :=
  { x with attached := x.attached.map (Handle.shift k) }

/-- What the second ledger holds the first holds under numbers that are larger by `n`. -/
structure Ledger.Over (n : Nat) (l l' : Ledger) : Prop where
  issued : l.issued = l'.issued + n
  shaders : ∀ s, l.shaders (s.shift n) = l'.shaders s
  programs : ∀ p, l.programs (p.shift n) = (l'.programs p).map (ProgramEntry.shift n)

namespace Ledger

variable {n : Nat} {l l' : Ledger}

/-- A ledger that has given away `n` numbers is over the empty one. -/
theorem Ends.over (h : l.Ends n) : l.Over n {} where
  issued := by simpa using h.issued
  shaders s := h.shaders _ (by rw [Handle.id_shift]; exact Nat.lt_add_of_pos_left s.positive)
  programs p := h.programs _ (by rw [Handle.id_shift]; exact Nat.lt_add_of_pos_left p.positive)

namespace Over

theorem fresh (h : l.Over n l') : (l.fresh : Handle kind) = l'.fresh.shift n := by
  apply Handle.id_inj
  have hissued := h.issued
  simp only [Handle.id_shift, Ledger.fresh]
  omega

theorem issue (h : l.Over n l') : l.issue.Over n l'.issue where
  issued := by simp only [Ledger.issue, h.issued]; omega
  shaders := h.shaders
  programs := h.programs

theorem setShader (h : l.Over n l') (s : Shader) (entry : Option ShaderEntry) :
    (l.setShader (s.shift n) entry).Over n (l'.setShader s entry) where
  issued := h.issued
  shaders t := by simp [Ledger.setShader, h.shaders]
  programs := h.programs

theorem setProgram (h : l.Over n l') (p : Program) {entry entry' : Option ProgramEntry}
    (hentry : entry = entry'.map (ProgramEntry.shift n)) :
    (l.setProgram (p.shift n) entry).Over n (l'.setProgram p entry') where
  issued := h.issued
  shaders := h.shaders
  programs q := by
    simp only [Ledger.setProgram, Handle.shift_inj, h.programs]
    split
    · exact hentry
    · rfl

theorem onShader (h : l.Over n l') (s : Shader) (f : ShaderEntry → ShaderEntry) :
    (l.onShader (s.shift n) f).Over n (l'.onShader s f) := by
  unfold Ledger.onShader
  rw [h.shaders]
  exact h.setShader s _

theorem onProgram (h : l.Over n l') (p : Program) {f f' : ProgramEntry → ProgramEntry}
    (hf : ∀ x, f (x.shift n) = (f' x).shift n) :
    (l.onProgram (p.shift n) f).Over n (l'.onProgram p f') := by
  refine h.setProgram p ?_
  rw [h.programs]
  cases l'.programs p <;> simp [hf]

theorem linking (h : l.Over n l') (p : Program) : l.linking (p.shift n) = l'.linking p := by
  unfold Ledger.linking
  rw [h.programs]
  cases l'.programs p <;> rfl

end Over

end Ledger

/-- **What is asked under larger numbers is answered so.** -/
theorem Judge.answer_over (judge : Judge) {n : Nat} {l l' : Ledger} (h : l.Over n l')
    (r : Request) :
    (judge.answer (r.shift n) l).1 = r.shiftReply n (judge.answer r l').1 ∧
      (judge.answer (r.shift n) l).2.Over n (judge.answer r l').2 := by
  cases r with
  | createShader stage =>
    refine ⟨congrArg Except.ok h.fresh, ?_⟩
    simp only [Request.shift, answer, h.fresh]
    exact h.issue.setShader _ _
  | shaderSource s text => exact ⟨rfl, h.onShader s _⟩
  | compileShader s => exact ⟨rfl, h.onShader s _⟩
  | shaderCompileStatus s => exact ⟨congrArg judge.compiles (h.shaders s), h⟩
  | shaderInfoLog s => exact ⟨congrArg judge.shaderLog (h.shaders s), h⟩
  | deleteShader s => exact ⟨rfl, h.onShader s _⟩
  | createProgram =>
    refine ⟨congrArg Except.ok h.fresh, ?_⟩
    simp only [Request.shift, answer, h.fresh]
    exact h.issue.setProgram _ rfl
  | attachShader p s => exact ⟨rfl, h.onProgram p fun x => by simp [ProgramEntry.shift]⟩
  | detachShader p s =>
    refine ⟨rfl, h.onProgram p fun x => ?_⟩
    simp only [ProgramEntry.shift, List.filter_map, Function.comp_def, Handle.shift_bne]
  | linkProgram p =>
    refine ⟨rfl, h.onProgram p fun x => ?_⟩
    simp [ProgramEntry.shift, h.shaders, Function.comp_def]
  | programLinkStatus p => exact ⟨congrArg judge.links (h.linking p), h⟩
  | programInfoLog p => exact ⟨congrArg judge.programLog (h.linking p), h⟩
  | deleteProgram p => exact ⟨rfl, h.onProgram p fun _ => rfl⟩
  | uniformLocation p name => exact ⟨congrArg (judge.uniform · name) (h.linking p), h⟩
  | attribLocation p name => exact ⟨congrArg (judge.attrib · name) (h.linking p), h⟩
  | createVertexArray => exact ⟨congrArg Except.ok h.fresh, h.issue⟩
  | createBuffer => exact ⟨congrArg Except.ok h.fresh, h.issue⟩
  | _ => exact ⟨rfl, h⟩

/-! ## Hosts -/

/-- The log without the notices. -/
def Log.dealings (log : Log) : Log :=
  log.filter fun e => !e.question.isNote

theorem Log.dealings_cons {ρ : Shift} (e : Exchange (Action.Reply Request.Reply)) {log log' : Log}
    (h : dealings log = (dealings log').map (Exchange.shift ρ)) :
    dealings (e.shift ρ :: log) = (dealings (e :: log')).map (Exchange.shift ρ) := by
  have hnote : (e.shift ρ).question.isNote = e.question.isNote := by
    obtain ⟨_ | _ | _ | _, _⟩ := e <;> rfl
  simp only [dealings] at h
  simp only [dealings, List.filter_cons, hnote, h]
  split <;> rfl

/-- A host over any device, and one over the ledger device where the numbers are smaller. -/
structure Host.Mirrors (judge : Judge) (n f : Nat) {d : Device} (h : Host d)
    (h' : Host judge.device) : Prop where
  device : ∃ l, judge.Explains d h.device l ∧ l.Over n h'.device
  issued : h.queue.issued = h'.queue.issued + f
  outstanding : h.queue.outstanding = h'.queue.outstanding.map (FrameId.shift f)

namespace Host.Mirrors

variable {judge : Judge} {n f : Nat} {d : Device} {h : Host d} {h' : Host judge.device}

/-- **Mirrored hosts answer mirrored actions so.** -/
theorem answer (hh : h.Mirrors judge n f h') (a : Action Request) :
    (d.host.answer (a.shift (.up n f)) h).1 =
        a.shiftReply (.up n f) (judge.device.host.answer a h').1 ∧
      Host.Mirrors judge n f (d.host.answer (a.shift (.up n f)) h).2
        (judge.device.host.answer a h').2 := by
  cases a with
  | gpu r =>
    obtain ⟨l, hexplains, hover⟩ := hh.device
    obtain ⟨hreply, hnext⟩ := hexplains.answer (r.shift n)
    obtain ⟨hreply', hnext'⟩ := judge.answer_over hover r
    exact ⟨hreply.trans hreply', ⟨_, hnext, hnext'⟩, hh.issued, hh.outstanding⟩
  | requestFrame =>
    have hissued : h.queue.issued + 1 = h'.queue.issued + 1 + f := by
      have := hh.issued
      omega
    have hid : h.queue.request.1 = h'.queue.request.1.shift f := by
      simp only [CallbackQueue.request, FrameId.shift, hissued]
      congr 1
    refine ⟨hid, hh.device, hissued, ?_⟩
    change h.queue.outstanding ++ [h.queue.request.1] =
      (h'.queue.outstanding ++ [h'.queue.request.1]).map (FrameId.shift f)
    rw [hid, hh.outstanding, List.map_append]
    rfl
  | cancelFrame id =>
    refine ⟨rfl, hh.device, hh.issued, ?_⟩
    simp only [Action.shift, Shift.up, CallbackQueue.cancel, hh.outstanding, List.filter_map,
      Function.comp_def, FrameId.shift_bne]
  | note n => exact ⟨rfl, hh⟩

end Host.Mirrors

/-! ## Computations -/

variable {α α' β β' : Type}

/-- The first computation asks what the second asks, under larger numbers, if it is answered so, and
their values are related by `post`. Notices of either are left aside. -/
inductive Engine.Mirrors (ρ : Shift) (post : α → β → Prop) : Engine α → Engine β → Prop
  | done {a : α} {b : β} (h : post a b) : Mirrors ρ post (.done a) (.done b)
  | ask (x : Action Request) {k : (x.shift ρ).Reply Request.Reply → Engine α}
      {k' : x.Reply Request.Reply → Engine β}
      (h : ∀ r, Mirrors ρ post (k (x.shiftReply ρ r)) (k' r)) :
      Mirrors ρ post (.ask (x.shift ρ) k) (.ask x k')
  | left (n : Notice) {k : Unit → Engine α} {q : Engine β} (h : Mirrors ρ post (k ()) q) :
      Mirrors ρ post (.ask (.note n) k) q
  | right (n : Notice) {p : Engine α} {k : Unit → Engine β} (h : Mirrors ρ post p (k ())) :
      Mirrors ρ post p (.ask (.note n) k)

namespace Engine.Mirrors

variable {ρ : Shift} {post : α → β → Prop} {post' : α' → β' → Prop} {p : Engine α} {q : Engine β}

theorem pure {a : α} {b : β} (h : post a b) : Mirrors ρ post (Pure.pure a) (Pure.pure b) :=
  .done h

/-- One computation after another. -/
theorem bind (h : Mirrors ρ post p q) {f : α → Engine α'} {g : β → Engine β'}
    (hf : ∀ a b, post a b → Mirrors ρ post' (f a) (g b)) : Mirrors ρ post' (p >>= f) (q >>= g) := by
  induction h with
  | done h => exact hf _ _ h
  | ask x _ ih => exact .ask x ih
  | left n _ ih => exact .left n ih
  | right n _ ih => exact .right n ih

theorem discard (h : Mirrors ρ post p q) :
    Mirrors ρ (fun _ _ => True) (Functor.discard p) (Functor.discard q) := by
  simp only [Plan.discard_eq, ← bind_pure_comp]
  exact h.bind fun _ _ _ => .pure trivial

section

variable {r : Request} {n : Notice}

theorem gpu (r : Request) {f : (r.shift ρ.objects).Reply → Engine α'} {g : r.Reply → Engine β'}
    (h : ∀ x, Mirrors ρ post' (f (r.shiftReply ρ.objects x)) (g x)) :
    Mirrors ρ post' (Engine.gpu (r.shift ρ.objects) >>= f) (Engine.gpu r >>= g) :=
  .ask (.gpu r) h

theorem requestFrame {f : FrameId → Engine α'} {g : FrameId → Engine β'}
    (h : ∀ id : FrameId, Mirrors ρ post' (f (id.shift ρ.frames)) (g id)) :
    Mirrors ρ post' (Engine.requestFrame >>= f) (Engine.requestFrame >>= g) :=
  .ask .requestFrame h

theorem cancelFrame (id : FrameId) {f : Unit → Engine α'} {g : Unit → Engine β'}
    (h : Mirrors ρ post' (f ()) (g ())) :
    Mirrors ρ post' (Engine.cancelFrame (id.shift ρ.frames) >>= f) (Engine.cancelFrame id >>= g) :=
  .ask (.cancelFrame id) fun _ => h

/-- Each side gives a notice, whichever. -/
theorem note (n n' : Notice) {f : Unit → Engine α'} {g : Unit → Engine β'}
    (h : Mirrors ρ post' (f ()) (g ())) :
    Mirrors ρ post' (Engine.note n >>= f) (Engine.note n' >>= g) :=
  .left n (.right n' h)

/-- Either side may give a notice or not. -/
theorem noteIf (b b' : Bool) (n n' : Notice) {f : Unit → Engine α'} {g : Unit → Engine β'}
    (h : Mirrors ρ post' (f ()) (g ())) :
    Mirrors ρ post' (Engine.noteIf b n >>= f) (Engine.noteIf b' n' >>= g) := by
  cases b with
  | true =>
    cases b' with
    | true => exact note n n' h
    | false => exact .left n h
  | false =>
    cases b' with
    | true => exact .right n' h
    | false => exact h

end

/-- **Computations that mirror each other have runs that do**, on hosts that do. -/
theorem run {judge : Judge} {n f : Nat} {d : Device} (h : Mirrors (.up n f) post p q)
    {host : Host d} {host' : Host judge.device} (hh : host.Mirrors judge n f host') :
    let o := p.run d.host host
    let o' := q.run judge.device.host host'
    post o.value o'.value ∧
      Log.dealings o.log = (Log.dealings o'.log).map (Exchange.shift (.up n f)) ∧
      o.state.Mirrors judge n f o'.state := by
  induction h generalizing host host' with
  | done h => exact ⟨h, rfl, hh⟩
  | @ask x k k' _ ih =>
    obtain ⟨hreply, hnext⟩ := hh.answer x
    obtain ⟨hpost, hlog, hstate⟩ := ih (judge.device.host.answer x host').1 hnext
    -- The reply of the first host is not yet known by the name under which `ih` has it.
    have hask (reply) (hr : reply = x.shiftReply (.up n f) (judge.device.host.answer x host').1) :
        let o := (k reply).run d.host (d.host.answer (x.shift (.up n f)) host).2
        let o' := (Plan.ask x k').run judge.device.host host'
        post o.value o'.value ∧
          Log.dealings (⟨x.shift (.up n f), reply⟩ :: o.log) =
            (Log.dealings o'.log).map (Exchange.shift (.up n f)) ∧
          o.state.Mirrors judge n f o'.state := by
      subst hr
      exact ⟨hpost, Log.dealings_cons ⟨x, _⟩ hlog, hstate⟩
    exact hask _ hreply
  | left n k ih =>
    obtain ⟨hpost, hlog, hstate⟩ := ih hh
    exact ⟨hpost, hlog, hstate⟩
  | right n k ih =>
    obtain ⟨hpost, hlog, hstate⟩ := ih hh
    exact ⟨hpost, hlog, hstate⟩

end Engine.Mirrors

end LiveShader
