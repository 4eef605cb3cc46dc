import LiveShader.Device.Recording
import LiveShader.Proofs.Stock
import Mathlib.Data.Set.Card

/-!
# What the recording device counts

The recording device is there to find mistakes, so its counts have to be right also where mistakes
are made: with handles that are gone, that were given to an object of another kind, or that were
never given at all.

* The rules of a device have nothing to do with what it counts. That is kept in its `Books`, and
  `Books.Effect` lists what can become of them. Requests are told apart in `effect_answer` only.
* What was done so far is a list of entries. From these alone, and without the device, it is said
  which objects are alive, which program is current, and when a creation is to fail.
* `Accounts` is the invariant: the books agree with the past. A new entry changes the two alike,
  field by field.
* The last number given is the number of objects made, so 32 bits hold the numbers of fewer than
  2^32 - 1 creations. With zero for a word like any other, a handle is what a word stands for
  (`Handle.ofWord`). Zero is never the handle of an object then (`Usage.zero_not_alive`).

Results:
* `Objects.effect_answer`: what a request does to the books.
* `Objects.Accounts.snoc`: one thing more that is done keeps the accounts.
* `Recording.counters_true`: the counts of the recording device, after anything that may be done.
-/

namespace LiveShader

namespace Request

/-- Whether a request creates an object. -/
def isCreation : Request → Bool
  | .createShader _ | .createProgram | .createVertexArray | .createBuffer => true
  | _ => false

/-- The program that a request makes current, which may be none. -/
def makesCurrent : Request → Option (Option Program)
  | .useProgram p => some p
  | _ => none

/-- Whether a request uses the current program: by making it current, or by drawing with it. -/
def usesCurrent (r : Request) : Bool :=
  r.makesCurrent.isSome || r.isDraw

end Request

namespace Objects

/-! ## What is done to a device -/

/-- One thing that is done to a simulated device. -/
inductive Step where
  | ask (r : Request)
  /-- Linking fails with this log until somebody asks for it. -/
  | failLink (log : String)
  /-- The creation after the next `n` fails. -/
  | failCreation (n : Nat)
  deriving DecidableEq

/-- Whether a request is made. -/
def Step.isRequest : Step → Bool
  | .ask _ => true
  | _ => false

/-- What was done, and what was said to it. -/
inductive Fact where
  | asked (r : Request) (reply : r.Reply)
  | failLink (log : String)
  | failCreation (n : Nat)

/-- What a fact means for the books. -/
structure Entry where
  /-- A creation was asked for. -/
  isCreation : Bool := false
  /-- The object that was created. -/
  made : Option Item := none
  /-- The object that was deleted, or was to be. -/
  deleted : Option Item := none
  /-- The current program was used. -/
  usesCurrent : Bool := false
  /-- The program that was made current, which may be none. -/
  makesCurrent : Option (Option Program) := none
  /-- After how many creations one was to fail from then on. -/
  failsAfter : Option Nat := none

namespace Fact

/-- What was done. -/
def step : Fact → Step
  | .asked r _ => .ask r
  | .failLink log => .failLink log
  | .failCreation n => .failCreation n

/-- What it means for the books. -/
def entry : Fact → Entry
  | .asked r reply =>
    { isCreation := r.isCreation
      made := r.created reply
      deleted := r.deleted
      usesCurrent := r.usesCurrent
      makesCurrent := r.makesCurrent }
  | .failLink _ => {}
  | .failCreation n => { failsAfter := some n }

end Fact

/-! ## The books -/

/-- The handles of the objects of a kind. -/
def handles (o : Objects) : (kind : ObjectKind) → List (Handle kind)
  | .shader => o.shaders.map Prod.fst
  | .program => o.programs.map Prod.fst
  | .vertexArray => o.vertexArrays
  | .buffer => o.buffers

/-- What a device keeps count of. -/
@[ext]
structure Books where
  issued : Nat
  handles : (kind : ObjectKind) → List (Handle kind)
  current : Option Program
  creationsLeft : Option Nat
  doubleFrees : Nat
  danglingUses : Nat

/-- The books of a device. -/
def books (o : Objects) : Books :=
  { o with handles := o.handles }

namespace Books

variable {b b' : Books} {e : Entry} {kind : ObjectKind}

/-- An object is created. -/
def make (b : Books) (h : Handle kind) : Books :=
  { b with
    issued := b.issued + 1
    handles := Function.update b.handles kind (b.handles kind ++ [h])
    creationsLeft := b.creationsLeft.map Nat.pred }

/-- An object is deleted, if it is there. -/
def free (b : Books) (h : Handle kind) : Books :=
  { b with
    handles := Function.update b.handles kind ((b.handles kind).filter (· != h))
    doubleFrees := if h ∈ b.handles kind then b.doubleFrees else b.doubleFrees + 1 }

/-- Whether a program is current that is not there. -/
def dangles (b : Books) : Bool :=
  b.current.any fun p => !(b.handles .program).contains p

/-- The current program is used. -/
def use (b : Books) : Books :=
  { b with danglingUses := if b.dangles then b.danglingUses + 1 else b.danglingUses }

/-- **What can become of the books.** -/
inductive Effect (b : Books) : Entry → Books → Prop
  /-- A creation fails. -/
  | refuses (hleft : b.creationsLeft = some 0) :
      Effect b { isCreation := true } { b with creationsLeft := none }
  | makes {kind : ObjectKind} (h : Handle kind) (hid : h.id = b.issued + 1)
      (hleft : b.creationsLeft ≠ some 0) :
      Effect b { isCreation := true, made := some h.item } (b.make h)
  | frees {kind : ObjectKind} (h : Handle kind) : Effect b { deleted := some h.item } (b.free h)
  | uses (makesCurrent : Option (Option Program)) :
      Effect b { usesCurrent := true, makesCurrent }
        { b with current := makesCurrent.getD b.current }.use
  /-- A creation is to fail. -/
  | delays (n : Nat) : Effect b { failsAfter := some n } { b with creationsLeft := some n }
  | keeps : Effect b {} b

section

variable {kind' : ObjectKind} {h : Handle kind} {h' : Handle kind'}

theorem mem_make : h' ∈ (b.make h).handles kind' ↔ h' ∈ b.handles kind' ∨ h'.item = h.item := by
  by_cases hk : kind' = kind
  · subst hk
    simp [make]
  · simp [make, Handle.item, hk]

theorem mem_free : h' ∈ (b.free h).handles kind' ↔ h' ∈ b.handles kind' ∧ h'.item ≠ h.item := by
  by_cases hk : kind' = kind
  · subst hk
    simp [free]
  · simp [free, Handle.item, hk]

theorem nodup_make (hb : ∀ kind, (b.handles kind).Nodup) (hnew : h ∉ b.handles kind)
    (kind' : ObjectKind) : ((b.make h).handles kind').Nodup := by
  by_cases hk : kind' = kind
  · subst hk
    have hne : ∀ h' ∈ b.handles kind', h' ≠ h := by
      rintro h' hmem rfl
      exact hnew hmem
    simpa [make, List.nodup_append, hb kind'] using hne
  · simpa [make, Function.update_of_ne hk] using hb kind'

theorem nodup_free (hb : ∀ kind, (b.handles kind).Nodup) (kind' : ObjectKind) :
    ((b.free h).handles kind').Nodup := by
  by_cases hk : kind' = kind
  · subst hk
    simpa [free] using (hb kind').filter _
  · simpa [free, Function.update_of_ne hk] using hb kind'

end

theorem dangles_iff : b.dangles = true ↔ ∃ p, b.current = some p ∧ p ∉ b.handles .program := by
  cases h : b.current <;> simp [dangles, h]

namespace Effect

theorem issued (h : b.Effect e b') : e.made = none ∧ b'.issued = b.issued ∨
    ∃ x, e.made = some x ∧ x.2.id = b.issued + 1 ∧ b'.issued = b.issued + 1 := by
  cases h with
  | makes h hid => exact .inr ⟨_, rfl, hid, rfl⟩
  | _ => exact .inl ⟨rfl, rfl⟩

theorem mem_handles (h : b.Effect e b') {x : Handle kind} : x ∈ b'.handles kind ↔
    e.made = some x.item ∨ x ∈ b.handles kind ∧ e.deleted ≠ some x.item := by
  cases h with
  | makes h => simp [mem_make, or_comm, eq_comm]
  | frees h => simp [mem_free, eq_comm]
  | _ => simp [use]

theorem nodup (h : b.Effect e b') (hb : ∀ kind, (b.handles kind).Nodup)
    (hnew : ∀ x, e.made = some x → x.2 ∉ b.handles x.1) (kind : ObjectKind) :
    (b'.handles kind).Nodup := by
  cases h with
  | makes h => exact nodup_make hb (hnew _ rfl) kind
  | frees h => exact nodup_free hb kind
  | _ => exact hb kind

/-- A creation that fails uses up the failure that was asked for. -/
theorem books_of_refused (h : b.Effect e b') (he : e.isCreation = true) (hmade : e.made = none) :
    b' = { b with creationsLeft := none } := by
  cases h with
  | refuses => rfl
  | makes => cases hmade
  | _ => cases he

theorem current (h : b.Effect e b') : b'.current = e.makesCurrent.getD b.current := by
  cases h <;> rfl

theorem refused (h : b.Effect e b') (he : e.isCreation = true) :
    e.made = none ↔ b.creationsLeft = some 0 := by
  cases h with
  | refuses hleft => exact iff_of_true rfl hleft
  | makes h hid hleft => exact iff_of_false nofun hleft
  | _ => cases he

theorem creationsLeft (h : b.Effect e b') (n : Nat) : b'.creationsLeft = some n ↔
    e.failsAfter = some n ∨
      e.failsAfter = none ∧ b.creationsLeft = some (n + if e.isCreation then 1 else 0) := by
  cases h with
  | refuses hleft => simp [hleft]
  | makes h hid hleft =>
    rcases hb : b.creationsLeft with _ | _ | m
    · simp [make, hb]
    · exact absurd hb hleft
    · simp [make, hb]
  | delays m => simp
  | _ => simp [free, use]

theorem doubleFrees (h : b.Effect e b') :
    b'.doubleFrees = b.doubleFrees + 1 ∧ (∃ x, e.deleted = some x ∧ x.2 ∉ b.handles x.1) ∨
      b'.doubleFrees = b.doubleFrees ∧ ¬ ∃ x, e.deleted = some x ∧ x.2 ∉ b.handles x.1 := by
  cases h with
  | frees h =>
    by_cases hmem : h ∈ b.handles _
    · exact .inr ⟨if_pos hmem, by simpa using hmem⟩
    · exact .inl ⟨if_neg hmem, _, rfl, hmem⟩
  | _ => exact .inr ⟨rfl, by simp⟩

theorem danglingUses (h : b.Effect e b') :
    b'.danglingUses = b.danglingUses + 1 ∧ e.usesCurrent = true ∧ b'.dangles = true ∨
      b'.danglingUses = b.danglingUses ∧ ¬ (e.usesCurrent = true ∧ b'.dangles = true) := by
  cases h with
  | uses makesCurrent =>
    by_cases hdangles : { b with current := makesCurrent.getD b.current }.dangles = true
    · exact .inl ⟨if_pos hdangles, rfl, hdangles⟩
    · exact .inr ⟨if_neg hdangles, fun h => hdangles h.2⟩
  | _ => exact .inr ⟨rfl, by simp⟩

end Effect

end Books

/-! ## What a request does -/

section

variable {o o' : Objects} {kind : ObjectKind}

/-- A creation is refused, or gives the next handle. -/
theorem create_cases (store : Handle kind → Objects → Objects) (o : Objects) :
    (o.creationsLeft = some 0 ∧
      ∃ why, o.create store = (.error why, { o with creationsLeft := none })) ∨
    (o.creationsLeft ≠ some 0 ∧ ∃ h : Handle kind, h.id = o.issued + 1 ∧
      o.create store = (.ok h, store h { o with
        issued := o.issued + 1, creationsLeft := o.creationsLeft.map Nat.pred })) := by
  unfold create allocate
  rcases hleft : o.creationsLeft with _ | _ | n
  · exact .inr ⟨nofun, _, rfl, rfl⟩
  · exact .inl ⟨rfl, _, rfl⟩
  · exact .inr ⟨by simp, _, rfl, rfl⟩

theorem effect_create {e : Entry} {store : Handle kind → Objects → Objects}
    (he : e = { isCreation := true, made := (o.create store).1.toOption.map Handle.item })
    (hstore : ∀ h o, (store h o).books = { o.books with
      handles := Function.update o.handles kind (o.handles kind ++ [h]) }) :
    o.books.Effect e (o.create store).2.books := by
  rcases create_cases store o with ⟨hleft, why, hc⟩ | ⟨hleft, h, hid, hc⟩
  · rw [he, hc]
    exact .refuses hleft
  · rw [he, hc, hstore]
    exact .makes h hid hleft

theorem effect_free {h : Handle kind} {alive : Bool} (halive : alive = true ↔ h ∈ o.handles kind)
    (ho : o'.books = { o.books with
      handles := Function.update o.handles kind ((o.handles kind).filter (· != h)) }) :
    o.books.Effect { deleted := some h.item } (o'.freed alive).books := by
  have hfrees : o'.doubleFrees = o.doubleFrees := congrArg Books.doubleFrees ho
  have hfreed : (o'.freed alive).books = { o'.books with
      doubleFrees := if alive then o'.doubleFrees else o'.doubleFrees + 1 } := by
    cases alive <;> rfl
  rw [hfreed, ho, hfrees, if_congr halive rfl rfl]
  exact .frees h

/-- Changing the value of a key leaves the keys alone. -/
theorem keys_changing {α β : Type} [BEq α] (key : α) (f : β → β) (l : List (α × β)) :
    (changing key f l).map Prod.fst = l.map Prod.fst := by
  rw [changing, List.map_map]
  refine List.map_congr_left fun e _ => ?_
  rw [Function.comp_apply]
  split <;> rfl

theorem keys_without {α β : Type} [BEq α] (key : α) (l : List (α × β)) :
    (without key l).map Prod.fst = (l.map Prod.fst).filter (· != key) := by
  rw [without, List.filter_map]
  rfl

theorem isSome_lookup {α β : Type} [BEq α] [LawfulBEq α] (key : α) (l : List (α × β)) :
    (l.lookup key).isSome = true ↔ key ∈ l.map Prod.fst := by
  simp [List.lookup_isSome_iff]

theorem books_onShader (s : Shader) (f : ShaderObject → ShaderObject) :
    (o.onShader s f).books = o.books := by
  refine Books.ext rfl (funext fun kind => ?_) rfl rfl rfl rfl
  cases kind <;> simp [books, handles, onShader, keys_changing]

theorem books_onProgram (p : Program) (f : ProgramObject → ProgramObject) :
    (o.onProgram p f).books = o.books := by
  refine Books.ext rfl (funext fun kind => ?_) rfl rfl rfl rfl
  cases kind <;> simp [books, handles, onProgram, keys_changing]

theorem dangles_books : o.books.dangles =
    o.current.any fun p => !(o.programs.lookup p).isSome := by
  unfold Books.dangles
  refine congrArg (Option.any · o.current) (funext fun p => ?_)
  have hp : (o.programs.lookup p).isSome = (o.handles .program).contains p := by
    rw [Bool.eq_iff_iff, isSome_lookup, List.contains_iff_mem]
    rfl
  rw [hp]
  rfl

theorem books_used : o.used.books = o.books.use := by
  unfold used Books.use
  rw [dangles_books]
  split
  next hcurrent =>
    rw [hcurrent]
    rfl
  next p hcurrent =>
    have hany : (o.current.any fun p => !(o.programs.lookup p).isSome) =
        !(o.programs.lookup p).isSome := by
      rw [hcurrent, Option.any_some]
    rw [hany]
    cases (o.programs.lookup p).isSome <;> rfl

theorem effect_use (makesCurrent : Option (Option Program)) :
    o.books.Effect { usesCurrent := true, makesCurrent }
      { o with current := makesCurrent.getD o.current }.used.books := by
  rw [books_used]
  exact .uses makesCurrent

theorem effect_keep (ho : o'.books = o.books) : o.books.Effect {} o'.books := by
  rw [ho]
  exact .keeps

/-- **What a request does to the books**, whatever the rules of the device are. -/
theorem effect_answer (rules : Rules) (r : Request) (o : Objects) :
    o.books.Effect (Fact.asked r (answer rules r o).1).entry (answer rules r o).2.books := by
  cases r with
  | createShader _ | createProgram | createVertexArray | createBuffer =>
    refine effect_create ?_ fun h o => ?_
    · dsimp only [answer]
      generalize (o.create _).1 = reply
      cases reply <;> rfl
    · refine Books.ext rfl (funext fun kind => ?_) rfl rfl rfl rfl
      cases kind <;> simp [books, handles]
  | deleteShader _ | deleteProgram _ =>
    refine effect_free (isSome_lookup _ _) ?_
    refine Books.ext rfl (funext fun kind => ?_) rfl rfl rfl rfl
    cases kind <;> simp [books, handles, keys_without]
  | deleteVertexArray _ | deleteBuffer _ =>
    refine effect_free List.contains_iff_mem ?_
    refine Books.ext rfl (funext fun kind => ?_) rfl rfl rfl rfl
    cases kind <;> simp [books, handles]
  | useProgram p => exact effect_use (some p)
  | drawArrays _ | drawElements _ => exact effect_use none
  | shaderSource _ _ | compileShader _ => exact effect_keep (books_onShader _ _)
  | attachShader _ _ | detachShader _ _ | linkProgram _ => exact effect_keep (books_onProgram _ _)
  | _ => exact .keeps

end

/-! ## What the past tells -/

/-- The objects that were created, the first one first. -/
def madeItems (past : List Entry) : List Item :=
  past.filterMap Entry.made

/-- An object was created, and was not deleted since. -/
def Alive (past : List Entry) (x : Item) : Prop :=
  ∃ before e after, past = before ++ e :: after ∧ e.made = some x ∧
    ∀ e ∈ after, e.deleted ≠ some x

/-- The program that was made current last. -/
def currentProgram (past : List Entry) : Option Program :=
  (past.filterMap Entry.makesCurrent).getLast?.join

/-- The creation after the next `n` is to fail: this was asked for, and nothing else of the kind was
asked for since. -/
def Due (past : List Entry) (n : Nat) : Prop :=
  ∃ before e after total, past = before ++ e :: after ∧ e.failsAfter = some total ∧
    (∀ e ∈ after, e.failsAfter = none) ∧ after.countP Entry.isCreation + n = total

/-- A deletion of something that is not alive. -/
def DoubleFree (past : List Entry) (e : Entry) : Prop :=
  ∃ x, e.deleted = some x ∧ ¬ Alive past x

/-- A use of the current program when that is not alive. -/
def DanglingUse (past : List Entry) (e : Entry) : Prop :=
  e.usesCurrent = true ∧
    ∃ p, currentProgram (past ++ [e]) = some p ∧ ¬ Alive (past ++ [e]) p.item

/-- The places in the past of the entries that are so, given those before them. -/
def occurrences (P : List Entry → Entry → Prop) (past : List Entry) : Set Nat :=
  {i | ∃ e, past[i]? = some e ∧ P (past.take i) e}

/-! ### One entry more -/

variable {past : List Entry} {e : Entry}

/-- A place in a list is its end, or was there before its end. -/
theorem snoc_eq_append_cons {α : Type} {l before after : List α} {a c : α} :
    l ++ [c] = before ++ a :: after ↔
      after = [] ∧ l = before ∧ c = a ∨ ∃ rest, after = rest ++ [c] ∧ l = before ++ a :: rest := by
  rcases List.eq_nil_or_concat after with rfl | ⟨rest, e, rfl⟩
  · simp
  · rw [List.concat_eq_append, ← List.cons_append, ← List.append_assoc]
    constructor
    · intro h
      obtain ⟨hl, hc⟩ := List.append_inj' h rfl
      exact .inr ⟨rest, by rw [hc], hl⟩
    · rintro (⟨hnil, -, -⟩ | ⟨rest', hrest, rfl⟩)
      · simp at hnil
      · obtain ⟨rfl, hc⟩ := List.append_inj' hrest rfl
        rw [hc]

@[simp] theorem madeItems_snoc : madeItems (past ++ [e]) = madeItems past ++ e.made.toList := by
  cases h : e.made <;> simp [madeItems, h]

theorem alive_snoc {x : Item} :
    Alive (past ++ [e]) x ↔ e.made = some x ∨ Alive past x ∧ e.deleted ≠ some x := by
  constructor
  · rintro ⟨before, e', after, hpast, hmade, hkept⟩
    rcases snoc_eq_append_cons.mp hpast with ⟨rfl, rfl, rfl⟩ | ⟨rest, rfl, rfl⟩
    · exact .inl hmade
    · rw [List.forall_mem_append, List.forall_mem_singleton] at hkept
      exact .inr ⟨⟨before, e', rest, rfl, hmade, hkept.1⟩, hkept.2⟩
  · rintro (hmade | ⟨⟨before, e', after, rfl, hmade, hkept⟩, hdeleted⟩)
    · exact ⟨past, e, [], rfl, hmade, nofun⟩
    · refine ⟨before, e', after ++ [e], by simp, hmade, ?_⟩
      exact List.forall_mem_append.mpr ⟨hkept, List.forall_mem_singleton.mpr hdeleted⟩

theorem currentProgram_snoc :
    currentProgram (past ++ [e]) = e.makesCurrent.getD (currentProgram past) := by
  cases h : e.makesCurrent <;> simp [currentProgram, h]

theorem due_snoc {n : Nat} : Due (past ++ [e]) n ↔ e.failsAfter = some n ∨
    e.failsAfter = none ∧ Due past (n + if e.isCreation then 1 else 0) := by
  constructor
  · rintro ⟨before, e', after, total, hpast, htotal, hlast, hcount⟩
    rcases snoc_eq_append_cons.mp hpast with ⟨rfl, rfl, rfl⟩ | ⟨rest, rfl, rfl⟩
    · obtain rfl : n = total := by simpa using hcount
      exact .inl htotal
    · rw [List.forall_mem_append, List.forall_mem_singleton] at hlast
      refine .inr ⟨hlast.2, before, e', rest, total, rfl, htotal, hlast.1, ?_⟩
      rw [List.countP_append, List.countP_singleton] at hcount
      omega
  · rintro (htotal | ⟨hnone, before, e', after, total, rfl, htotal, hlast, hcount⟩)
    · exact ⟨past, e, [], n, rfl, htotal, nofun, Nat.zero_add n⟩
    · refine ⟨before, e', after ++ [e], total, by simp, htotal, ?_, ?_⟩
      · exact List.forall_mem_append.mpr ⟨hlast, List.forall_mem_singleton.mpr hnone⟩
      · rw [List.countP_append, List.countP_singleton]
        omega

section

variable {P : List Entry → Entry → Prop} {i : Nat}

theorem lt_of_mem_occurrences (h : i ∈ occurrences P past) : i < past.length := by
  obtain ⟨e, he, -⟩ := h
  exact (List.getElem?_eq_some_iff.mp he).1

theorem finite_occurrences : (occurrences P past).Finite :=
  (Set.finite_lt_nat past.length).subset fun _ => lt_of_mem_occurrences

theorem mem_occurrences_snoc : i ∈ occurrences P (past ++ [e]) ↔
    i ∈ occurrences P past ∨ i = past.length ∧ P past e := by
  rcases Nat.lt_trichotomy i past.length with hlt | rfl | hlt
  · have htake : (past ++ [e]).take i = past.take i := List.take_append_of_le_length hlt.le
    simp [occurrences, htake, List.getElem?_append_left hlt, hlt.ne]
  · simp [occurrences]
  · have hnone : (past ++ [e])[i]? = none := by simp; omega
    have hpast : past[i]? = none := by simp; omega
    simp [occurrences, hnone, hpast, hlt.ne']

theorem occurrences_snoc_of (h : P past e) :
    (occurrences P (past ++ [e])).ncard = (occurrences P past).ncard + 1 := by
  have hset : occurrences P (past ++ [e]) = insert past.length (occurrences P past) := by
    ext i
    simp [mem_occurrences_snoc, h, or_comm]
  have hnew : past.length ∉ occurrences P past := fun hmem =>
    Nat.lt_irrefl _ (lt_of_mem_occurrences hmem)
  rw [hset, Set.ncard_insert_of_notMem hnew finite_occurrences]

theorem occurrences_snoc_of_not (h : ¬ P past e) :
    occurrences P (past ++ [e]) = occurrences P past := by
  ext i
  simp [mem_occurrences_snoc, h]

end

/-! ## The accounts -/

/-- The books agree with what the past tells. -/
structure Accounts (b : Books) (past : List Entry) : Prop where
  made : (madeItems past).map (fun x => x.2.id) = List.range' 1 b.issued
  alive : ∀ {kind : ObjectKind} (h : Handle kind), h ∈ b.handles kind ↔ Alive past h.item
  nodup : ∀ kind, (b.handles kind).Nodup
  current : b.current = currentProgram past
  due : ∀ n, b.creationsLeft = some n ↔ Due past n
  doubleFrees : b.doubleFrees = (occurrences DoubleFree past).ncard
  danglingUses : b.danglingUses = (occurrences DanglingUse past).ncard
  refused : ∀ before e after, past = before ++ e :: after → e.isCreation = true →
    (e.made = none ↔ Due before 0)

theorem accounts_new : Accounts (books {}) [] where
  made := rfl
  alive {kind} h := by
    refine iff_of_false ?_ ?_
    · cases kind <;> exact List.not_mem_nil
    · rintro ⟨before, e, after, hpast, -⟩
      simp at hpast
  nodup kind := by cases kind <;> exact List.nodup_nil
  current := rfl
  due n := by
    refine iff_of_false nofun ?_
    rintro ⟨before, e, after, total, hpast, -⟩
    simp at hpast
  doubleFrees := by simp [occurrences, books]
  danglingUses := by simp [occurrences, books]
  refused before e after hpast := by simp at hpast

namespace Accounts

variable {b b' : Books}

/-- What is there has been counted. -/
theorem le_issued (ha : Accounts b past) {kind : ObjectKind} {h : Handle kind}
    (hmem : h ∈ b.handles kind) : h.id ≤ b.issued := by
  obtain ⟨before, e, after, rfl, hmade, -⟩ := (ha.alive h).mp hmem
  have hitem : h.item ∈ madeItems (before ++ e :: after) :=
    List.mem_filterMap.mpr ⟨e, List.mem_append_right _ List.mem_cons_self, hmade⟩
  have hrange : h.id ∈ List.range' 1 b.issued := by
    rw [← ha.made]
    exact List.mem_map_of_mem hitem
  rw [List.mem_range'_1] at hrange
  omega

theorem alive_snoc (ha : Accounts b past) (h : b.Effect e b') {kind : ObjectKind}
    (x : Handle kind) : x ∈ b'.handles kind ↔ Alive (past ++ [e]) x.item := by
  rw [Objects.alive_snoc, h.mem_handles, ha.alive]

theorem current_snoc (ha : Accounts b past) (h : b.Effect e b') :
    b'.current = currentProgram (past ++ [e]) := by
  rw [currentProgram_snoc, h.current, ha.current]

/-- **One thing more that is done keeps the accounts**, as books and past change alike. -/
theorem snoc (ha : Accounts b past) (h : b.Effect e b') : Accounts b' (past ++ [e]) where
  made := by
    rcases h.issued with ⟨hmade, hissued⟩ | ⟨x, hmade, hid, hissued⟩
    · simpa [hmade, hissued] using ha.made
    · simp [hmade, hissued, hid, ha.made, List.range'_1_concat, Nat.add_comm]
  alive := ha.alive_snoc h
  nodup := by
    -- What is there has a number that was given already, and a new object has the next.
    refine h.nodup ha.nodup fun x hx hmem => ?_
    have hle := ha.le_issued hmem
    rcases h.issued with ⟨hmade, -⟩ | ⟨y, hmade, hid, -⟩
    · simp [hx] at hmade
    · rw [hx, Option.some_inj] at hmade
      subst hmade
      omega
  current := ha.current_snoc h
  due n := by rw [due_snoc, h.creationsLeft, ha.due]
  doubleFrees := by
    have hfree : DoubleFree past e ↔ ∃ x, e.deleted = some x ∧ x.2 ∉ b.handles x.1 := by
      simp only [DoubleFree, ha.alive]
    rcases h.doubleFrees with ⟨hcount, hx⟩ | ⟨hcount, hx⟩
    · rw [occurrences_snoc_of (hfree.mpr hx), hcount, ha.doubleFrees]
    · rw [occurrences_snoc_of_not (hfree.not.mpr hx), hcount, ha.doubleFrees]
  danglingUses := by
    -- A program that is made current is so by then, so the books are those after the use.
    have hdangling : DanglingUse past e ↔ e.usesCurrent = true ∧ b'.dangles = true := by
      simp only [DanglingUse, Books.dangles_iff, ha.current_snoc h, ha.alive_snoc h]
    rcases h.danglingUses with ⟨hcount, hx⟩ | ⟨hcount, hx⟩
    · rw [occurrences_snoc_of (hdangling.mpr hx), hcount, ha.danglingUses]
    · rw [occurrences_snoc_of_not (hdangling.not.mpr hx), hcount, ha.danglingUses]
  refused before e' after hpast he := by
    rcases snoc_eq_append_cons.mp hpast with ⟨-, rfl, rfl⟩ | ⟨rest, -, rfl⟩
    · exact (h.refused he).trans (ha.due 0)
    · exact ha.refused before e' rest rfl he

/-- As many numbers were given as objects were made. -/
theorem length_made (ha : Accounts b past) : (madeItems past).length = b.issued := by
  have hlength := congrArg List.length ha.made
  rwa [List.length_map, List.length_range'] at hlength

/-- There are as many objects of a kind as are alive. -/
theorem length_handles (ha : Accounts b past) (kind : ObjectKind) :
    (b.handles kind).length = {h : Handle kind | Alive past h.item}.ncard := by
  have hset : {h : Handle kind | Alive past h.item} = ((b.handles kind).toFinset : Set _) := by
    ext h
    rw [List.coe_toFinset]
    exact (ha.alive h).symm
  rw [hset, Set.ncard_coe_finset, List.toFinset_card_of_nodup (ha.nodup kind)]

end Accounts

end Objects

/-! ## The recording device -/

namespace Recording

open Objects (Step Fact Accounts Alive Due DoubleFree DanglingUse madeItems occurrences)

/-- The device at one moment, and everything that was done to it. -/
structure Usage where
  state : State := {}
  past : List Fact := []

/-- What a step makes of the device, and what is said to it. -/
def State.take (s : State) : Step → Fact × State
  | .ask r => (.asked r (s.answer r).1, (s.answer r).2)
  | .failLink log => (.failLink log, { s with objects := s.objects.failLink log })
  | .failCreation n => (.failCreation n, { s with objects := s.objects.failCreation n })

namespace State

/-- Finding the place of a uniform changes only the names. -/
theorem locate_keeps (s : State) (name : String) :
    (s.locate name).2.objects = s.objects ∧ (s.locate name).2.requests = s.requests := by
  unfold locate
  split <;> exact ⟨rfl, rfl⟩

/-- The objects change by the rules, and every request is counted. -/
theorem answer_state (s : State) (r : Request) :
    (s.answer r).2.objects = (Objects.answer rules r s.objects).2 ∧
      (s.answer r).2.requests = s.requests + 1 := by
  cases r with
  | uniformLocation p name =>
    unfold answer
    dsimp only
    rcases h : plain (.uniformLocation p name) s with ⟨_ | found, s'⟩
    · obtain rfl : (plain (.uniformLocation p name) s).2 = s' := congrArg Prod.snd h
      exact ⟨rfl, rfl⟩
    · obtain rfl : (plain (.uniformLocation p name) s).2 = s' := congrArg Prod.snd h
      exact locate_keeps _ name
  | _ => exact ⟨rfl, rfl⟩

/-- To the books the reply is that by the rules. -/
theorem answer_entry (s : State) (r : Request) : (Fact.asked r (s.answer r).1).entry =
    (Fact.asked r (Objects.answer rules r s.objects).1).entry := by
  cases r <;> rfl

theorem effect_take (s : State) (step : Step) :
    s.objects.books.Effect (s.take step).1.entry (s.take step).2.objects.books := by
  cases step with
  | ask r =>
    dsimp only [take]
    rw [s.answer_entry, (s.answer_state r).1]
    exact Objects.effect_answer rules r s.objects
  | failLink log => exact .keeps
  | failCreation n => exact .delays n

end State

namespace Usage

variable {u : Usage}

/-- Take a step. -/
def step (u : Usage) (step : Step) : Usage :=
  ⟨(u.state.take step).2, u.past ++ [(u.state.take step).1]⟩

/-- Take steps, one after the other. -/
def run (u : Usage) (steps : List Step) : Usage :=
  steps.foldl Usage.step u

theorem accounts_run (h : Accounts u.state.objects.books (u.past.map Fact.entry))
    (steps : List Step) :
    Accounts (u.run steps).state.objects.books ((u.run steps).past.map Fact.entry) := by
  induction steps generalizing u with
  | nil => exact h
  | cons step steps ih =>
    refine ih ?_
    rw [Usage.step, List.map_append]
    exact h.snoc (u.state.effect_take step)

/-- The past tells the steps. -/
theorem steps_run (u : Usage) (steps : List Step) :
    (u.run steps).past.map Fact.step = u.past.map Fact.step ++ steps := by
  induction steps generalizing u with
  | nil => simp [run]
  | cons step steps ih =>
    have htake : (u.state.take step).1.step = step := by cases step <;> rfl
    have hrest := ih (u.step step)
    rw [run, List.foldl_cons, ← run, hrest]
    simp [Usage.step, htake]

/-- Zero stands for no object, as long as no more objects are made than words of 32 bits can count:
deleting it is always a double deletion, and with it for the current program every use dangles. -/
theorem zero_not_alive (steps : List Step) {kind : ObjectKind} :
    let past := (Usage.run {} steps).past.map Fact.entry
    (madeItems past).length < 2 ^ 32 → ¬ Alive past (Handle.ofWord 0 : Handle kind).item := by
  intro past hfew halive
  have ha : Accounts (Usage.run {} steps).state.objects.books past :=
    accounts_run Objects.accounts_new steps
  have hle := ha.le_issued ((ha.alive _).mpr halive)
  have hid : (Handle.ofWord 0 : Handle kind).id = 2 ^ 32 := rfl
  rw [hid, ← ha.length_made] at hle
  omega

theorem requests_run (u : Usage) (steps : List Step) :
    (u.run steps).state.requests = u.state.requests + steps.countP Step.isRequest := by
  induction steps generalizing u with
  | nil => rfl
  | cons step steps ih =>
    have htake : (u.state.take step).2.requests =
        u.state.requests + if step.isRequest then 1 else 0 := by
      cases step with
      | ask r => exact (u.state.answer_state r).2
      | _ => rfl
    have hrest := ih (u.step step)
    rw [run, List.foldl_cons, ← run, hrest, List.countP_cons]
    simp only [Usage.step, htake]
    omega

end Usage

/-- **The recording device counts truthfully.** After anything that may be done to a new device, in
any order and with any handles (where handles are words of 32 bits, with those that the words stand
for by `Handle.ofWord`: zero is 2^32 here, which is no more given to an object than zero is),

* the objects that were created are numbered 1, 2, 3 and so on, whatever their kinds;
* of each kind there are as many objects as were created and not deleted since;
* as many deletions are counted as double as were of objects that were not alive at that time;
* as many uses are counted as dangling as were of a current program that was not alive, a program
  that is made current being current already;
* a creation fails exactly if a failure was asked for, for the creation after the next `n`, nothing
  of the kind was asked for since, and `n` creations came in between, and whatever else;
* a creation that fails only uses up what was asked for;
* as many requests are counted as were made. -/
theorem counters_true (steps : List Step) :
    let u := Usage.run {} steps
    let past := u.past.map Fact.entry
    u.past.map Fact.step = steps ∧
      (madeItems past).map (fun x => x.2.id) = List.range' 1 (madeItems past).length ∧
      (∀ kind, (u.state.objects.handles kind).length =
        {h : Handle kind | Alive past h.item}.ncard) ∧
      u.state.objects.doubleFrees = (occurrences DoubleFree past).ncard ∧
      u.state.objects.danglingUses = (occurrences DanglingUse past).ncard ∧
      (∀ before e after, past = before ++ e :: after → e.isCreation = true →
        (e.made = none ↔ Due before 0)) ∧
      (∀ r, r.isCreation = true → r.created (u.state.answer r).1 = none →
        (u.state.answer r).2.objects.books = { u.state.objects.books with creationsLeft := none }) ∧
      u.state.requests = steps.countP Step.isRequest := by
  intro u past
  have ha : Accounts u.state.objects.books past := Usage.accounts_run Objects.accounts_new steps
  refine ⟨Usage.steps_run {} steps, ha.length_made ▸ ha.made, ha.length_handles, ha.doubleFrees,
    ha.danglingUses, ha.refused, fun r hr hrefused => ?_, ?_⟩
  · exact (u.state.effect_take (.ask r)).books_of_refused hr hrefused
  · rw [Usage.requests_run]
    exact Nat.zero_add _

/-- The program 1 is deleted twice and made current, and then a draw is made with zero current. -/
example :
    let u := Usage.run {} [.ask .createProgram, .ask (.deleteProgram (.ofWord 1)),
      .ask (.deleteProgram (.ofWord 1)), .ask (.useProgram (some (.ofWord 1))),
      .ask (.useProgram (some (.ofWord 0))), .ask (.drawArrays 6)]
    (u.state.objects.doubleFrees, u.state.objects.danglingUses, u.state.requests) = (1, 3, 6) := by
  decide

end Recording

end LiveShader
