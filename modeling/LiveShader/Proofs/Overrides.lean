import LiveShader.Parameters.Wire
import LiveShader.Proofs.Reading
import LiveShader.Proofs.Records
import Mathlib.Data.List.Forall2

/-!
# Overriding parameters

An object overrides some of the parameters and leaves the others at their defaults. Each parameter
is read from the member with its name alone, whatever other members there are and in whatever order
they come.

* `Tunable` are the parameters one by one. What is said of them below is said of all at once, from
  three laws: no two have one name, each is set to what is stored for it, and storing another leaves
  it as it is.
* `Tunable.Is` says in terms of values, without a reader, which value of a parameter a JSON value
  is: a number as a single, or an array of so many of them.

Results:
* `Components.read_iff`: a record of numbers is read exactly from the array of its numbers.
* `Tunable.read_iff`: a parameter is read exactly from what it is.
* `parse_object`: which objects are accepted, and what each parameter is then.
-/

namespace LiveShader

namespace Json

/-! ## Numbers -/

/-- The value is a number, and `x` is the single that it is read as. -/
def Value.IsSingle (v : Value) (x : Float32) : Prop :=
  ∃ w n, v = .number w ∧ w.value = .ok n ∧ n.toSingle = x

/-- The value is an array of numbers, and `xs` are the singles that they are read as. -/
def Value.IsSingles (v : Value) (xs : List Float32) : Prop :=
  ∃ items, v = .seq items ∧ List.Forall₂ Value.IsSingle items xs

/-- The value is a number that is not out of range. -/
def Value.IsNumber (v : Value) : Prop :=
  ∃ w n, v = .number w ∧ w.value = .ok n

/-- The value is an array of so many numbers. -/
def Value.IsNumbers (count : Nat) (v : Value) : Prop :=
  ∃ items, v = .seq items ∧ items.length = count ∧ ∀ item ∈ items, item.IsNumber

variable {R : Type} {v : Value} {items : List Value} {x : Float32}

theorem Value.isNumber_iff : v.IsNumber ↔ ∃ x, v.IsSingle x := by
  constructor
  · rintro ⟨w, n, hv, hn⟩
    exact ⟨n.toSingle, w, n, hv, hn, rfl⟩
  · rintro ⟨x, w, n, hv, hn, -⟩
    exact ⟨w, n, hv, hn⟩

theorem exists_singles :
    (∃ xs, List.Forall₂ Value.IsSingle items xs) ↔ ∀ item ∈ items, item.IsNumber := by
  induction items with
  | nil => simp
  | cons item items ih =>
    rw [List.forall_mem_cons, ← ih, Value.isNumber_iff]
    constructor
    · rintro ⟨_, _ | ⟨hx, hxs⟩⟩
      exact ⟨⟨_, hx⟩, _, hxs⟩
    · rintro ⟨⟨x, hx⟩, xs, hxs⟩
      exact ⟨x :: xs, .cons hx hxs⟩

theorem Value.isNumbers_iff {count : Nat} :
    v.IsNumbers count ↔ ∃ xs, xs.length = count ∧ v.IsSingles xs := by
  constructor
  · rintro ⟨items, rfl, rfl, hitems⟩
    obtain ⟨xs, hxs⟩ := exists_singles.mpr hitems
    exact ⟨xs, hxs.length_eq.symm, items, rfl, hxs⟩
  · rintro ⟨xs, rfl, items, rfl, hxs⟩
    exact ⟨items, rfl, hxs.length_eq, exists_singles.mp ⟨xs, hxs⟩⟩

theorem readSingle_iff : Doc.readSingle v.doc = .ok x ↔ v.IsSingle x := by
  cases v with
  | number w =>
    cases hw : w.value <;> simp [Value.doc, Doc.readSingle, Value.IsSingle, hw, Except.map]
  | _ => simp [Value.doc, Doc.readSingle, Value.IsSingle]

/-! ## Arrays of numbers -/

/-- Store one number after the other. -/
def storeAll : List (Float32 → R → R) → List Float32 → R → R
  | store :: stores, x :: xs, r => storeAll stores xs (store x r)
  | _, _, r => r

/-- Items are read by setters for numbers exactly if they are as many numbers. -/
theorem fill_singles {short : Nat → R → Except Problem R}
    (hshort : ∀ n r r', short n r ≠ .ok r') {stores : List (Float32 → R → R)} {n : Nat} {r r' : R} :
    (Value.itemDocs items).fill short n r (stores.map (Setter.of Doc.readSingle)) = .ok r' ↔
      ∃ xs, List.Forall₂ Value.IsSingle items xs ∧ xs.length = stores.length ∧
        storeAll stores xs r = r' := by
  induction stores generalizing items n r with
  | nil =>
    cases items with
    | nil =>
      simp [Value.itemDocs, Items.fill, SeqStop.whenFull, SeqStop.strict, outcome, Except.map,
        storeAll]
    | cons v items => simp [Value.itemDocs, Items.fill]
  | cons store stores ih =>
    cases items with
    | nil => simp [Value.itemDocs, Items.fill, SeqStop.strict, outcome, Except.bind, hshort]
    | cons v items =>
      rw [Value.itemDocs, List.map_cons, Items.fill, bind_eq_ok]
      simp only [ih, Setter.of_eq_ok, readSingle_iff]
      constructor
      · rintro ⟨r₁, ⟨x, hx, rfl⟩, xs, hxs, hlen, rfl⟩
        exact ⟨x :: xs, .cons hx hxs, by simp [hlen], rfl⟩
      · rintro ⟨_, _ | ⟨hx, hxs⟩, hlen, rfl⟩
        exact ⟨_, ⟨_, hx, rfl⟩, _, hxs, by simpa using hlen, rfl⟩

/-- **An array of numbers** is read exactly from an array of as many numbers. -/
theorem readArray_singles {stores : List (Float32 → R → R)} {blank r : R} :
    Doc.readArray (stores.map (Setter.of Doc.readSingle)) blank v.doc = .ok r ↔
      ∃ xs, v.IsSingles xs ∧ xs.length = stores.length ∧ storeAll stores xs blank = r := by
  cases v with
  | seq items =>
    rw [Value.doc, Doc.readArray, fill_singles nofun]
    simp [Value.IsSingles]
  | _ => simp [Value.doc, Doc.readArray, Value.IsSingles]

/-- Numbers stored one after the other make up a record, and `toList` gives them back. -/
structure Components (stores : List (Float32 → R → R)) (blank : R) (toList : R → List Float32) :
    Prop where
  length : ∀ r, (toList r).length = stores.length
  store_toList : ∀ r, storeAll stores (toList r) blank = r
  toList_store : ∀ xs, xs.length = stores.length → toList (storeAll stores xs blank) = xs

namespace Components

variable {stores : List (Float32 → R → R)} {blank : R} {toList : R → List Float32}

/-- **A record of numbers** is read exactly from the array of its numbers. -/
theorem read_iff (h : Components stores blank toList) {r : R} :
    Doc.readArray (stores.map (Setter.of Doc.readSingle)) blank v.doc = .ok r ↔
      v.IsSingles (toList r) := by
  rw [readArray_singles]
  constructor
  · rintro ⟨xs, hxs, hlen, rfl⟩
    rwa [h.toList_store xs hlen]
  · intro hr
    exact ⟨toList r, hr, h.length r, h.store_toList r⟩

/-- There is such a record for every array of as many numbers. -/
theorem isNumbers_iff (h : Components stores blank toList) :
    v.IsNumbers stores.length ↔ ∃ r, v.IsSingles (toList r) := by
  rw [Value.isNumbers_iff]
  constructor
  · rintro ⟨xs, hlen, hxs⟩
    exact ⟨storeAll stores xs blank, by rwa [h.toList_store xs hlen]⟩
  · rintro ⟨r, hr⟩
    exact ⟨toList r, h.length r, hr⟩

end Components

/-- A field that need not come admits no value, or one that it reads. -/
theorem RecordField.admits_optional {α : Type} {read : Doc → Except Problem α} {name : String}
    {store : α → R → R} {r : R} {values : List Value} :
    RecordField.Admits ⟨name, false, .of read store⟩ r values ↔
      values = [] ∨ ∃ v a, values = [v] ∧ read v.doc = .ok a := by
  constructor
  · rintro (⟨hnil, -⟩ | ⟨v, r', hv, hput⟩)
    · exact .inl hnil
    · obtain ⟨a, ha, -⟩ := Setter.of_eq_ok.mp hput
      exact .inr ⟨v, a, hv, ha⟩
  · rintro (hnil | ⟨v, a, hv, ha⟩)
    · exact .inl ⟨hnil, rfl⟩
    · exact .inr ⟨v, _, hv, Setter.of_eq_ok.mpr ⟨a, ha, rfl⟩⟩

end Json

open Json

/-! ## Parameters one by one -/

/-- What the numbers of an array are stored as. -/
def Color.stores : List (Float32 → Color → Color) :=
  [fun x c => { c with r := x }, fun x c => { c with g := x }, fun x c => { c with b := x },
    fun x c => { c with a := x }]

theorem Color.components : Components stores ⟨0, 0, 0, 0⟩ toList where
  length _ := rfl
  store_toList _ := rfl
  toList_store xs hlen := by
    obtain ⟨r, g, b, a, rfl⟩ := List.length_eq_four.mp hlen
    rfl

/-- What the numbers of an array are stored as. -/
def Vec3.stores : List (Float32 → Vec3 → Vec3) :=
  [fun t v => { v with x := t }, fun t v => { v with y := t }, fun t v => { v with z := t }]

/-- The components in order. -/
def Vec3.toList (u : Vec3) : List Float32 :=
  [u.x, u.y, u.z]

theorem Vec3.components : Components stores ⟨0, 0, 0⟩ toList where
  length _ := rfl
  store_toList _ := rfl
  toList_store xs hlen := by
    obtain ⟨x, y, z, rfl⟩ := List.length_eq_three.mp hlen
    rfl

namespace Parameters

/-- What may be tuned. -/
inductive Tunable where
  | background
  | viewAngle
  | near
  | far
  | eye
  deriving DecidableEq, Repr

namespace Tunable

/-- All of them, in the order of the record's fields. -/
def all : List Tunable :=
  [.background, .viewAngle, .near, .far, .eye]

/-- The name of the member that overrides the parameter. -/
def name : Tunable → String
  | .background => "clearColor"
  | .viewAngle => "fieldOfViewDegrees"
  | .near => "near"
  | .far => "far"
  | .eye => "eye"

/-- What the parameter is. -/
abbrev Kind : Tunable → Type
  | .background => Color
  | .eye => Vec3
  | .viewAngle | .near | .far => Float32

/-- The parameter among the others. -/
def get : (t : Tunable) → Parameters → t.Kind
  | .background => fun p => p.background
  | .viewAngle => fun p => p.viewAngle
  | .near => fun p => p.near
  | .far => fun p => p.far
  | .eye => fun p => p.eye

/-- Set the parameter and leave the others. -/
def store : (t : Tunable) → t.Kind → Parameters → Parameters
  | .background => fun x p => { p with background := x }
  | .viewAngle => fun x p => { p with viewAngle := x }
  | .near => fun x p => { p with near := x }
  | .far => fun x p => { p with far := x }
  | .eye => fun x p => { p with eye := x }

/-- How the parameter is read. -/
def read : (t : Tunable) → Doc → Except Problem t.Kind
  | .background => Color.read
  | .viewAngle => Doc.readSingle
  | .near => Doc.readSingle
  | .far => Doc.readSingle
  | .eye => Vec3.read

/-- The field of the parameter. -/
def field (t : Tunable) : RecordField Parameters where
  name := t.name
  put := .of t.read t.store

/-- The value that a JSON value gives the parameter. -/
def Is : (t : Tunable) → Value → t.Kind → Prop
  | .background => fun v c => v.IsSingles c.toList
  | .viewAngle => Value.IsSingle
  | .near => Value.IsSingle
  | .far => Value.IsSingle
  | .eye => fun v u => v.IsSingles u.toList

/-- The JSON values that the parameter may be overridden with. -/
def Accepts : Tunable → Value → Prop
  | .background => Value.IsNumbers 4
  | .viewAngle => Value.IsNumber
  | .near => Value.IsNumber
  | .far => Value.IsNumber
  | .eye => Value.IsNumbers 3

variable {t u : Tunable} {v : Value}

/-- Every parameter is read from the member with its name, and nothing else is. -/
theorem fields_record : record.fields = all.map field := rfl

theorem mem_all (t : Tunable) : t ∈ all := by
  cases t <;> decide

theorem name_injective (h : t.name = u.name) : t = u := by
  revert h
  cases t <;> cases u <;> decide

theorem get_store (t : Tunable) (x : t.Kind) (p : Parameters) : t.get (t.store x p) = x := by
  cases t <;> rfl

theorem get_store_of_ne (h : u ≠ t) (x : u.Kind) (p : Parameters) :
    t.get (u.store x p) = t.get p := by
  cases t <;> cases u <;> first | rfl | exact absurd rfl h

/-- **A parameter is read exactly from what it is.** -/
theorem read_iff (t : Tunable) (x : t.Kind) : t.read v.doc = .ok x ↔ t.Is v x := by
  cases t with
  | background => exact Color.components.read_iff
  | eye => exact Vec3.components.read_iff
  | _ => exact readSingle_iff

/-- A JSON value gives the parameter one value only. -/
theorem is_unique {x y : t.Kind} (hx : t.Is v x) (hy : t.Is v y) : x = y :=
  Except.ok.inj (((t.read_iff x).mpr hx).symm.trans ((t.read_iff y).mpr hy))

theorem accepts_iff : t.Accepts v ↔ ∃ x, t.Is v x := by
  cases t with
  | background => exact Color.components.isNumbers_iff
  | eye => exact Vec3.components.isNumbers_iff
  | _ => exact Value.isNumber_iff

theorem field?_eq (t : Tunable) : record.field? t.name = some t.field := by
  cases t <;> rfl

theorem part (t : Tunable) : record.Part t.name t.get t.read where
  sets := ⟨t.field, t.field?_eq, Setter.sets_of t.get_store⟩
  keeps f hf hne := by
    rw [fields_record] at hf
    obtain ⟨u, -, rfl⟩ := List.mem_map.mp hf
    exact Setter.keeps_of (get_store_of_ne fun h => hne (congrArg name h))

end Tunable

theorem record_plain : record.Plain where
  field? f hf := by
    rw [Tunable.fields_record] at hf
    obtain ⟨t, -, rfl⟩ := List.mem_map.mp hf
    exact t.field?_eq
  steady f hf := by
    rw [Tunable.fields_record] at hf
    obtain ⟨t, -, rfl⟩ := List.mem_map.mp hf
    exact Setter.steady_of

/-! ## Objects -/

variable {members : List (String × Value)} {p : Parameters}

/-- **An object is accepted** exactly if each parameter that it names is named once, with a value
that the parameter accepts. -/
theorem readMembers_iff :
    (∃ p, record.readMembers [] record.blank (Value.memberDocs members) = .ok p) ↔
      ∀ t : Tunable, valuesOf members t.name = [] ∨
        ∃ v, valuesOf members t.name = [v] ∧ t.Accepts v := by
  rw [Record.readMembers_iff record_plain, Tunable.fields_record]
  simp only [List.forall_mem_map, Tunable.mem_all, true_implies, Tunable.accepts_iff]
  refine forall_congr' fun t => ?_
  rw [Tunable.field, RecordField.admits_optional]
  simp only [Tunable.read_iff, exists_and_left]

/-- **Each parameter is what its own member makes it**, or as it was. -/
theorem readMembers_get
    (h : record.readMembers [] record.blank (Value.memberDocs members) = .ok p) (t : Tunable) :
    valuesOf members t.name = [] ∧ t.get p = t.get {} ∨
      ∃ v, valuesOf members t.name = [v] ∧ t.Is v (t.get p) := by
  rcases t.part.value List.not_mem_nil h with hnone | ⟨v, hv, hread⟩
  · exact .inl hnone
  · exact .inr ⟨v, hv, (t.read_iff _).mp hread⟩

/-- The only member of an object is found by one parameter. -/
theorem valuesOf_single (t u : Tunable) (v : Value) :
    valuesOf [(t.name, v)] u.name = if t = u then [v] else [] := by
  split
  · next h => rw [h, valuesOf_cons_self, valuesOf_nil]
  · next h => rw [valuesOf_cons_of_ne fun hname => h (Tunable.name_injective hname), valuesOf_nil]

/-- Every text of an object is read as the object is. -/
theorem parse_eq {body : String} (h : (Value.map members).Written body.toList) :
    parse body = record.readMembers [] record.blank (Value.memberDocs members) :=
  readAll_of_tokens h.ofTokens

/-- What a member makes of a parameter when it is the only one. -/
theorem exists_parse_single {t : Tunable} {v : Value} {x : t.Kind} (hx : t.Is v x) {body : String}
    (h : (Value.map [(t.name, v)]).Written body.toList) :
    ∃ q, parse body = .ok q ∧ t.get q = x := by
  obtain ⟨q, hq⟩ : ∃ q, parse body = .ok q := by
    rw [parse_eq h, readMembers_iff]
    intro u
    rw [valuesOf_single]
    split
    · next htu => exact .inr ⟨v, rfl, htu ▸ Tunable.accepts_iff.mpr ⟨x, hx⟩⟩
    · exact .inl rfl
  refine ⟨q, hq, ?_⟩
  rcases readMembers_get ((parse_eq h).symm.trans hq) t with ⟨hnone, -⟩ | ⟨w, hw, his⟩
  · simp at hnone
  · obtain rfl : w = v := by simpa using hw.symm
    exact Tunable.is_unique his hx

/-- **Overriding parameters.** Every text of an object is accepted exactly if each parameter that
the object names is named once, with a value that the parameter accepts. A parameter that is not
named has its default. One that is named is what its member makes it, and the same as in every
object that has this member alone. -/
theorem parse_object (members : List (String × Value)) (body : String)
    (h : (Value.map members).Written body.toList) :
    ((∃ p, parse body = .ok p) ↔ ∀ t : Tunable, valuesOf members t.name = [] ∨
      ∃ v, valuesOf members t.name = [v] ∧ t.Accepts v) ∧
    ∀ p, parse body = .ok p → ∀ t : Tunable,
      (valuesOf members t.name = [] → t.get p = t.get {}) ∧
      ∀ v, valuesOf members t.name = [v] → t.Is v (t.get p) ∧
        ∀ alone : String, (Value.map [(t.name, v)]).Written alone.toList →
          ∃ q, parse alone = .ok q ∧ t.get q = t.get p := by
  refine ⟨by rw [parse_eq h, readMembers_iff], fun p hp t => ?_⟩
  rcases readMembers_get ((parse_eq h).symm.trans hp) t with ⟨hnone, hdefault⟩ | ⟨v, hv, his⟩
  · refine ⟨fun _ => hdefault, fun v hv => ?_⟩
    rw [hnone] at hv
    cases hv
  · refine ⟨fun hnone => ?_, fun w hw => ?_⟩
    · rw [hnone] at hv
      cases hv
    · obtain rfl : v = w := by simpa using hv.symm.trans hw
      exact ⟨his, fun alone halone => exists_parse_single his halone⟩

/-- A plane that is moved, besides a member that nobody knows; and one that is moved twice. -/
theorem parse_object_near :
    (∃ p, parse "\x7b\"x\":[null],\"near\": 2\x7d" = .ok p ∧
      p.near = (Number.whole 2).toSingle ∧ p.far = ({} : Parameters).far) ∧
    ¬ ∃ p, parse "\x7b\"near\": 2,\"near\": 2\x7d" = .ok p := by
  let two : Numeral := ⟨false, ['2'], [], none⟩
  have none : Blanks [] := by simp [Blanks]
  have blank : Blanks [' '] := by simp [Blanks]
  have near : KeyWritten "near" "\"near\"".toList :=
    .padded none (.quoted (.plain (t := "near".toList) (by simp))) none
  have unknown : KeyWritten "x" "\"x\"".toList :=
    .padded none (.quoted (.plain (t := "x".toList) (by simp))) none
  have digits : Numeral.Digits two.whole := ⟨by simp [two], by simp [two]⟩
  have number : (Value.number two).Written [' ', '2'] :=
    .padded blank (.number (.parts digits (by simp [two]) .none .none)) none
  have value : (Value.number two).IsSingle (Number.whole 2).toSingle :=
    ⟨two, .whole 2, rfl, by decide +kernel, rfl⟩
  have once : (Value.map [("x", .seq [.null]), ("near", .number two)]).Written
      "\x7b\"x\":[null],\"near\": 2\x7d".toList :=
    .padded none (.map (.cons unknown (.padded none (.seq (.last (.padded none .null none))) none)
      (.last near number))) none
  have twice : (Value.map [("near", .number two), ("near", .number two)]).Written
      "\x7b\"near\": 2,\"near\": 2\x7d".toList :=
    .padded none (.map (.cons near number (.last near number))) none
  obtain ⟨haccepted, hgiven⟩ := parse_object _ _ once
  obtain ⟨p, hp⟩ := haccepted.mpr fun t => by
    cases t with
    | near => exact .inr ⟨_, rfl, Value.isNumber_iff.mpr ⟨_, value⟩⟩
    | _ => exact .inl rfl
  refine ⟨⟨p, hp, ?_, (hgiven p hp .far).1 rfl⟩, fun hboth => ?_⟩
  · exact Tunable.is_unique (t := .near) ((hgiven p hp .near).2 _ rfl).1 value
  · rcases (parse_object _ _ twice).1.mp hboth .near with hnone | ⟨v, hv, -⟩
    · cases hnone
    · cases hv

end Parameters

end LiveShader
