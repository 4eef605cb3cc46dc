import LiveShader.Json.Doc

/-!
# Reading trees as data

Readers take a `Doc` and give a value or the first problem met on the way.

* A scalar of the wrong kind is read first, so a problem inside it wins; an array or object of the
  wrong kind is refused at its bracket.
* A record may be written as an object or as an array of its fields in order. In an object, unknown
  members are skipped and no known one may come twice; in an array, fields may be left off at the
  end and nothing may follow the last one.
-/

namespace LiveShader.Json

/-! ## What was read without a problem -/

section

variable {α β : Type} {reading : Except Problem α} {b : β}

theorem bind_eq_ok {f : α → Except Problem β} :
    reading.bind f = .ok b ↔ ∃ a, reading = .ok a ∧ f a = .ok b := by
  cases reading <;> simp [Except.bind]

theorem map_eq_ok {f : α → β} : reading.map f = .ok b ↔ ∃ a, reading = .ok a ∧ f a = b := by
  cases reading <;> simp [Except.map]

end

/-! ## Scalars -/

/-- The problem that `d` is when something else is wanted. -/
def Doc.mismatch (wanted : Wanted) : Doc → Problem
  | .bare (.error p) => p
  | .bare (.ok s) => .invalidType (.scalar s) wanted
  | .text (.error p) => p
  | .text (.ok t) => .invalidType (.text t) wanted
  | .seq _ => .invalidType .seq wanted
  | .map _ => .invalidType .map wanted
  | .missing fault => fault.strict

/-- A truth value. -/
def Doc.readBool : Doc → Except Problem Bool
  | .bare (.ok (.bool b)) => .ok b
  | d => .error (d.mismatch .bool)

/-- A text. -/
def Doc.readText : Doc → Except Problem String
  | .text (.ok t) => .ok t
  | d => .error (d.mismatch .text)

/-- A number as the nearest single. A whole number is rounded once, a double once more. -/
def Number.toSingle : Number → Float32
  | .whole (.ofNat n) => (UInt64.ofNat n).toFloat32
  | .whole n => (Int64.ofInt n).toFloat32
  | .real x => x.toFloat32

/-- A number. -/
def Doc.readSingle : Doc → Except Problem Float32
  | .bare (.ok (.number n)) => .ok n.toSingle
  | d => .error (d.mismatch .single)

/-- A value that may be `null` instead. -/
def Doc.readOptional {α : Type} (read : Doc → Except Problem α) : Doc → Except Problem (Option α)
  | .bare (.ok .null) => .ok none
  | d => (read d).map some

/-! ## Records and fixed arrays -/

/-- What the document at some place of a record does to the record. -/
abbrev Setter (R : Type) := R → Doc → Except Problem R

/-- Read a document by `read` and store the value by `store`. -/
def Setter.of {α R : Type} (read : Doc → Except Problem α) (store : α → R → R) : Setter R :=
  fun r d => (read d).map fun a => store a r

/-- A field of a record. -/
structure RecordField (R : Type) where
  name : String
  required : Bool := false
  put : Setter R

/-- How a record is written. -/
structure Record (R : Type) where
  /-- Its name in messages. -/
  title : String
  fields : List (RecordField R)
  /-- The record before anything is read. -/
  blank : R

variable {R : Type}

/-- Read items in order with the setters that are left. `index` counts the items read; `short` says
what becomes of a record whose items end early. -/
def Items.fill (short : Nat → R → Except Problem R) (index : Nat) (r : R) :
    List (Setter R) → Items → Except Problem R
  | [], .stop s => (outcome s.whenFull).map fun _ => r
  | [], .item _ _ => .error .trailingCharacters
  | _ :: _, .stop s => (outcome s.strict).bind fun _ => short index r
  | put :: setters, .item d rest => (put r d).bind fun r => rest.fill short (index + 1) r setters

/-- An array with one item for each setter. -/
def Doc.readArray (setters : List (Setter R)) (blank : R) : Doc → Except Problem R
  | .seq items =>
    items.fill (fun n _ => .error (.invalidLength n (.array setters.length))) 0 blank setters
  | d => .error (d.mismatch (.array setters.length))

namespace Record

/-- The record in messages. -/
def wanted (rec : Record R) : Wanted :=
  .record rec.title rec.fields.length

/-- The field with a given name. -/
def field? (rec : Record R) (name : String) : Option (RecordField R) :=
  rec.fields.find? fun f => f.name == name

/-- What becomes of a record that has only its first `n` items. -/
def short (rec : Record R) (n : Nat) (r : R) : Except Problem R :=
  match (rec.fields.drop n).findIdx? fun f => f.required with
  | some k => .error (.invalidLength (n + k) rec.wanted)
  | none => .ok r

/-- What becomes of a record whose members named in `seen` have been read. -/
def close (rec : Record R) (seen : List String) (r : R) : Except Problem R :=
  match rec.fields.find? fun f => f.required && !seen.contains f.name with
  | some f => .error (.missingField f.name)
  | none => .ok r

/-- Read members into a record of which the members named in `seen` have been read. -/
def readMembers (rec : Record R) (seen : List String) (r : R) : Members → Except Problem R
  | .stop s => (outcome s.strict).bind fun _ => rec.close seen r
  | .member key d rest => key.bind fun name =>
    match rec.field? name with
    | none => d.skip.bind fun _ => rec.readMembers seen r rest
    | some f =>
      if seen.contains name then .error (.duplicateField name)
      else (f.put r d).bind fun r => rec.readMembers (name :: seen) r rest

section

variable {rec : Record R} {seen : List String} {r r' : R} {k : String} {d : Doc} {rest : Members}

/-- A member that no field has is skipped. -/
theorem readMembers_skip (h : rec.field? k = none) :
    rec.readMembers seen r (.member (.ok k) d rest) =
      d.skip.bind fun _ => rec.readMembers seen r rest := by
  rw [readMembers]
  simp only [Except.bind, h]

/-- A member comes once only. -/
theorem readMembers_duplicate {f : RecordField R} (h : rec.field? k = some f) (hk : k ∈ seen) :
    rec.readMembers seen r (.member (.ok k) d rest) = .error (.duplicateField k) := by
  have hc : seen.contains k = true := by simpa using hk
  rw [readMembers]
  simp only [Except.bind, h, hc, if_true]

/-- A member of a field that was not read before is put into the record. -/
theorem readMembers_field {f : RecordField R} (h : rec.field? k = some f) (hk : k ∉ seen) :
    rec.readMembers seen r (.member (.ok k) d rest) =
      (f.put r d).bind fun r => rec.readMembers (k :: seen) r rest := by
  have hc : seen.contains k = false := by simpa using hk
  rw [readMembers]
  simp only [Except.bind, h, hc, Bool.false_eq_true, if_false]

/-- What it takes to read a member. -/
theorem readMembers_member {key : Except Problem String}
    (h : rec.readMembers seen r (.member key d rest) = .ok r') :
    ∃ name, key = .ok name ∧ (rec.field? name = none ∧ d.skip = .ok () ∧
        rec.readMembers seen r rest = .ok r' ∨
      ∃ f r₁, rec.field? name = some f ∧ name ∉ seen ∧ f.put r d = .ok r₁ ∧
        rec.readMembers (name :: seen) r₁ rest = .ok r') := by
  cases key with
  | error p => cases h
  | ok name =>
    refine ⟨name, rfl, ?_⟩
    cases hf : rec.field? name with
    | none =>
      rw [readMembers_skip hf] at h
      obtain ⟨⟨⟩, hskip, hrest⟩ := bind_eq_ok.mp h
      exact .inl ⟨rfl, hskip, hrest⟩
    | some f =>
      by_cases hs : name ∈ seen
      · rw [readMembers_duplicate hf hs] at h
        cases h
      rw [readMembers_field hf hs] at h
      obtain ⟨r₁, hput, hrest⟩ := bind_eq_ok.mp h
      exact .inr ⟨f, r₁, rfl, hs, hput, hrest⟩

end

/-- Read a record. -/
def read (rec : Record R) : Doc → Except Problem R
  | .seq items => items.fill rec.short 0 rec.blank (rec.fields.map RecordField.put)
  | .map members => rec.readMembers [] rec.blank members
  | d => .error (d.mismatch rec.wanted)

end Record

/-! ## Whole texts -/

/-- Read a text that holds one value and nothing else. -/
def readAll {α : Type} (read : Doc → Except Problem α) (text : String) : Except Problem α :=
  let (d, rest) := Doc.ofTokens (tokens text.toList)
  (read d).bind fun a => if rest.isEmpty then .ok a else .error .trailingCharacters

/-- A text without anything after its value is read as its tree is. -/
theorem readAll_of_tokens {α : Type} {read : Doc → Except Problem α} {text : String} {d : Doc}
    (h : Doc.ofTokens (tokens text.toList) = (d, [])) : readAll read text = read d := by
  rw [readAll, h]
  cases hd : read d <;> simp [hd, Except.bind]

end LiveShader.Json
