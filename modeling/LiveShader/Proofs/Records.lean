import LiveShader.Json.Record
import LiveShader.Proofs.Rendering

/-!
# Which objects are records

The members of an object may come in any order, and those that no field has are skipped whatever
they hold. What a record reads from an object is therefore a matter of the values that each field
finds under its name (`valuesOf`), and of nothing else.

* `Record.Plain` says what the fields of a record have in common: their names differ, and whether a
  value is accepted does not depend on what was read before.
* `Record.Part` is a part of the record that one field alone sets.

Results:
* `Value.skip_doc`: the tree of a value can be skipped, however deep it is.
* `Record.readMembers_iff`: an object is accepted exactly if each field finds at most one value,
  accepts it, and finds one if it is required.
* `Record.Part.value`: a part of the record is what its field read, or as it was before.
-/

namespace LiveShader.Json

/-! ## Skipping -/

mutual

/-- **The tree of a value can be skipped**, however deep it is. -/
theorem Value.skip_doc : (v : Value) → v.doc.skip = .ok ()
  | .null | .bool _ | .number _ | .text _ => rfl
  | .seq items => Value.skip_itemDocs items
  | .map members => Value.skip_memberDocs members

theorem Value.skip_itemDocs : (vs : List Value) → (Value.itemDocs vs).skip = .ok ()
  | [] => rfl
  | v :: vs => by
    rw [Value.itemDocs, Items.skip, v.skip_doc]
    exact Value.skip_itemDocs vs

theorem Value.skip_memberDocs : (ms : List (String × Value)) → (Value.memberDocs ms).skip = .ok ()
  | [] => rfl
  | (k, v) :: ms => by
    rw [Value.memberDocs, Members.skip, v.skip_doc]
    exact Value.skip_memberDocs ms

end

/-! ## The values of a field -/

/-- The values of the members with a certain key, in their order. -/
def valuesOf (members : List (String × Value)) (key : String) : List Value :=
  (members.filter fun m => m.1 = key).map Prod.snd

variable {members : List (String × Value)} {k : String} {v : Value}

@[simp] theorem valuesOf_nil : valuesOf [] k = [] := rfl

@[simp] theorem valuesOf_cons_self : valuesOf ((k, v) :: members) k = v :: valuesOf members k := by
  simp [valuesOf]

theorem valuesOf_cons_of_ne {key : String} (h : k ≠ key) :
    valuesOf ((k, v) :: members) key = valuesOf members key := by
  simp [valuesOf, h]

variable {R α β : Type} {rec : Record R} {seen : List String} {r r' : R}

/-! ## Setters -/

namespace Setter

/-- Whether a value is accepted does not depend on what was read before. -/
def Steady (put : Setter R) : Prop :=
  ∀ r₁ r₂ d r', put r₁ d = .ok r' → ∃ r'', put r₂ d = .ok r''

/-- What `get` takes out of the record is what `read` has read. -/
def Sets (put : Setter R) (get : R → α) (read : Doc → Except Problem α) : Prop :=
  ∀ r d, (put r d).map get = read d

/-- What `get` takes out of the record stays as it was. -/
def Keeps (put : Setter R) (get : R → α) : Prop :=
  ∀ r d r', put r d = .ok r' → get r' = get r

variable {read : Doc → Except Problem α} {store : α → R → R}

theorem of_eq_ok {d : Doc} :
    Setter.of read store r d = .ok r' ↔ ∃ a, read d = .ok a ∧ store a r = r' :=
  map_eq_ok

theorem steady_of : (Setter.of read store).Steady := by
  intro r₁ r₂ d r' h
  obtain ⟨a, ha, -⟩ := of_eq_ok.mp h
  exact ⟨store a r₂, of_eq_ok.mpr ⟨a, ha, rfl⟩⟩

theorem sets_of {get : R → α} (h : ∀ a r, get (store a r) = a) :
    (Setter.of read store).Sets get read := by
  intro r d
  cases ha : read d <;> simp [Setter.of, ha, Except.map, h]

theorem keeps_of {get : R → β} (h : ∀ a r, get (store a r) = get r) :
    (Setter.of read store).Keeps get := by
  intro r d r' hput
  obtain ⟨a, -, rfl⟩ := of_eq_ok.mp hput
  exact h a r

end Setter

/-! ## Objects -/

/-- The values found for a field are as it wants them: at most one, one at least if it is required,
and one that it accepts. -/
def RecordField.Admits (f : RecordField R) (r : R) (values : List Value) : Prop :=
  values = [] ∧ f.required = false ∨ ∃ v r', values = [v] ∧ f.put r v.doc = .ok r'

namespace Record

/-- The names of the fields differ, and whether a field accepts a value does not depend on what was
read before. -/
structure Plain (rec : Record R) : Prop where
  field? : ∀ f ∈ rec.fields, rec.field? f.name = some f
  steady : ∀ f ∈ rec.fields, f.put.Steady

theorem mem_of_field? {f : RecordField R} (h : rec.field? k = some f) :
    f ∈ rec.fields ∧ f.name = k :=
  ⟨List.mem_of_find?_eq_some h, by simpa using List.find?_some h⟩

/-! ### Single members -/

/-- A member that no field has is skipped. -/
theorem readMembers_unknown (h : rec.field? k = none) :
    rec.readMembers seen r (Value.memberDocs ((k, v) :: members)) =
      rec.readMembers seen r (Value.memberDocs members) := by
  rw [Value.memberDocs, readMembers_skip h, v.skip_doc]
  rfl

/-- A member that was read was put into the record. -/
theorem readMembers_put {f : RecordField R} (h : rec.field? k = some f)
    (hr : rec.readMembers seen r (Value.memberDocs ((k, v) :: members)) = .ok r') :
    ∃ r₁, f.put r v.doc = .ok r₁ ∧
      rec.readMembers (k :: seen) r₁ (Value.memberDocs members) = .ok r' := by
  rw [Value.memberDocs] at hr
  obtain ⟨_, ⟨⟩, ⟨hnone, -⟩ | ⟨f', r₁, hf, -, hput, hrest⟩⟩ := readMembers_member hr
  · rw [h] at hnone
    cases hnone
  · obtain rfl : f = f' := Option.some_inj.mp (h.symm.trans hf)
    exact ⟨r₁, hput, hrest⟩

/-- At the end every required field must have been read. -/
theorem readMembers_end :
    (∃ r', rec.readMembers seen r (Value.memberDocs []) = .ok r') ↔
      ∀ f ∈ rec.fields, f.name ∈ seen ∨ f.required = false := by
  rw [Value.memberDocs, readMembers]
  simp only [MapStop.strict, outcome, Except.bind, close]
  split
  · next f hf =>
    obtain ⟨hreq, hmiss⟩ : f.required = true ∧ f.name ∉ seen := by simpa using List.find?_some hf
    simp only [reduceCtorEq, exists_false, false_iff]
    intro hall
    simpa [hreq, hmiss] using hall f (List.mem_of_find?_eq_some hf)
  · next hf =>
    simp only [Except.ok.injEq, exists_eq', true_iff]
    intro f hmem
    have := List.find?_eq_none.mp hf f hmem
    grind

/-! ### All members -/

/-- What a field still wants of the members to come when those named in `seen` have been read. -/
def Wants (rec : Record R) (seen : List String) (members : List (String × Value))
    (f : RecordField R) : Prop :=
  if f.name ∈ seen then valuesOf members f.name = []
  else f.Admits rec.blank (valuesOf members f.name)

/-- A member concerns no field but its own. -/
theorem wants_cons_of_ne {f : RecordField R} (h : k ≠ f.name) :
    rec.Wants seen ((k, v) :: members) f ↔ rec.Wants (k :: seen) members f := by
  simp [Wants, valuesOf_cons_of_ne h, h.symm]

/-- A field that was not read before has to accept the first member of its name, and then wants no
other. -/
theorem wants_cons_self {f : RecordField R} (hs : f.name ∉ seen) :
    rec.Wants seen ((f.name, v) :: members) f ↔
      (∃ r', f.put rec.blank v.doc = .ok r') ∧ rec.Wants (f.name :: seen) members f := by
  rw [Wants, if_neg hs, Wants, if_pos (List.mem_cons_self ..), valuesOf_cons_self,
    RecordField.Admits]
  constructor
  · rintro (⟨hnil, -⟩ | ⟨v', r', hv, hput⟩)
    · cases hnil
    · obtain ⟨rfl, hnil⟩ := List.cons_eq_cons.mp hv
      exact ⟨⟨r', hput⟩, hnil⟩
  · rintro ⟨⟨r', hput⟩, hnil⟩
    exact .inr ⟨v, r', by rw [hnil], hput⟩

theorem readMembers_wants (h : rec.Plain) :
    (∃ r', rec.readMembers seen r (Value.memberDocs members) = .ok r') ↔
      ∀ f ∈ rec.fields, rec.Wants seen members f := by
  induction members generalizing seen r with
  | nil =>
    rw [readMembers_end]
    refine forall₂_congr fun f _ => ?_
    by_cases hs : f.name ∈ seen <;> simp [Wants, RecordField.Admits, hs]
  | cons m members ih =>
    obtain ⟨k, v⟩ := m
    cases hf : rec.field? k with
    | none =>
      rw [readMembers_unknown hf, ih]
      refine forall₂_congr fun f hmem => ?_
      have hne : k ≠ f.name := by
        rintro rfl
        simp [h.field? f hmem] at hf
      rw [Wants, Wants, valuesOf_cons_of_ne hne]
    | some f =>
      obtain ⟨hmem, rfl⟩ := mem_of_field? hf
      by_cases hs : f.name ∈ seen
      · rw [Value.memberDocs, readMembers_duplicate hf hs]
        simp only [reduceCtorEq, exists_false, false_iff]
        intro hall
        simpa [Wants, hs] using hall f hmem
      rw [Value.memberDocs, readMembers_field hf hs]
      cases hput : f.put r v.doc with
      | error p =>
        simp only [Except.bind, reduceCtorEq, exists_false, false_iff]
        intro hall
        obtain ⟨⟨r', hok⟩, -⟩ := (wants_cons_self hs).mp (hall f hmem)
        obtain ⟨r'', hr⟩ := h.steady f hmem _ r _ _ hok
        rw [hput] at hr
        cases hr
      | ok r₁ =>
        simp only [Except.bind]
        rw [ih]
        refine forall₂_congr fun g hg => ?_
        by_cases hne : f.name = g.name
        · have hfg : f = g :=
            Option.some_inj.mp ((h.field? f hmem).symm.trans (hne ▸ h.field? g hg))
          rw [← hfg, wants_cons_self hs]
          exact (and_iff_right (h.steady f hmem r rec.blank _ _ hput)).symm
        · exact (wants_cons_of_ne hne).symm

/-- **An object is accepted** exactly if each field finds at most one value under its name, accepts
it, and finds one if it is required. -/
theorem readMembers_iff (h : rec.Plain) :
    (∃ r', rec.readMembers [] rec.blank (Value.memberDocs members) = .ok r') ↔
      ∀ f ∈ rec.fields, f.Admits rec.blank (valuesOf members f.name) := by
  rw [readMembers_wants h]
  simp [Wants]

/-! ### Parts -/

/-- A part of a record that only the field `name` sets: `get` takes it out of the record, and
`read` is how the field reads it. -/
structure Part (rec : Record R) (name : String) (get : R → α) (read : Doc → Except Problem α) :
    Prop where
  sets : ∃ f, rec.field? name = some f ∧ f.put.Sets get read
  keeps : ∀ f ∈ rec.fields, f.name ≠ name → f.put.Keeps get

variable {name : String} {get : R → α} {read : Doc → Except Problem α}

/-- Once its field was read, it finds nothing more and the part stays as it is. -/
theorem Part.kept (h : rec.Part name get read) (hs : name ∈ seen)
    (hr : rec.readMembers seen r (Value.memberDocs members) = .ok r') :
    valuesOf members name = [] ∧ get r' = get r := by
  induction members generalizing seen r with
  | nil =>
    rw [Value.memberDocs, readMembers] at hr
    simp only [MapStop.strict, outcome, Except.bind, close] at hr
    split at hr <;> cases hr
    exact ⟨rfl, rfl⟩
  | cons m members ih =>
    obtain ⟨k, v⟩ := m
    have hne : k ≠ name := by
      rintro rfl
      obtain ⟨f, hf, -⟩ := h.sets
      rw [Value.memberDocs, readMembers_duplicate hf hs] at hr
      cases hr
    rw [valuesOf_cons_of_ne hne]
    cases hf : rec.field? k with
    | none => exact ih hs (readMembers_unknown hf ▸ hr)
    | some f =>
      obtain ⟨hmem, rfl⟩ := mem_of_field? hf
      obtain ⟨r₁, hput, hr⟩ := readMembers_put hf hr
      obtain ⟨hnil, hget⟩ := ih (List.mem_cons_of_mem _ hs) hr
      exact ⟨hnil, hget.trans (h.keeps f hmem hne _ _ _ hput)⟩

/-- **A part of the record is what its field read**, or as it was before if the field found
nothing. -/
theorem Part.value (h : rec.Part name get read) (hs : name ∉ seen)
    (hr : rec.readMembers seen r (Value.memberDocs members) = .ok r') :
    valuesOf members name = [] ∧ get r' = get r ∨
      ∃ v, valuesOf members name = [v] ∧ read v.doc = .ok (get r') := by
  induction members generalizing seen r with
  | nil =>
    rw [Value.memberDocs, readMembers] at hr
    simp only [MapStop.strict, outcome, Except.bind, close] at hr
    split at hr <;> cases hr
    exact .inl ⟨rfl, rfl⟩
  | cons m members ih =>
    obtain ⟨k, v⟩ := m
    cases hf : rec.field? k with
    | none =>
      have hne : k ≠ name := by
        rintro rfl
        obtain ⟨f, hf', -⟩ := h.sets
        simp [hf] at hf'
      rw [valuesOf_cons_of_ne hne]
      exact ih hs (readMembers_unknown hf ▸ hr)
    | some f =>
      obtain ⟨hmem, rfl⟩ := mem_of_field? hf
      obtain ⟨r₁, hput, hr⟩ := readMembers_put hf hr
      by_cases hne : f.name = name
      · subst hne
        obtain ⟨f', hf', hsets⟩ := h.sets
        obtain rfl : f = f' := Option.some_inj.mp (hf.symm.trans hf')
        obtain ⟨hnil, hget⟩ := h.kept (List.mem_cons_self ..) hr
        refine .inr ⟨v, by rw [valuesOf_cons_self, hnil], ?_⟩
        rw [hget, ← hsets r, hput]
        rfl
      · rw [valuesOf_cons_of_ne hne, ← h.keeps f hmem hne _ _ _ hput]
        exact ih (by simp [hs, Ne.symm hne]) hr

end Record

end LiveShader.Json
