import LiveShader.Answer.Wire
import LiveShader.Proofs.Rendering

/-!
# Answers survive the wire

An answer that is written and read again is the same answer. Writing leaves out what is absent, and
reading starts from a record in which everything is absent, so an optional field is dealt with once
and for all: whether its member is there or not, the field is afterwards as it was written.

Results:
* `Json.Record.readMembers_optional`: what reading an optional member comes to.
* `Answer.decode_encode`: reading what was written gives back the answer.
-/

namespace LiveShader

namespace Json

variable {R α : Type} {rec : Record R} {f : RecordField R} {name : String} {seen : List String}
variable {r result : R} {members : List (String × Value)}

/-- A member of a field that was not read yet is put into the record. -/
theorem Record.readMembers_cons (hf : rec.field? name = some f) (hnew : name ∉ seen) {v : Value}
    (r' : R) (hput : f.put r v.doc = .ok r') :
    rec.readMembers seen r (Value.memberDocs ((name, v) :: members)) =
      rec.readMembers (name :: seen) r' (Value.memberDocs members) := by
  have hc : seen.contains name = false := by simpa using hnew
  simp only [Value.memberDocs, Record.readMembers, Except.bind, hf, hc, hput]
  rfl

/-- Nothing is missing at the end if every required field was read. -/
theorem Record.readMembers_nil (h : ∀ f ∈ rec.fields, f.required = true → f.name ∈ seen) :
    rec.readMembers seen r (Value.memberDocs []) = .ok r := by
  have hf : rec.fields.find? (fun f => f.required && !seen.contains f.name) = none := by
    rw [List.find?_eq_none]
    intro f hf hm
    rw [Bool.and_eq_true, Bool.not_eq_true', List.contains_eq_mem, decide_eq_false_iff_not] at hm
    exact hm.2 (h f hf hm.1)
  rw [Value.memberDocs, Record.readMembers, Record.close, hf]
  rfl

/-- **An optional member** sets its field or, if it was left out, leaves the field alone. All that
was read before is `known`, and what comes afterwards has to work with this member or without. -/
theorem Record.readMembers_optional {known : List String} {write : α → Value} {store : α → R → R}
    (o : Option α) (hf : rec.field? name = some f) (hknown : seen ⊆ known) (hnew : name ∉ known)
    (hput : ∀ a r, f.put r (write a).doc = .ok (store a r))
    (hrest : ∀ seen', seen ⊆ seen' → seen' ⊆ name :: known →
      rec.readMembers seen' (o.elim r fun a => store a r) (Value.memberDocs members) = .ok result) :
    rec.readMembers seen r
      (Value.memberDocs ((o.map fun a => (name, write a)).toList ++ members)) = .ok result := by
  cases o with
  | none => exact hrest seen (List.Subset.refl _) (List.subset_cons_of_subset _ hknown)
  | some a =>
    exact (Record.readMembers_cons hf (fun h => hnew (hknown h)) _ (hput a r)).trans
      (hrest _ (List.subset_cons_self _ _) (List.cons_subset_cons _ hknown))

end Json

open Json

/-- Shader code is read as it was written. -/
theorem ShaderCode.read_toValue (c : ShaderCode) :
    ShaderCode.record.read c.toValue.doc = .ok c := by
  have hm : c.toValue.doc = .map (Value.memberDocs
      ((c.vertex.map fun t => ("vertexShader", Value.text t)).toList ++
        ((c.fragment.map fun t => ("fragmentShader", Value.text t)).toList ++
          ((c.combined.map fun t => ("combinedShader", Value.text t)).toList ++ [])))) := by
    rw [toValue, Value.doc, List.append_nil, List.append_assoc]
  rw [hm, Record.read]
  refine Record.readMembers_optional c.vertex rfl (List.Subset.refl []) (by simp) (fun _ _ => rfl)
    fun seen _ hknown => ?_
  refine Record.readMembers_optional c.fragment rfl hknown (by simp) (fun _ _ => rfl)
    fun seen _ hknown => ?_
  refine Record.readMembers_optional c.combined rfl hknown (by simp) (fun _ _ => rfl)
    fun seen _ _ => ?_
  rw [Record.readMembers_nil (by simp [record])]
  obtain ⟨_ | vertex, _ | fragment, _ | combined⟩ := c <;> rfl

/-- An answer is read as it was written. -/
theorem Answer.read_toValue (a : Answer) : Answer.record.read a.toValue.doc = .ok a := by
  have hm : a.toValue.doc = .map (Value.memberDocs
      (("success", Value.bool a.success) ::
        ((a.code.map fun c => ("data", c.toValue)).toList ++
          ((a.reason.map fun t => ("error", Value.text t)).toList ++
            ((a.raw.map fun t => ("rawOutput", Value.text t)).toList ++ []))))) := by
    rw [toValue, Value.doc, List.append_nil, List.cons_append, List.cons_append, List.append_assoc]
  have hcode (c : ShaderCode) (a : Answer) :
      Setter.of (Doc.readOptional ShaderCode.record.read) (fun c a => { a with code := c }) a
        c.toValue.doc = .ok { a with code := some c } := by
    obtain ⟨members, hd⟩ : ∃ members, c.toValue.doc = .map members :=
      ⟨_, by rw [ShaderCode.toValue, Value.doc]⟩
    have hread := c.read_toValue
    rw [hd] at hread ⊢
    rw [Setter.of, Doc.readOptional, hread]
    · rfl
    · simp
  rw [hm, Record.read, Record.readMembers_cons rfl (by simp) { success := a.success } rfl]
  refine Record.readMembers_optional a.code rfl (List.Subset.refl _) (by simp) hcode
    fun seen hseen hknown => ?_
  refine Record.readMembers_optional a.reason rfl hknown (by simp) (fun _ _ => rfl)
    fun seen' hseen' hknown => ?_
  refine Record.readMembers_optional a.raw rfl hknown (by simp) (fun _ _ => rfl)
    fun seen'' hseen'' _ => ?_
  have hsuccess : "success" ∈ seen'' := hseen'' (hseen' (hseen (List.mem_singleton_self _)))
  rw [Record.readMembers_nil (by simp [record, hsuccess])]
  obtain ⟨success, _ | code, _ | reason, _ | raw⟩ := a <;> rfl

theorem Answer.isWordy_toValue (a : Answer) : a.toValue.isWordy = true := by
  obtain ⟨success, _ | ⟨_ | vertex, _ | fragment, _ | combined⟩, _ | reason, _ | raw⟩ := a <;> rfl

/-- **Answers survive the wire**: an answer that is written and read again is the same. -/
theorem Answer.decode_encode (a : Answer) : Answer.decode a.encode = .ok a := by
  have hp : Answer.parse a.encode = .ok a := by
    rw [parse, encode, readAll, String.toList_ofList, a.toValue.ofTokens_render a.isWordy_toValue]
    dsimp only
    rw [a.read_toValue]
    rfl
  rw [decode, hp]
  rfl

end LiveShader
