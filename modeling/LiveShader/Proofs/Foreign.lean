import LiveShader.Proofs.Deletion
import LiveShader.Proofs.Clean
import Mathlib.Data.List.Nodup

/-!
# Blocks in another language

A text may have blocks that are not shaders: commands to run, a configuration, a script. By its
label such a block names no stage, and a block that names no stage is looked at as if it had no
label. So a foreign block is taken for a shader wherever it comes before the shaders.

* `fits` says of a block alone whether a field could take it. A field takes the first block that
  fits it.
* A block that no field takes may be left out (`settle_foldl_filter`), since where a block goes
  depends on what is taken and on nothing else.

Results:
* `shadersFirst_iff`: no foreign block is taken exactly if each one that fits a field comes behind a
  shader that fits it.
* `only_shaders_iff`: when the code of a text is made of its shaders alone, and when its foreign
  blocks can be deleted.
-/

namespace LiveShader

namespace Fence

open LiveShader.Text

/-! ## Which blocks fit a field -/

section First

variable {α : Type} {p : Nat → α → Bool} {r : α → Bool} {l : List α}

/-- The first place with `p` has `r` as well exactly if each place that has `p` without `r` comes
second. -/
theorem led_and_iff : Led (fun k a => p k a && r a) (fun k a => p k a && !r a) l ↔
    ∀ k a, firstPlace p l = some k → l[k]? = some a → r a = true := by
  have hsplit : (fun k a => p k a && r a || p k a && !r a) = p := by
    funext k a
    rw [← Bool.and_or_distrib_left, Bool.or_not_self, Bool.and_true]
  rw [← firstPlace_or_eq_iff fun k a h => by simp_all, hsplit]
  constructor
  · intro heq k a hk ha
    obtain ⟨⟨a', ha', hboth⟩, -⟩ := firstPlace_eq_some.mp (heq.symm.trans hk)
    obtain rfl : a' = a := Option.some_inj.mp (ha'.symm.trans ha)
    exact (Bool.and_eq_true_iff.mp hboth).2
  · intro hfirst
    cases hk : firstPlace p l with
    | none =>
      have hnone := firstPlace_eq_none.mp hk
      exact (firstPlace_eq_none.mpr fun k a ha => by simp [hnone k a ha]).symm
    | some k =>
      obtain ⟨⟨a, ha, hp⟩, hbefore⟩ := firstPlace_eq_some.mp hk
      refine (firstPlace_eq_some.mpr ⟨⟨a, ha, by simp [hp, hfirst k a hk ha]⟩, ?_⟩).symm
      exact fun j hj b hb => by simp [hbefore j hj b hb]

end First

/-- Whether a field could take the block with the number `k` and this label. -/
def fits (h : Hints) (labels : List (List Char)) : Slot → Nat → List Char → Bool
  | .vertex, _, label => namesVertex label || h.vertex && isGeneric label
  | .fragment, k, label =>
    namesFragment label || h.fragment && isGeneric label && (vertexPlace h labels).any (· < k)
  | .combined, k, label =>
    isGeneric label && vertexPlace h labels != some k && fragmentPlace h labels != some k

variable {h : Hints} {labels : List (List Char)} {slot : Slot}

theorem firstFor_eq (h : Hints) (labels : List (List Char)) (slot : Slot) :
    firstFor h labels slot = firstPlace (fits h labels slot) labels := by
  cases slot <;> rfl

/-- A field is not dropped: it is for a stage, or one of the stages is not there. -/
def Kept (h : Hints) (labels : List (List Char)) (slot : Slot) : Prop :=
  slot = .combined → ¬ ((vertexPlace h labels).isSome ∧ (fragmentPlace h labels).isSome)

/-- The place of the block for a field. -/
def Choice.place (c : Choice) : Slot → Option Nat
  | .vertex => c.vertex
  | .fragment => c.fragment
  | .combined => c.combined

theorem textOf_code (c : Choice) (bodies : List (List Char)) (slot : Slot) :
    textOf (c.code bodies) slot = textAt bodies (c.place slot) := by
  cases slot <;> rfl

/-- A field that is not dropped has the first block that fits it. -/
theorem place_eq_some {k : Nat} : (Choice.ofLabels h labels).place slot = some k ↔
    Kept h labels slot ∧ firstFor h labels slot = some k := by
  cases slot with
  | combined =>
    simp only [Choice.place, Choice.ofLabels, firstFor, Kept, true_implies]
    split <;> simp_all
  | _ => simp [Choice.place, Choice.ofLabels, firstFor, Kept]

/-! ## Blocks that are not chosen -/

variable {keep : Block → Bool} {bs : List Block} {found found' : ShaderCode} {P : Slot → Prop}

/-- What a block does to the fields with `P`, the stages among them, depends on these fields. -/
theorem textOf_assign_congr (hv : P .vertex) (hf : P .fragment)
    (heq : ∀ slot, P slot → textOf found slot = textOf found' slot) (b : Block)
    (hslot : P slot) : textOf (assign h found b) slot = textOf (assign h found' b) slot := by
  have hvertex : found.vertex = found'.vertex := heq .vertex hv
  have hfragment : found.fragment = found'.fragment := heq .fragment hf
  have hsame : slotFor h found b.label = slotFor h found' b.label := by
    rw [slotFor, slotFor, hvertex, hfragment]
  rw [assign, assign, hsame]
  split
  · exact heq slot hslot
  · rw [textOf_fill, textOf_fill, heq slot hslot]

/-- The last block does nothing to a field that it is not chosen for. -/
theorem textOf_assign_last {b : Block} (hbs : ∀ b ∈ bs, b.body ≠ []) (hb : b.body ≠ [])
    (hlast : firstFor h (bs.map Block.label ++ [b.label]) slot ≠ some bs.length) :
    textOf (assign h (bs.foldl (assign h) {}) b) slot = textOf (bs.foldl (assign h) {}) slot := by
  have hfound := isSome_foldl_assign h bs hbs
  rw [textOf_assign hfound hb]
  cases hsome : textOf (bs.foldl (assign h) {}) slot with
  | some t => rfl
  | none =>
    have hnone : firstFor h (bs.map Block.label) slot = none := by
      rw [← Option.not_isSome_iff_eq_none, ← hfound, hsome]
      simp
    rw [firstFor_snoc, hnone, List.length_map] at hlast
    cases hsuits : suits h (bs.map Block.label) b.label slot with
    | false => rfl
    | true => simp [orNext, hsuits] at hlast

/-- Blocks that are not chosen for the fields with `P`, the stages among them, leave no trace
there. -/
theorem textOf_foldl_filter (hv : P .vertex) (hf : P .fragment) (hbs : ∀ b ∈ bs, b.body ≠ [])
    (hchosen : ∀ slot, P slot → ∀ k b, firstFor h (bs.map Block.label) slot = some k →
      bs[k]? = some b → keep b = true) (hslot : P slot) :
    textOf ((bs.filter keep).foldl (assign h) {}) slot = textOf (bs.foldl (assign h) {}) slot := by
  induction bs using List.reverseRecOn generalizing slot with
  | nil => rfl
  | append_singleton bs b ih =>
    have hbs' : ∀ b ∈ bs, b.body ≠ [] := fun b' hb' => hbs b' (List.mem_append_left _ hb')
    rw [List.map_append, List.map_singleton] at hchosen
    have ih' (slot : Slot) (hslot : P slot) := ih hbs' (fun slot hslot k b' hk hb' => by
      refine hchosen slot hslot k b' ?_ ?_
      · rw [firstFor_snoc, hk]
        rfl
      · rw [List.getElem?_append_left (List.getElem?_eq_some_iff.mp hb').1, hb']) hslot
    rw [List.filter_append, List.foldl_append, List.foldl_append, List.filter_singleton]
    cases hkeep : keep b with
    | true => exact textOf_assign_congr hv hf ih' b hslot
    | false =>
      have hlast : firstFor h (bs.map Block.label ++ [b.label]) slot ≠ some bs.length := by
        intro hk
        have hkept := hchosen slot hslot _ b hk (by simp)
        rw [hkeep] at hkept
        cases hkept
      rw [List.foldl_cons, List.foldl_nil, textOf_assign_last hbs' (hbs b (by simp)) hlast]
      exact ih' slot hslot

/-- **Blocks that are not chosen** may be left out. -/
theorem settle_foldl_filter (hbs : ∀ b ∈ bs, b.body ≠ [])
    (hchosen : ∀ slot k b, (Choice.ofLabels h (bs.map Block.label)).place slot = some k →
      bs[k]? = some b → keep b = true) :
    settle ((bs.filter keep).foldl (assign h) {}) = settle (bs.foldl (assign h) {}) := by
  have hsome := isSome_foldl_assign h bs hbs
  by_cases hboth : (vertexPlace h (bs.map Block.label)).isSome = true ∧
      (fragmentPlace h (bs.map Block.label)).isSome = true
  · -- the snippets may differ, but they are dropped
    have hstages (slot : Slot) (hslot : slot ≠ .combined) :=
      textOf_foldl_filter (P := (· ≠ .combined)) nofun nofun hbs (fun slot hslot k b hk =>
        hchosen slot k b (place_eq_some.mpr ⟨fun h => absurd h hslot, hk⟩)) hslot
    have hvertex : ((bs.filter keep).foldl (assign h) {}).vertex =
        (bs.foldl (assign h) {}).vertex := hstages .vertex nofun
    have hfragment : ((bs.filter keep).foldl (assign h) {}).fragment =
        (bs.foldl (assign h) {}).fragment := hstages .fragment nofun
    have hv : (bs.foldl (assign h) {}).vertex.isSome = true := (hsome .vertex).trans hboth.1
    have hf : (bs.foldl (assign h) {}).fragment.isSome = true := (hsome .fragment).trans hboth.2
    simp only [settle, hvertex, hfragment, hv, hf, Bool.and_self, if_true]
  · congr 1
    exact eq_of_textOf fun slot => textOf_foldl_filter (P := fun _ => True) trivial trivial hbs
      (fun slot _ k b hk => hchosen slot k b (place_eq_some.mpr ⟨fun _ => hboth, hk⟩)) trivial

/-! ## Foreign blocks -/

/-- A label that a shader has, or none. -/
def namesShader (label : List Char) : Bool :=
  namesVertex label || namesFragment label || label = "glsl".toList || label.isEmpty

/-- Each foreign block that fits a field comes behind a shader that fits it. A snippet that is
dropped does not count. -/
def ShadersFirst (h : Hints) (labels : List (List Char)) : Prop :=
  ∀ slot, Kept h labels slot → Led (fun k label => fits h labels slot k label && namesShader label)
    (fun k label => fits h labels slot k label && !namesShader label) labels

/-- **No foreign block is taken** exactly if the shaders come first. -/
theorem shadersFirst_iff : ShadersFirst h labels ↔
    ∀ slot k label, (Choice.ofLabels h labels).place slot = some k → labels[k]? = some label →
      namesShader label = true := by
  simp only [ShadersFirst, led_and_iff, ← firstFor_eq, place_eq_some, and_imp]
  constructor
  · exact fun hfirst slot k label hkept => hfirst slot hkept k label
  · exact fun hfirst slot hkept k label => hfirst slot k label hkept

/-- Every text of the code is the body of a block with a shader's label, or without one. -/
def OnlyShaders (text : String) : Prop :=
  ∀ slot t, textOf (ShaderCode.ofProse text) slot = some t →
    ∃ b ∈ blocks text.toList, namesShader b.label = true ∧ t = String.ofList b.body

/-- A text without its foreign blocks, fence lines included. -/
def withoutForeign (text : String) : String :=
  String.ofList (without (fun label => !namesShader label) text.toList)

/-- The lines that are deleted with the foreign blocks speak of no stage. -/
def ForeignSilent (text : String) : Prop :=
  Hints.ofLines (linesWithin (fun label => !namesShader label) text.toList) = ⟨false, false⟩

theorem blocks_withoutForeign (text : String) : blocks (withoutForeign text).toList =
    (blocks text.toList).filter fun b => namesShader b.label := by
  rw [withoutForeign, String.toList_ofList, blocks_without]
  simp only [Bool.not_not]

variable {text : String}

/-- Foreign blocks that are not taken and speak of no stage can be deleted. -/
theorem ofProse_withoutForeign
    (hfirst : ShadersFirst (Hints.ofText text.toList) ((written text.toList).map Block.label))
    (hsilent : ForeignSilent text) :
    ShaderCode.ofProse (withoutForeign text) = ShaderCode.ofProse text := by
  have hhints : Hints.ofText (withoutForeign text).toList = Hints.ofText text.toList := by
    rw [withoutForeign, String.toList_ofList, Hints.ofText_without hsilent]
  have hwritten : written (withoutForeign text).toList =
      (written text.toList).filter fun b => namesShader b.label := by
    rw [written, blocks_withoutForeign, written, List.filter_filter, List.filter_filter]
    simp only [Bool.and_comm]
  rw [ShaderCode.ofProse, ShaderCode.ofProse, hhints, ← foldl_assign_written,
    ← foldl_assign_written, hwritten]
  refine settle_foldl_filter (fun b hb => body_ne_of_mem_written hb) fun slot k b hk hb => ?_
  exact shadersFirst_iff.mp hfirst slot k b.label hk (by rw [List.getElem?_map, hb]; rfl)

/-- Where the shaders come first, they alone make the code. -/
theorem onlyShaders_of_shadersFirst
    (hfirst : ShadersFirst (Hints.ofText text.toList) ((written text.toList).map Block.label)) :
    OnlyShaders text := by
  intro slot t ht
  rw [ofProse_eq_code, textOf_code] at ht
  obtain ⟨k, hk, hbody⟩ := Option.bind_eq_some_iff.mp ht
  rw [List.getElem?_map, Option.map_map] at hbody
  obtain ⟨b, hb, rfl⟩ := Option.map_eq_some_iff.mp hbody
  refine ⟨b, (List.mem_filter.mp (List.mem_of_getElem? hb)).1, ?_, rfl⟩
  exact shadersFirst_iff.mp hfirst slot k b.label hk (by rw [List.getElem?_map, hb]; rfl)

/-- Where no two blocks have one body, it shows if a foreign block is taken. -/
theorem shadersFirst_of_onlyShaders (hnodup : ((written text.toList).map Block.body).Nodup)
    (honly : OnlyShaders text) :
    ShadersFirst (Hints.ofText text.toList) ((written text.toList).map Block.label) := by
  refine shadersFirst_iff.mpr fun slot k label hk hlabel => ?_
  rw [List.getElem?_map] at hlabel
  obtain ⟨b, hb, rfl⟩ := Option.map_eq_some_iff.mp hlabel
  have ht : textOf (ShaderCode.ofProse text) slot = some (String.ofList b.body) := by
    rw [ofProse_eq_code, textOf_code, hk, textAt, Option.bind_some, List.getElem?_map, hb]
    rfl
  obtain ⟨b', hb', hshader, hsame⟩ := honly slot _ ht
  have hbody : b.body = b'.body := String.ofList_injective hsame
  have hmem : b ∈ written text.toList := List.mem_of_getElem? hb
  have hmem' : b' ∈ written text.toList := by
    refine List.mem_filter.mpr ⟨hb', ?_⟩
    rw [← hbody]
    exact (List.mem_filter.mp hmem).2
  rwa [List.inj_on_of_nodup_map hnodup hmem hmem' hbody]

/-- A text whose foreign blocks can be deleted has its code from the shaders. -/
theorem onlyShaders_of_withoutForeign
    (h : ShaderCode.ofProse (withoutForeign text) = ShaderCode.ofProse text) :
    OnlyShaders text := by
  intro slot t ht
  obtain ⟨offered, htraced⟩ := exists_traced_ofProse (withoutForeign text)
  rw [← h] at ht
  obtain ⟨k, b, hk, -, rfl, -⟩ := htraced slot t ht
  rw [blocks_withoutForeign] at hk
  obtain ⟨hb, hshader⟩ := List.mem_filter.mp (List.mem_of_getElem? hk)
  exact ⟨b, hb, hshader, rfl⟩

/-- **When shaders alone are taken.** If each foreign block that fits a field comes behind a shader
that fits it, the code of the text is made of its shaders, and the foreign blocks can be deleted
unless they speak of a stage. Otherwise a foreign block is taken, which shows unless a shader has
the same body; and then deleting the foreign blocks changes the code. -/
theorem only_shaders_iff (text : String) :
    let bs := (blocks text.toList).filter fun b => !b.body.isEmpty
    let shadersFirst := ShadersFirst (Hints.ofText text.toList) (bs.map Block.label)
    (shadersFirst → OnlyShaders text ∧ (ForeignSilent text →
      ShaderCode.ofProse (withoutForeign text) = ShaderCode.ofProse text)) ∧
    (ShaderCode.ofProse (withoutForeign text) = ShaderCode.ofProse text → OnlyShaders text) ∧
    ((bs.map Block.body).Nodup → OnlyShaders text → shadersFirst) :=
  ⟨fun hfirst => ⟨onlyShaders_of_shadersFirst hfirst, ofProse_withoutForeign hfirst⟩,
    onlyShaders_of_withoutForeign, shadersFirst_of_onlyShaders⟩

/-- Commands behind the shader are not taken and can be deleted. -/
theorem only_shaders_before_bash :
    let text := "```glsl\nprecision highp float;\n```\nInstall:\n```bash\nnpm i\n```\n"
    ShadersFirst (Hints.ofText text.toList) ((written text.toList).map Block.label) ∧
      ForeignSilent text ∧ OnlyShaders text ∧ withoutForeign text ≠ text ∧
      ShaderCode.ofProse (withoutForeign text) = ShaderCode.ofProse text := by
  intro text
  have hfirst : ShadersFirst (Hints.ofText text.toList)
      ((written text.toList).map Block.label) := by
    intro slot _
    cases slot <;> decide +kernel
  have hsilent : ForeignSilent text := by unfold ForeignSilent; decide +kernel
  obtain ⟨honly, hdelete⟩ := (only_shaders_iff text).1 hfirst
  exact ⟨hfirst, hsilent, honly, by decide +kernel, hdelete hsilent⟩

/-- **Commands to run are taken for a shader**, in front of the shader itself. -/
theorem taken_from_bash :
    let text := "Install:\n```bash\nnpm i\n```\n```glsl\nprecision highp float;\n```\n"
    ForeignSilent text ∧ ShaderCode.ofProse text = { combined := some "npm i" } ∧
      ShaderCode.ofProse (withoutForeign text) = { combined := some "precision highp float;" } ∧
      ¬ OnlyShaders text := by
  intro text
  have hcode : ShaderCode.ofProse text = { combined := some "npm i" } := by decide +kernel
  refine ⟨by unfold ForeignSilent; decide +kernel, hcode, by decide +kernel, fun honly => ?_⟩
  obtain ⟨b, hb, hshader, hbody⟩ := honly .combined "npm i" (by rw [hcode]; rfl)
  have hnone : ∀ b ∈ blocks text.toList, namesShader b.label = true →
      "npm i" ≠ String.ofList b.body := by decide +kernel
  exact hnone b hb hshader hbody

end Fence

end LiveShader
