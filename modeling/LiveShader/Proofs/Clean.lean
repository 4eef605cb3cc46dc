import LiveShader.Proofs.FenceLines
import LiveShader.Proofs.ProseStages
import Mathlib.Data.List.DropRight

/-!
# Code that is taken from a text is clean

The body of a block is cut out between two fence lines and then trimmed, which may take away whole
lines and parts of lines. What is left is a piece of the text that has no fence line itself, so
there is nothing in it to be taken out a second time.

* A text has a fence line if three backticks stand in it with blanks alone between them and the
  start of a line (`not_unfenced_iff`). Said this way, it is plain that what stands behind does not
  matter (`Unfenced.left`), nor do blanks in front (`Unfenced.of_blanks`).

Results:
* `Unfenced.trim`: trimming makes no fence line.
* `ofProse_clean`: what the code of a text is like.
-/

namespace LiveShader

/-! ## Trimming -/

namespace Text

variable {cs : List Char}

theorem trimStart_eq_self (h : ∀ c ∈ cs.head?, isBlank c = false) : trimStart cs = cs := by
  cases cs with
  | nil => rfl
  | cons c cs => simp [trimStart, h c rfl]

theorem trimEnd_prefix (cs : List Char) : trimEnd cs <+: cs :=
  List.rdropWhile_prefix isBlank cs

/-- A trimmed text is a piece of the text, with blanks before it. -/
theorem exists_trim (cs : List Char) :
    ∃ blanks after, cs = blanks ++ (trim cs ++ after) ∧ ∀ c ∈ blanks, isBlank c = true := by
  obtain ⟨after, hafter⟩ := trimEnd_prefix (trimStart cs)
  refine ⟨cs.takeWhile isBlank, after, ?_, fun c hc => List.mem_takeWhile_imp hc⟩
  rw [trim, hafter]
  exact List.takeWhile_append_dropWhile.symm

theorem trim_trim (cs : List Char) : trim (trim cs) = trim cs := by
  have hhead : trimStart (trim cs) = trim cs := by
    refine trimStart_eq_self fun c hc => ?_
    obtain ⟨after, hafter⟩ := trimEnd_prefix (trimStart cs)
    obtain ⟨r, hr⟩ : ∃ r, trim cs = c :: r := List.head?_eq_some_iff.mp hc
    have hstart : trimStart cs = c :: (r ++ after) := by
      rw [← hafter, show trimEnd (trimStart cs) = c :: r from hr, List.cons_append]
    exact head_trimStart hstart
  rw [trim, hhead, trim]
  exact List.rdropWhile_idempotent isBlank _

end Text

/-! ## Texts without fence lines -/

namespace Fence

open LiveShader.Text

variable {text a b : List Char}

/-- A fence line has blanks alone before its backticks. -/
theorem isFence_iff {line : List Char} : isFence line = true ↔
    ∃ blanks rest, line = blanks ++ (ticks ++ rest) ∧ ∀ c ∈ blanks, isBlank c = true := by
  rw [isFence, List.isPrefixOf_iff_prefix]
  constructor
  · rintro ⟨rest, hrest⟩
    refine ⟨line.takeWhile isBlank, rest, ?_, fun c hc => List.mem_takeWhile_imp hc⟩
    rw [hrest]
    exact List.takeWhile_append_dropWhile.symm
  · rintro ⟨blanks, rest, rfl, hblanks⟩
    refine ⟨rest, ?_⟩
    rw [trimStart, List.dropWhile_append_of_pos hblanks]
    rfl

/-- No line of the text is a fence line. -/
def Unfenced (text : List Char) : Prop :=
  ∀ l ∈ lines text, isFence l = false

instance (text : List Char) : Decidable (Unfenced text) :=
  inferInstanceAs (Decidable (∀ l ∈ lines text, isFence l = false))

/-- Backticks behind nothing but blanks are in a fence line, even if the blanks go over lines. -/
theorem exists_isFence_lines {blanks : List Char} (h : ∀ c ∈ blanks, isBlank c = true)
    (after : List Char) : ∃ l ∈ lines (blanks ++ (ticks ++ after)), isFence l = true := by
  induction blanks with
  | nil =>
    obtain ⟨l, ls, hlines⟩ : ∃ l ls, lines (ticks ++ after) = (ticks ++ l) :: ls := by
      cases h : lines after with
      | nil => exact ⟨[], [], by simp [ticks, lines, h]⟩
      | cons l ls => exact ⟨l, ls, by simp [ticks, lines, h]⟩
    rw [List.nil_append, hlines]
    exact ⟨_, List.mem_cons_self .., isFence_iff.mpr ⟨[], l, rfl, by simp⟩⟩
  | cons c blanks ih =>
    obtain ⟨hc, hblanks⟩ := List.forall_mem_cons.mp h
    obtain ⟨l, hl, hfence⟩ := ih hblanks
    rw [List.cons_append, lines]
    split
    · exact ⟨l, List.mem_cons_of_mem _ hl, hfence⟩
    · cases hlines : lines (blanks ++ (ticks ++ after)) with
      | nil => simp [hlines] at hl
      | cons k ks =>
        rw [hlines] at hl
        rcases List.mem_cons.mp hl with rfl | hl
        · refine ⟨c :: l, List.mem_cons_self .., ?_⟩
          simpa [isFence, trimStart, hc] using hfence
        · exact ⟨l, List.mem_cons_of_mem _ hl, hfence⟩

/-- **A text has a fence line** exactly if three backticks stand in it with blanks alone between
them and the start of a line. -/
theorem not_unfenced_iff : ¬ Unfenced text ↔
    ∃ before blanks after, text = before ++ (blanks ++ (ticks ++ after)) ∧
      (before = [] ∨ before.getLast? = some '\n') ∧ ∀ c ∈ blanks, isBlank c = true := by
  have hexists : ¬ Unfenced text ↔ ∃ l ∈ lines text, isFence l = true := by simp [Unfenced]
  rw [hexists]
  constructor
  · rintro ⟨l, hl, hfence⟩
    obtain ⟨blanks, rest, rfl, hblanks⟩ := isFence_iff.mp hfence
    obtain ⟨ls, ls', hls⟩ := List.append_of_mem hl
    have hcut := lines_cut text
    rw [hls] at hcut
    refine ⟨ls.flatten, blanks, rest ++ ls'.flatten, ?_, hcut.before, hblanks⟩
    simp [← hcut.joined]
  · rintro ⟨before, blanks, after, rfl, hbefore, hblanks⟩
    obtain ⟨l, hl, hfence⟩ := exists_isFence_lines hblanks after
    rw [lines_append hbefore]
    exact ⟨l, List.mem_append_right _ hl, hfence⟩

namespace Unfenced

/-- What stands behind makes no line less of a fence line. -/
theorem left (h : Unfenced (a ++ b)) : Unfenced a := by
  by_contra hfenced
  obtain ⟨before, blanks, after, rfl, hrest⟩ := not_unfenced_iff.mp hfenced
  exact not_unfenced_iff.mpr ⟨before, blanks, after ++ b, by simp, hrest⟩ h

/-- Blanks in front make no line less of a fence line. -/
theorem of_blanks (h : Unfenced (a ++ b)) (ha : ∀ c ∈ a, isBlank c = true) : Unfenced b := by
  by_contra hfenced
  obtain ⟨before, blanks, after, rfl, hbefore, hblanks⟩ := not_unfenced_iff.mp hfenced
  refine not_unfenced_iff.mpr ?_ h
  rcases hbefore with rfl | hfeed
  · -- the blanks in front go with those before the backticks
    refine ⟨[], a ++ blanks, after, by simp, .inl rfl, fun c hc => ?_⟩
    exact (List.mem_append.mp hc).elim (ha c) (hblanks c)
  · refine ⟨a ++ before, blanks, after, by simp, .inr ?_, hblanks⟩
    rw [List.getLast?_append, hfeed, Option.some_or]

/-- **Trimming makes no fence line.** -/
theorem trim (h : Unfenced text) : Unfenced (Text.trim text) := by
  obtain ⟨blanks, after, htext, hblanks⟩ := exists_trim text
  rw [htext] at h
  exact (h.of_blanks hblanks).left

theorem blocks_eq_nil (h : Unfenced text) : blocks text = [] := by
  have hblocks := blocksOfLines_prose h []
  rwa [List.append_nil] at hblocks

/-- There is no code in a text without fence lines. -/
theorem ofProse_eq {text : String} (h : Unfenced text.toList) : ShaderCode.ofProse text = {} := by
  rw [ShaderCode.ofProse, h.blocks_eq_nil]
  rfl

end Unfenced

/-! ## Clean code -/

/-- Code that is the body of a block as it is. -/
structure Clean (code : List Char) : Prop where
  nonempty : code ≠ []
  trimmed : trim code = code
  unfenced : Unfenced code

end Fence

/-- Shader code that a text can carry: each of its texts is the body of a block as it is, and there
is no snippet besides two stages. -/
structure ShaderCode.Clean (c : ShaderCode) : Prop where
  texts : ∀ slot t, Fence.textOf c slot = some t → Fence.Clean t.toList
  settled : ¬ (c.vertex.isSome ∧ c.fragment.isSome ∧ c.combined.isSome)

namespace Fence

open LiveShader.Text

/-- The body of a block is a piece of its text that is trimmed and has no fence line. -/
theorem body_of_mem_blocks {text : List Char} {b : Block} (hb : b ∈ blocks text) :
    b.body <:+: text ∧ trim b.body = b.body ∧ Unfenced b.body := by
  obtain ⟨k, hk⟩ := List.getElem?_of_mem hb
  obtain ⟨before, opening, inner, closing, after, hls, -, -, hinner, -, rfl⟩ :=
    (blocks_getElem? ..).mp hk
  refine ⟨?_, trim_trim _, Unfenced.trim fun l hl => ?_⟩
  · obtain ⟨blanks, rest, hbody, -⟩ := exists_trim inner.flatten
    have hpiece : trim inner.flatten <:+: inner.flatten := ⟨blanks, rest, by simp [← hbody]⟩
    refine hpiece.trans ⟨before.flatten ++ opening, closing ++ after.flatten, ?_⟩
    rw [← flatten_lines text, hls]
    simp
  · have hsub : inner.Sublist (lines text) := by
      rw [hls]
      exact ((List.sublist_append_left ..).cons _).trans (List.sublist_append_right ..)
    rw [((lines_cut text).sublist hsub).lines_eq] at hl
    exact hinner l hl

theorem settle_settled (found : ShaderCode) : ¬ ((settle found).vertex.isSome ∧
    (settle found).fragment.isSome ∧ (settle found).combined.isSome) := by
  rw [settle]
  split
  · rintro ⟨-, -, ⟨⟩⟩
  · next h =>
    rintro ⟨hv, hf, -⟩
    exact h (by rw [hv, hf]; rfl)

/-- **What the code of a text is like.** Each of its texts is a piece of the text, is not empty, has
no blanks to trim and no fence line, so that it carries no code itself; and there are never all
three. -/
theorem ofProse_clean (text : String) : (ShaderCode.ofProse text).Clean ∧
    ∀ slot t, textOf (ShaderCode.ofProse text) slot = some t →
      t.toList <:+: text.toList ∧ ShaderCode.ofProse t = {} := by
  obtain ⟨offered, htraced⟩ := exists_traced_ofProse text
  have hbody (slot : Slot) (t : String) (ht : textOf (ShaderCode.ofProse text) slot = some t) :
      t.toList <:+: text.toList ∧ Clean t.toList := by
    obtain ⟨k, b, hk, hne, rfl, -⟩ := htraced slot t ht
    obtain ⟨hpiece, htrim, hunfenced⟩ := body_of_mem_blocks (List.mem_of_getElem? hk)
    rw [String.toList_ofList]
    exact ⟨hpiece, hne, htrim, hunfenced⟩
  refine ⟨⟨fun slot t ht => (hbody slot t ht).2, settle_settled _⟩, fun slot t ht => ?_⟩
  obtain ⟨hpiece, hclean⟩ := hbody slot t ht
  exact ⟨hpiece, hclean.unfenced.ofProse_eq⟩

end Fence

end LiveShader
