import LiveShader.Proofs.Clean
import LiveShader.Proofs.Hints

/-!
# Code that is laid out as a text comes back

Shader code can be written down as a text: a block for each of its texts, labelled for the field,
with prose between the blocks. What is taken from such a text is the code that was written, as long
as the code is clean (`ShaderCode.Clean`).

* `Layout c` is a way to write `c`: the order of the blocks, and the prose around them.
* A block for a stage goes to its field whatever the text speaks of. The snippet has no label of its
  own, so a text with a snippet must not speak of a stage.

Results:
* `blocks_fenced`: a block that is written is found again, in front of those that follow.
* `textOf_foldl_layout`: the blocks of a layout fill the fields that they were written for.
* `ofProse_layout`: the code of a layout.
-/

namespace LiveShader

namespace Text

variable {c : Char}

/-- Trimming takes a blank from the end. -/
theorem trim_concat (hc : isBlank c = true) (cs : List Char) : trim (cs ++ [c]) = trim cs := by
  have hsingle : trimStart [c] = [] := by simp [trimStart, hc]
  rw [trim, trim, trimStart, List.dropWhile_append]
  split
  · next h =>
    rw [show trimStart cs = [] from List.isEmpty_iff.mp h]
    exact congrArg trimEnd hsingle
  · exact List.rdropWhile_concat_pos isBlank _ c hc

end Text

namespace Fence

open LiveShader.Text

section

variable {text line : List Char} {ch : Char}

/-- Three backticks and a blank at the end stand apart. -/
theorem exists_ticks_of_concat {before after : List Char} (hc : isBlank ch = true)
    (h : text ++ [ch] = before ++ (ticks ++ after)) :
    ∃ after', text = before ++ (ticks ++ after') := by
  rcases List.eq_nil_or_concat after with rfl | ⟨after, d, rfl⟩
  · -- the last backtick would be blank
    have hlast := congrArg List.getLast? h
    simp only [List.append_nil, List.getLast?_append, List.getLast?_singleton] at hlast
    obtain rfl : ch = '`' := by simpa [ticks] using hlast
    exact absurd hc (by decide)
  · obtain ⟨hfront, -⟩ : text = before ++ (ticks ++ after) ∧ ch = d := by
      simpa [← List.append_assoc] using h
    exact ⟨after, hfront⟩

/-- A blank at the end makes no fence line. -/
theorem Unfenced.concat (h : Unfenced text) (hc : isBlank ch = true) :
    Unfenced (text ++ [ch]) := by
  by_contra hfenced
  obtain ⟨before, blanks, after, htext, hrest⟩ := not_unfenced_iff.mp hfenced
  rw [← List.append_assoc] at htext
  obtain ⟨after', hfront⟩ := exists_ticks_of_concat hc htext
  rw [List.append_assoc] at hfront
  exact not_unfenced_iff.mpr ⟨before, blanks, after', hfront, hrest⟩ h

theorem isFence_concat (hc : isBlank ch = true) : isFence (line ++ [ch]) = isFence line := by
  rw [Bool.eq_iff_iff, isFence_iff, isFence_iff]
  constructor
  · rintro ⟨blanks, rest, hline, hblanks⟩
    obtain ⟨rest', hline'⟩ := exists_ticks_of_concat hc hline
    exact ⟨blanks, rest', hline', hblanks⟩
  · rintro ⟨blanks, rest, rfl, hblanks⟩
    exact ⟨blanks, rest ++ [ch], by simp, hblanks⟩

end

/-! ## Layouts -/

/-- What a block for a field is labelled with. -/
def Slot.word : Slot → List Char
  | .vertex => "vertex".toList
  | .fragment => "fragment".toList
  | .combined => "glsl".toList

/-- A block as it is written: backticks and a word, the code, and backticks again. -/
def fenced (word code : List Char) : List Char :=
  ticks ++ word ++ '\n' :: (code ++ '\n' :: (ticks ++ ['\n']))

/-- Whole lines without a fence line among them. -/
structure Prose (text : List Char) : Prop where
  unfenced : Unfenced text
  whole : text = [] ∨ text.getLast? = some '\n'

/-- The fields of shader code that have a text. -/
def filled (c : ShaderCode) : List Slot :=
  [.vertex, .fragment, .combined].filter fun slot => (textOf c slot).isSome

/-- The text of a field; empty if there is none. -/
def codeOf (c : ShaderCode) (slot : Slot) : List Char :=
  ((textOf c slot).getD "").toList

/-- A way to write shader code: each field that has a text once, in any order, with the prose that
follows its block, and the prose before all blocks. -/
structure Layout (c : ShaderCode) where
  front : List Char
  parts : List (Slot × List Char)
  order : (parts.map Prod.fst).Perm (filled c)
  prose : ∀ p ∈ front :: parts.map Prod.snd, Prose p

variable {c : ShaderCode}

/-- Blocks, each with the prose that follows it. -/
def partsText (c : ShaderCode) (parts : List (Slot × List Char)) : List Char :=
  parts.flatMap fun p => fenced p.1.word (codeOf c p.1) ++ p.2

/-- The text of a layout. -/
def Layout.text (l : Layout c) : List Char :=
  l.front ++ partsText c l.parts

/-! ## The blocks of a layout -/

theorem blocks_prose {prose : List Char} (h : Prose prose) (rest : List Char) :
    blocks (prose ++ rest) = blocks rest := by
  rw [blocks, lines_append h.whole, blocksOfLines_prose h.unfenced, blocks]

/-- **A block that is written is found again**, in front of those that follow. -/
theorem blocks_fenced {word code : List Char} (hword : '\n' ∉ word) (hcode : Clean code)
    (rest : List Char) : blocks (fenced word code ++ rest) =
      ⟨labelOf (word ++ ['\n']), code⟩ :: blocks rest := by
  have hopening : '\n' ∉ ticks ++ word := by simp [ticks, hword]
  have hlines : lines (fenced word code ++ rest) = (ticks ++ (word ++ ['\n'])) ::
      (lines (code ++ ['\n']) ++ (ticks ++ ['\n']) :: lines rest) := by
    have htext : fenced word code ++ rest =
        (ticks ++ word) ++ '\n' :: ((code ++ ['\n']) ++ (ticks ++ '\n' :: rest)) := by
      simp [fenced]
    rw [htext, lines_append_feed hopening, lines_append (by simp),
      lines_append_feed (a := ticks) (by decide), List.append_assoc]
  have hfence (tail : List Char) : isFence (ticks ++ tail) = true :=
    isFence_iff.mpr ⟨[], tail, rfl, by simp⟩
  have hbody : trim (lines (code ++ ['\n'])).flatten = code := by
    rw [flatten_lines, trim_concat (by decide), hcode.trimmed]
  rw [blocks, hlines, blocksOfLines_block (hfence _) (hcode.unfenced.concat (by decide))
    (hfence _), Block.between, hbody]
  rfl

theorem labelOf_word (slot : Slot) : labelOf (slot.word ++ ['\n']) = slot.word := by
  cases slot <;> decide

/-- The blocks of a layout are those that were written. -/
theorem blocks_partsText {parts : List (Slot × List Char)}
    (h : ∀ p ∈ parts, Clean (codeOf c p.1) ∧ Prose p.2) : blocks (partsText c parts) =
      (parts.map Prod.fst).map fun slot => ⟨slot.word, codeOf c slot⟩ := by
  induction parts with
  | nil => rfl
  | cons p parts ih =>
    obtain ⟨⟨hcode, hprose⟩, hparts⟩ := List.forall_mem_cons.mp h
    have hword : '\n' ∉ p.1.word := by cases p.1 <;> decide
    rw [partsText, List.flatMap_cons, List.append_assoc, blocks_fenced hword hcode,
      blocks_prose hprose, labelOf_word]
    exact congrArg _ (ih hparts)

/-! ## The fields of a layout -/

/-- A block goes to the field that it was written for; a snippet does so if the text speaks of no
stage. -/
theorem slotFor_word {hints : Hints} {slot : Slot} (h : slot = .combined → hints = ⟨false, false⟩)
    (found : ShaderCode) : slotFor hints found slot.word = slot := by
  cases slot with
  | combined =>
    rw [h rfl]
    rfl
  | _ => rfl

theorem mem_filled {slot : Slot} : slot ∈ filled c ↔ (textOf c slot).isSome := by
  cases slot <;> simp [filled]

/-- **Blocks that were written for fields fill these fields**, unless they are filled already. -/
theorem textOf_foldl_layout {hints : Hints} (slots : List Slot)
    (hslots : ∀ slot ∈ slots, (∃ t, textOf c slot = some t ∧ t.toList ≠ []) ∧
      (slot = .combined → hints = ⟨false, false⟩)) (found : ShaderCode) (slot : Slot) :
    textOf ((slots.map fun slot => ⟨slot.word, codeOf c slot⟩).foldl (assign hints) found) slot =
      (textOf found slot).or (if slot ∈ slots then textOf c slot else none) := by
  induction slots generalizing found with
  | nil => simp
  | cons s slots ih =>
    obtain ⟨⟨⟨t, ht, hne⟩, hhints⟩, hslots⟩ := List.forall_mem_cons.mp hslots
    have hcode : codeOf c s = t.toList := by rw [codeOf, ht, Option.getD_some]
    have hassign : assign hints found ⟨s.word, codeOf c s⟩ = fill found t s := by
      rw [assign, if_neg (by simpa [hcode] using hne), slotFor_word hhints, hcode,
        String.ofList_toList]
    rw [List.map_cons, List.foldl_cons, ih hslots, hassign, textOf_fill]
    by_cases hs : slot = s
    · subst hs
      rw [if_pos rfl, if_pos (List.mem_cons_self ..), ht, Option.or_assoc]
      split <;> rfl
    · rw [if_neg hs, if_congr (List.mem_cons.trans (or_iff_right hs)) rfl rfl]

end Fence

open Fence

/-- Clean code has nothing to settle. -/
theorem ShaderCode.Clean.settle_eq {c : ShaderCode} (h : c.Clean) : settle c = c := by
  rw [settle]
  split
  · next hboth =>
    obtain ⟨hv, hf⟩ := Bool.and_eq_true_iff.mp hboth
    have hnone : c.combined = none := by
      rw [← Option.not_isSome_iff_eq_none]
      exact fun hs => h.settled ⟨hv, hf, hs⟩
    rw [← hnone]
  · rfl

namespace Fence

open LiveShader.Text

/-! ## The end of a text -/

/-- Of the last line nothing matters but whether it is a fence line. -/
theorem blocksOfLines_concat_congr {line line' : List Char} (h : isFence line = isFence line')
    (opened : Option (List Char × List (List Char))) (ls : List (List Char)) :
    blocksOfLines opened (ls ++ [line]) = blocksOfLines opened (ls ++ [line']) := by
  induction ls generalizing opened with
  | nil =>
    cases hline' : isFence line' with
    | false =>
      have hline := fence?_of_not_isFence (h.trans hline')
      cases opened <;> simp [blocksOfLines, hline, fence?_of_not_isFence hline']
    | true =>
      have hline := fence?_of_isFence (h.trans hline')
      cases opened <;> simp [blocksOfLines, hline, fence?_of_isFence hline']
  | cons l ls ih =>
    cases hl : fence? l <;> cases opened <;> simp [blocksOfLines, hl, ih]

/-- A last line that is no fence line does not matter. -/
theorem blocksOfLines_concat {line : List Char} (h : isFence line = false)
    (opened : Option (List Char × List (List Char))) (ls : List (List Char)) :
    blocksOfLines opened (ls ++ [line]) = blocksOfLines opened ls := by
  induction ls generalizing opened with
  | nil => cases opened <;> simp [blocksOfLines, fence?_of_not_isFence h]
  | cons l ls ih =>
    cases hl : fence? l <;> cases opened <;> simp [blocksOfLines, hl, ih]

/-- The lines of a text that gets a line feed at its end. -/
theorem lines_concat_feed {text : List Char} {ls : List (List Char)} {l : List Char}
    (hlines : lines text = ls ++ [l]) (hl : l.getLast? ≠ some '\n') :
    lines (text ++ ['\n']) = ls ++ [l ++ ['\n']] := by
  obtain ⟨hjoined, hne, helse, hfeed⟩ := hlines ▸ lines_cut text
  have hmem : '\n' ∉ l := by
    have hlne : l ≠ [] := hne l (by simp)
    rw [← List.dropLast_append_getLast hlne, List.mem_append, not_or]
    refine ⟨helse l (by simp), fun hmem => hl ?_⟩
    rw [List.getLast?_eq_some_getLast hlne, ← List.mem_singleton.mp hmem]
  refine CutAfterFeeds.lines_eq ⟨by simp [← hjoined], ?_, ?_, by simpa using hfeed⟩
  · simp only [List.forall_mem_append, List.forall_mem_singleton] at hne ⊢
    exact ⟨hne.1, by simp⟩
  · simp only [List.forall_mem_append, List.forall_mem_singleton, List.dropLast_concat] at helse ⊢
    exact ⟨helse.1, hmem⟩

/-- A line feed at the end of a text makes no difference to its blocks. -/
theorem blocks_concat_feed (text : List Char) : blocks (text ++ ['\n']) = blocks text := by
  rcases List.eq_nil_or_concat (lines text) with hlines | ⟨ls, l, hlines⟩
  · obtain rfl : text = [] := by rw [← flatten_lines text, hlines, List.flatten_nil]
    rfl
  · rw [List.concat_eq_append] at hlines
    by_cases hl : l.getLast? = some '\n'
    · have hwhole : text.getLast? = some '\n' := by
        obtain ⟨a, rfl⟩ := List.getLast?_eq_some_iff.mp hl
        rw [← flatten_lines text, hlines]
        simp
      rw [blocks, lines_append (.inr hwhole)]
      exact blocksOfLines_concat (by decide) none _
    · rw [blocks, lines_concat_feed hlines hl, blocks, hlines]
      exact blocksOfLines_concat_congr (isFence_concat (by decide)) none ls

/-- Nor does it to what the text speaks of. -/
theorem Hints.ofText_concat_feed (text : List Char) :
    Hints.ofText (text ++ ['\n']) = Hints.ofText text := by
  have hlow : lowerAscii (text ++ ['\n']) = lowerAscii text ++ ['\n'] := by simp [lowerAscii]
  have hphrase {p : List Char} (hp : p ≠ []) (hfeed : '\n' ∉ p) :
      occursIn p (lowerAscii text ++ ['\n']) = occursIn p (lowerAscii text) := by
    have hnil : occursIn p [] = false := by simpa [occursIn] using hp
    rw [occursIn_append_of_not_mem hp hfeed, hnil, Bool.or_false]
  rw [Hints.ofText, Hints.ofText, hlow, hphrase (by decide) (by decide),
    hphrase (by decide) (by decide)]

/-- **A line feed at the end of a text** makes no difference. -/
theorem ofProse_concat_feed (text : List Char) :
    ShaderCode.ofProse (String.ofList (text ++ ['\n'])) =
      ShaderCode.ofProse (String.ofList text) := by
  simp only [ShaderCode.ofProse, String.toList_ofList, blocks_concat_feed,
    Hints.ofText_concat_feed]

/-! ## The code of a layout -/

namespace Layout

variable {c : ShaderCode} (l : Layout c)

theorem mem_order (slot : Slot) : slot ∈ l.parts.map Prod.fst ↔ (textOf c slot).isSome :=
  l.order.mem_iff.trans mem_filled

/-- What is laid out for clean code is clean. -/
theorem exists_clean (hc : c.Clean) {slot : Slot} (hslot : slot ∈ l.parts.map Prod.fst) :
    ∃ t, textOf c slot = some t ∧ Clean t.toList := by
  obtain ⟨t, ht⟩ := Option.isSome_iff_exists.mp ((l.mem_order slot).mp hslot)
  exact ⟨t, ht, hc.texts slot t ht⟩

/-- The blocks of a layout are those that were written, in their order. -/
theorem blocks_text (hc : c.Clean) : blocks l.text =
    (l.parts.map Prod.fst).map fun slot => ⟨slot.word, codeOf c slot⟩ := by
  obtain ⟨hfront, hprose⟩ := List.forall_mem_cons.mp l.prose
  rw [text, blocks_prose hfront]
  refine blocks_partsText fun p hp => ⟨?_, hprose p.2 (List.mem_map_of_mem hp)⟩
  obtain ⟨t, ht, hclean⟩ := l.exists_clean hc (List.mem_map_of_mem hp)
  rwa [codeOf, ht, Option.getD_some]

end Layout

/-- **Code that is laid out as a text comes back**, whether or not the last line of the text ends in
a line feed. Where there is a snippet, the text must not speak of a stage. -/
theorem ofProse_layout {c : ShaderCode} (hc : c.Clean) (l : Layout c)
    (hhints : c.combined ≠ none → occursIn "vertex shader".toList (lowerAscii l.text) = false ∧
      occursIn "fragment shader".toList (lowerAscii l.text) = false) :
    ShaderCode.ofProse (String.ofList l.text) = c ∧
      ∀ text, text ++ ['\n'] = l.text → ShaderCode.ofProse (String.ofList text) = c := by
  have hslots (slot : Slot) (hslot : slot ∈ l.parts.map Prod.fst) :
      (∃ t, textOf c slot = some t ∧ t.toList ≠ []) ∧
        (slot = .combined → Hints.ofText l.text = ⟨false, false⟩) := by
    obtain ⟨t, ht, hclean⟩ := l.exists_clean hc hslot
    refine ⟨⟨t, ht, hclean.nonempty⟩, ?_⟩
    rintro rfl
    have hcombined : c.combined = some t := ht
    obtain ⟨hvertex, hfragment⟩ := hhints (by simp [hcombined])
    rw [Hints.ofText, hvertex, hfragment]
  have hfold : (blocks l.text).foldl (assign (Hints.ofText l.text)) {} = c := by
    rw [l.blocks_text hc]
    refine eq_of_textOf fun slot => ?_
    have hempty : textOf {} slot = none := by cases slot <;> rfl
    rw [textOf_foldl_layout _ hslots, hempty, Option.none_or, ite_eq_left_iff, l.mem_order,
      Option.not_isSome_iff_eq_none]
    exact Eq.symm
  have hcode : ShaderCode.ofProse (String.ofList l.text) = c := by
    rw [ShaderCode.ofProse, String.toList_ofList, hfold, hc.settle_eq]
  refine ⟨hcode, fun text htext => ?_⟩
  rw [← ofProse_concat_feed, htext, hcode]

/-- A snippet in front of a stage, with backticks in it that make no fence line. -/
theorem ofProse_layout_snippet :
    let c : ShaderCode := { fragment := some "a\n\n  b", combined := some "``\nx ```" }
    c.Clean ∧ ∃ l : Layout c,
      l.text = "Take\n```glsl\n``\nx ```\n```\n```fragment\na\n\n  b\n```\n \n".toList ∧
      (occursIn "vertex shader".toList (lowerAscii l.text) = false ∧
        occursIn "fragment shader".toList (lowerAscii l.text) = false) ∧
      ShaderCode.ofProse (String.ofList l.text) = c := by
  intro c
  have hc : c.Clean := by
    refine ⟨fun slot t ht => ?_, by decide⟩
    cases slot with
    | vertex => cases ht
    | fragment =>
      obtain rfl := Option.some_inj.mp ht
      exact ⟨by decide, by decide, by decide⟩
    | combined =>
      obtain rfl := Option.some_inj.mp ht
      exact ⟨by decide, by decide, by decide⟩
  let l : Layout c := {
    front := "Take\n".toList
    parts := [(.combined, []), (.fragment, " \n".toList)]
    order := by decide
    prose := by
      simp only [List.map_cons, List.map_nil, List.forall_mem_cons]
      exact ⟨⟨by decide, by decide⟩, ⟨by decide, by decide⟩, ⟨by decide, by decide⟩, nofun⟩ }
  have hhints : occursIn "vertex shader".toList (lowerAscii l.text) = false ∧
      occursIn "fragment shader".toList (lowerAscii l.text) = false := by decide +kernel
  exact ⟨hc, l, by decide +kernel, hhints, (ofProse_layout hc l fun _ => hhints).1⟩

end Fence

end LiveShader
