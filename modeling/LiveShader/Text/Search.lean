/-!
# The size of a text, a piece of it, and its lines

`byteLength` counts the bytes of a text. `occursIn` decides whether one text is a contiguous piece
of another, `offset?` says how many bytes stand before its first occurrence. `lines` cuts a text
after each line feed and loses nothing; `withoutEnd` is what a line says, without what ends it.

Results:
* `occursIn_iff`: `occursIn p s` holds exactly when `s = a ++ p ++ b` for some `a` and `b`.
* `flatten_lines`: the lines of a text, joined again, are the text.
* `feed_notMem_withoutEnd`: what a line says is in one line.
-/

namespace LiveShader.Text

/-! ## Size -/

/-- The number of bytes of a text in UTF-8. -/
def byteLength : List Char → Nat
  | [] => 0
  | c :: cs => c.utf8Size + byteLength cs

/-! ## Occurrences -/

/-- Whether `p` is a contiguous piece of the text. -/
def occursIn (p : List Char) : List Char → Bool
  | [] => p.isEmpty
  | c :: cs => p.isPrefixOf (c :: cs) || occursIn p cs

/-- The number of UTF-8 bytes before the first occurrence of `p`. -/
def offset? (p : List Char) : List Char → Option Nat
  | [] => if p.isEmpty then some 0 else none
  | c :: cs => if p.isPrefixOf (c :: cs) then some 0 else (offset? p cs).map (c.utf8Size + ·)

/-- Whether `text` contains `piece`. -/
def mentions (text piece : String) : Bool :=
  occursIn piece.toList text.toList

theorem occursIn_iff {p s : List Char} : occursIn p s = true ↔ ∃ a b, s = a ++ p ++ b := by
  induction s with
  | nil =>
    simp only [occursIn, List.isEmpty_iff]
    constructor
    · rintro rfl
      exact ⟨[], [], rfl⟩
    · rintro ⟨a, b, h⟩
      simp_all
  | cons c cs ih =>
    simp only [occursIn, Bool.or_eq_true, List.isPrefixOf_iff_prefix, ih]
    constructor
    · rintro (⟨b, hb⟩ | ⟨a, b, rfl⟩)
      · exact ⟨[], b, by simp [hb]⟩
      · exact ⟨c :: a, b, by simp⟩
    · rintro ⟨a, b, h⟩
      cases a with
      | nil => exact .inl ⟨b, by simpa using h.symm⟩
      | cons d ds =>
        obtain ⟨rfl, rfl⟩ : c = d ∧ cs = ds ++ p ++ b := by simpa using h
        exact .inr ⟨ds, b, rfl⟩

/-! ## Letter case -/

/-- `cs` with the capital letters of ASCII made small; other letters stay. -/
def lowerAscii (cs : List Char) : List Char :=
  cs.map Char.toLower

/-! ## Lines -/

/-- The pieces of a text cut after each line feed. A last piece without one is a line too. -/
def lines : List Char → List (List Char)
  | [] => []
  | c :: cs =>
    if c = '\n' then [c] :: lines cs
    else
      match lines cs with
      | [] => [[c]]
      | l :: ls => (c :: l) :: ls

theorem flatten_lines (cs : List Char) : (lines cs).flatten = cs := by
  induction cs with
  | nil => rfl
  | cons c cs ih =>
    rw [lines]
    split
    · simp [ih]
    · split
      · next h => simpa [h] using ih
      · next h => simpa [h] using ih

/-- A line without its end, which is a line feed, and a carriage return right before that. A
carriage return alone ends nothing. -/
def withoutEnd : List Char → List Char
  | [] => []
  | c :: cs =>
    if c = '\n' ∧ cs = [] ∨ c = '\r' ∧ cs = ['\n'] then [] else c :: withoutEnd cs

/-- Another character in front of a line adds no line feed. -/
theorem feed_notMem_withoutEnd_cons {c : Char} {line : List Char} (hc : c ≠ '\n')
    (h : '\n' ∉ withoutEnd line) : '\n' ∉ withoutEnd (c :: line) := by
  rw [withoutEnd]
  split
  · exact List.not_mem_nil
  · rw [List.mem_cons]
    rintro (hfeed | hfeed)
    · exact hc hfeed.symm
    · exact h hfeed

/-- A line feed stands nowhere but at the end of a line. -/
theorem feed_notMem_withoutEnd {cs line : List Char} (h : line ∈ lines cs) :
    '\n' ∉ withoutEnd line := by
  induction cs generalizing line with
  | nil => cases h
  | cons c cs ih =>
    rw [lines] at h
    split at h
    · next hc =>
      rcases List.mem_cons.mp h with rfl | h
      · subst hc
        decide
      · exact ih h
    · next hc =>
      split at h
      · rw [List.mem_singleton.mp h]
        exact feed_notMem_withoutEnd_cons hc List.not_mem_nil
      · next l ls hlines =>
        rw [hlines] at ih
        rcases List.mem_cons.mp h with rfl | h
        · exact feed_notMem_withoutEnd_cons hc (ih List.mem_cons_self)
        · exact ih (List.mem_cons_of_mem l h)

end LiveShader.Text
