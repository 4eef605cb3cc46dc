import LiveShader.Pattern.Extent

/-!
# Patterns in normal form

The functions below put patterns together from others that are in normal form, and give one again:

* in a row, no part is empty or itself a row, and no two texts stand side by side;
* in a choice, no alternative is itself a choice; a choice of single characters, or of sets, is a
  set; parts that all alternatives begin with stand before the choice;
* a set of one character is a text;
* what has room for no character is repeated once at most.

Results:
* `parts_ofParts`, `alternatives_ofAlternatives`: rows and choices are lists of two or more.
-/

namespace LiveShader.Pattern

/-! ## Sets -/

/-- What stands for nothing, not even for the empty piece. -/
def fail : Pattern := .one .none true

/-- One character of a set. -/
def ofSet (s : CharSet) (bytes : Bool) : Pattern :=
  if s.ranges.isEmpty then fail
  else
    match s.single? with
    | some c => .text [c]
    | none => .one s bytes

/-! ## Rows -/

/-- The parts of a row; the empty pattern is the row without parts. -/
def parts : Pattern → List Pattern
  | .empty => []
  | .seq p q => p :: q.parts
  | p => [p]

/-- The row of the given parts. -/
def ofParts : List Pattern → Pattern
  | [] => .empty
  | [p] => p
  | p :: ps => .seq p (ofParts ps)

/-- Whether a pattern can be a part of a row. -/
def isPart : Pattern → Bool
  | .empty | .seq _ _ => false
  | _ => true

theorem parts_eq_singleton {p : Pattern} (h : p.isPart = true) : p.parts = [p] := by
  cases p <;> simp_all [isPart, parts]

theorem parts_ofParts {ps : List Pattern} (h : ∀ p ∈ ps, p.isPart = true) :
    (ofParts ps).parts = ps := by
  fun_induction ofParts ps with
  | case1 => rfl
  | case2 p => exact parts_eq_singleton (h p (by simp))
  | case3 p ps _ ih => simp [parts, ih fun q hq => h q (by simp [hq])]

/-- Texts side by side are one text. -/
def joinTexts (ps : List Pattern) : List Pattern :=
  ps.foldr (fun p rest =>
    match p, rest with
    | .text cs, .text ds :: rest => .text (cs ++ ds) :: rest
    | p, rest => p :: rest) []

/-- One after the other. -/
def inRow (ps : List Pattern) : Pattern :=
  ofParts (joinTexts (ps.flatMap parts))

/-! ## Choices -/

/-- The alternatives of a choice; what is no choice is its own only alternative. -/
def alternatives : Pattern → List Pattern
  | .alt p q => p :: q.alternatives
  | p => [p]

/-- The choice between the given alternatives. -/
def ofAlternatives : List Pattern → Pattern
  | [] => fail
  | [p] => p
  | p :: ps => .alt p (ofAlternatives ps)

/-- Whether a pattern is a choice. -/
def isChoice : Pattern → Bool
  | .alt _ _ => true
  | _ => false

theorem alternatives_eq_singleton {p : Pattern} (h : p.isChoice = false) :
    p.alternatives = [p] := by
  cases p <;> simp_all [isChoice, alternatives]

theorem alternatives_ofAlternatives {ps : List Pattern} (hne : ps ≠ [])
    (h : ∀ p ∈ ps, p.isChoice = false) : (ofAlternatives ps).alternatives = ps := by
  fun_induction ofAlternatives ps with
  | case1 => exact absurd rfl hne
  | case2 p => exact alternatives_eq_singleton (h p (by simp))
  | case3 p ps hps ih => simp [alternatives, ih hps fun q hq => h q (by simp [hq])]

/-- The character that a text consists of. -/
def char? : Pattern → Option Char
  | .text [c] => some c
  | _ => none

/-- The set that a pattern is; sets of bytes must be ASCII. -/
def set? : Pattern → Option CharSet
  | .one s bytes => if bytes && !s.isAscii then none else some s
  | _ => none

/-- The set that a choice between single characters, or between sets, amounts to. -/
def asSet (ps : List Pattern) : Option CharSet :=
  (ps.mapM char?).map CharSet.ofList <|> (ps.mapM set?).map CharSet.unions

/-- The parts that two rows begin with. -/
def commonFront : List Pattern → List Pattern → List Pattern
  | p :: ps, q :: qs => if p = q then p :: commonFront ps qs else []
  | _, _ => []

/-- The parts that all alternatives begin with, if all are rows. -/
def sharedParts : List Pattern → List Pattern
  | [] => []
  | .seq p q :: rest =>
    rest.foldl (fun shared r =>
      match r with
      | .seq _ _ => commonFront shared r.parts
      | _ => []) (Pattern.seq p q).parts
  | _ => []

/-- One of the given patterns. -/
def choice (ps : List Pattern) : Pattern :=
  match ps.flatMap alternatives with
  | [p] => p
  | ps =>
    match asSet ps with
    | some s => ofSet s false
    | none =>
      match sharedParts ps with
      | [] => ofAlternatives ps
      | shared =>
        let rests := (ps.map fun p => inRow (p.parts.drop shared.length)).flatMap alternatives
        let rest :=
          match asSet rests with
          | some s => ofSet s false
          | none => ofAlternatives rests
        inRow (shared ++ [rest])

/-! ## Repetitions -/

/-- So many times, as for `times`. -/
def repeated (p : Pattern) (low : Nat) (high : Option Nat) (hurried : Bool) : Pattern :=
  let idle := p.longest == some 0
  let low := if idle then min low 1 else low
  let high := if idle then some ((high.map (min 1)).getD 1) else high
  if high == some 0 then .empty
  else if low = 1 ∧ high = some 1 then p
  else .times p low high hurried

end LiveShader.Pattern
