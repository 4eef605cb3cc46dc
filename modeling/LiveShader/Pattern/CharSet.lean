/-!
# Sets of characters

A `CharSet` is a list of ranges in order. Between two of them there is a gap in the numbers of the
characters, so a set is written in one way only.

The numbers from U+D800 to U+DFFF belong to no character. `nextChar` and `prevChar` pass over them,
but they count as a gap: a range that ends before them and one that starts after them stay two.

Results:
* `has_hull`: the least range around two that touch has what either has, and nothing else.
-/

namespace LiveShader

/-! ## Ranges -/

/-- The characters from one to another, both included. -/
structure CharRange where
  low : Char
  high : Char
  deriving DecidableEq, Repr

/-- The last of all characters. -/
def lastChar : Char := Char.ofNat 0x10FFFF

/-- The character after `c`. -/
def nextChar (c : Char) : Char :=
  if c.toNat = 0xD7FF then Char.ofNat 0xE000 else Char.ofNat (c.toNat + 1)

/-- The character before `c`. -/
def prevChar (c : Char) : Char :=
  if c.toNat = 0xE000 then Char.ofNat 0xD7FF else Char.ofNat (c.toNat - 1)

namespace CharRange

/-- The range of one character. -/
def one (c : Char) : CharRange := ⟨c, c⟩

/-- The range between two characters, whichever comes first. -/
def between (a b : Char) : CharRange :=
  if a ≤ b then ⟨a, b⟩ else ⟨b, a⟩

/-- Whether a character belongs to a range. -/
def has (r : CharRange) (c : Char) : Bool :=
  r.low ≤ c && c ≤ r.high

/-- Whether two ranges overlap, or one ends at the number before the other. -/
def touches (r s : CharRange) : Bool :=
  r.low.toNat ≤ s.high.toNat + 1 && s.low.toNat ≤ r.high.toNat + 1

/-- The least range around two. -/
def hull (r s : CharRange) : CharRange :=
  ⟨if r.low ≤ s.low then r.low else s.low, if r.high ≤ s.high then s.high else r.high⟩

/-- Nothing lies between two ranges that touch. -/
theorem has_hull {r s : CharRange} (h : r.touches s = true) (c : Char) :
    (r.hull s).has c = (r.has c || s.has c) := by
  have le (a b : Char) : a ≤ b ↔ a.toNat ≤ b.toNat := Iff.rfl
  simp only [touches, hull, has, le, Bool.and_eq_true, decide_eq_true_eq] at h ⊢
  rw [Bool.eq_iff_iff]
  simp only [Bool.and_eq_true, Bool.or_eq_true, decide_eq_true_eq]
  split <;> split <;> omega

/-- What two ranges share. -/
def overlap (r s : CharRange) : Option CharRange :=
  let low := if r.low ≤ s.low then s.low else r.low
  let high := if r.high ≤ s.high then r.high else s.high
  if low ≤ high then some ⟨low, high⟩ else none

/-- What is left of a range without another: a piece before it, one after it, or both. -/
def minus (r s : CharRange) : List CharRange :=
  if (r.overlap s).isNone then [r]
  else
    (if r.low < s.low then [between r.low (prevChar s.low)] else []) ++
      (if s.high < r.high then [between (nextChar s.high) r.high] else [])

end CharRange

/-! ## Sets -/

/-- A set of characters. -/
structure CharSet where
  ranges : List CharRange
  deriving DecidableEq, Repr

namespace CharSet

/-- The set without characters. -/
def none : CharSet := ⟨[]⟩

/-- Whether a character belongs to a set. -/
def has (s : CharSet) (c : Char) : Bool :=
  s.ranges.any fun r => r.has c

/-- Put a range in its place, in one with those that it touches. -/
def insertRange (r : CharRange) : List CharRange → List CharRange
  | [] => [r]
  | s :: rest =>
    if r.touches s then insertRange (r.hull s) rest
    else if r.low < s.low then r :: s :: rest
    else s :: insertRange r rest

/-- With one more range. -/
def insert (s : CharSet) (r : CharRange) : CharSet :=
  ⟨insertRange r s.ranges⟩

/-- The set of the characters of any ranges. -/
def ofRanges (rs : List CharRange) : CharSet :=
  rs.foldl insert none

/-- The set of the given characters. -/
def ofList (cs : List Char) : CharSet :=
  ofRanges (cs.map .one)

/-- The characters from one to another. -/
def range (low high : Char) : CharSet :=
  ⟨[⟨low, high⟩]⟩

/-- The set of one character. -/
def one (c : Char) : CharSet :=
  range c c

/-- What belongs to either. -/
def union (a b : CharSet) : CharSet :=
  b.ranges.foldl insert a

/-- What belongs to any of the given sets. -/
def unions (sets : List CharSet) : CharSet :=
  sets.foldl union none

/-- What belongs to both. -/
def inter (a b : CharSet) : CharSet :=
  ⟨a.ranges.flatMap fun r => b.ranges.filterMap r.overlap⟩

/-- What belongs to the first only. -/
def diff (a b : CharSet) : CharSet :=
  ⟨a.ranges.flatMap fun r =>
    b.ranges.foldl (fun left s => left.flatMap fun p => p.minus s) [r]⟩

/-- What belongs to exactly one of the two. -/
def apart (a b : CharSet) : CharSet :=
  (a.union b).diff (a.inter b)

/-- The gaps between ranges, and behind the last. -/
def gapsAfter (c : Char) : List CharRange → List CharRange
  | [] => if c < lastChar then [.between (nextChar c) lastChar] else []
  | r :: rest => .between (nextChar c) (prevChar r.low) :: gapsAfter r.high rest

/-- What does not belong to a set. -/
def compl (a : CharSet) : CharSet :=
  match a.ranges with
  | [] => range '\x00' lastChar
  | r :: rest =>
    ⟨(if '\x00' < r.low then [.between '\x00' (prevChar r.low)] else []) ++
      gapsAfter r.high rest⟩

/-- Every character. -/
def all : CharSet :=
  range '\x00' lastChar

/-- Whether a set holds nothing but ASCII. -/
def isAscii (a : CharSet) : Bool :=
  a.ranges.all fun r => r.high.toNat < 0x80

/-- The only character of a set that has just one. -/
def single? (a : CharSet) : Option Char :=
  match a.ranges with
  | [r] => if r.low = r.high then some r.low else Option.none
  | _ => Option.none

/-- The set with every ASCII letter in both cases. -/
def eitherCase (a : CharSet) : CharSet :=
  let small := a.inter (range 'a' 'z')
  let capital := a.inter (range 'A' 'Z')
  let others := small.ranges.map (fun r => CharRange.mk r.low.toUpper r.high.toUpper) ++
    capital.ranges.map fun r => CharRange.mk r.low.toLower r.high.toLower
  others.foldl insert a

/-! ## Named sets of ASCII -/

/-- The digits. -/
def digit : CharSet := range '0' '9'

/-- The small letters. -/
def lower : CharSet := range 'a' 'z'

/-- The capital letters. -/
def upper : CharSet := range 'A' 'Z'

/-- The letters. -/
def alpha : CharSet := upper.union lower

/-- The letters and digits. -/
def alnum : CharSet := digit.union alpha

/-- The characters of words. -/
def word : CharSet := alnum.union (one '_')

/-- The blanks. -/
def space : CharSet := ofList ['\t', '\n', '\x0b', '\x0c', '\r', ' ']

/-- The set that a name between colons stands for. -/
def named? (name : String) : Option CharSet :=
  match name with
  | "alnum" => some alnum
  | "alpha" => some alpha
  | "ascii" => some (range '\x00' '\x7f')
  | "blank" => some (ofList ['\t', ' '])
  | "cntrl" => some ((range '\x00' '\x1f').union (one '\x7f'))
  | "digit" => some digit
  | "graph" => some (range '!' '~')
  | "lower" => some lower
  | "print" => some (range ' ' '~')
  | "punct" =>
    some (ofRanges [⟨'!', '/'⟩, ⟨':', '@'⟩, ⟨'[', Char.ofNat 0x60⟩, ⟨'\x7b', '~'⟩])
  | "space" => some space
  | "upper" => some upper
  | "word" => some word
  | "xdigit" => some (ofRanges [⟨'0', '9'⟩, ⟨'A', 'F'⟩, ⟨'a', 'f'⟩])
  | _ => Option.none

end CharSet

end LiveShader
