import LiveShader.Pattern.Normal
import LiveShader.Text.Blank

/-!
# Modes of a written pattern

A `Mode` says how the text of a pattern is read from some place on. `Mode.rest` passes over what
does not count in it.

Results:
* `length_rest`: passing over never makes the text longer, so a reader that does makes progress.
-/

namespace LiveShader.Pattern

/-- How the text of a pattern is read. -/
structure Mode where
  /-- Letters stand for both cases. -/
  anyCase : Bool := false
  /-- The edges of the text are those of its lines. -/
  lines : Bool := false
  /-- A point stands for line ends too. -/
  pointIsAll : Bool := false
  /-- Lines may end with a carriage return. -/
  crlf : Bool := false
  /-- Sets are sets of Unicode characters, and not of ASCII. -/
  unicode : Bool := true
  /-- Blanks and comments do not count. -/
  spaced : Bool := false
  /-- Repetitions prefer less, and more with a question mark. -/
  patient : Bool := false
  deriving DecidableEq, Repr

/-- What is left after blanks and comments; a comment goes from a number sign to the end of its
line. -/
def skipSpaced : (inComment : Bool) → List Char → List Char
  | _, [] => []
  | true, c :: cs => skipSpaced (c != '\n') cs
  | false, c :: cs =>
    if Text.isBlank c then skipSpaced false cs
    else if c = '#' then skipSpaced true cs
    else c :: cs

theorem length_skipSpaced (inComment : Bool) (cs : List Char) :
    (skipSpaced inComment cs).length ≤ cs.length := by
  fun_induction skipSpaced inComment cs <;> grind

namespace Mode

/-- The text without what does not count at its front. -/
def rest (m : Mode) (cs : List Char) : List Char :=
  if m.spaced then skipSpaced false cs else cs

theorem length_rest (m : Mode) (cs : List Char) : (m.rest cs).length ≤ cs.length := by
  unfold rest
  split
  · exact length_skipSpaced false cs
  · exact Nat.le_refl _

/-- Set or clear what a letter names. -/
def set (m : Mode) (value : Bool) : Char → Option Mode
  | 'i' => some { m with anyCase := value }
  | 'm' => some { m with lines := value }
  | 's' => some { m with pointIsAll := value }
  | 'R' => some { m with crlf := value }
  | 'u' => some { m with unicode := value }
  | 'x' => some { m with spaced := value }
  | 'U' => some { m with patient := value }
  | _ => none

/-- The edge that a circumflex stands for. -/
def start (m : Mode) : Edge :=
  if !m.lines then .textStart else if m.crlf then .crlfStart else .lineStart

/-- The edge that a dollar sign stands for. -/
def stop (m : Mode) : Edge :=
  if !m.lines then .textEnd else if m.crlf then .crlfEnd else .lineEnd

/-- What a literal character stands for. Both cases of letters beyond ASCII are unknown. -/
def literal (m : Mode) (c : Char) : Option Pattern :=
  if !m.anyCase then some (.text [c])
  else if m.unicode || 0x80 ≤ c.toNat then none
  else some (.ofSet (CharSet.one c).eitherCase true)

/-- The set that a point stands for. -/
def point (m : Mode) : Option CharSet :=
  if !m.unicode then none
  else if m.pointIsAll then some .all
  else some (CharSet.ofList (if m.crlf then ['\r', '\n'] else ['\n'])).compl

/-- A complement; one within ASCII would not stand for whole characters. -/
def complement (m : Mode) (s : CharSet) : Option CharSet :=
  if m.unicode then some s.compl else none

/-- Whether a set may have members that are written out: both cases of them must be known. -/
def allowsMembers (m : Mode) : Bool :=
  !(m.anyCase && m.unicode)

end Mode

end LiveShader.Pattern
