import LiveShader.Json.Problem
import LiveShader.Text.Hex
import LiveShader.Text.Search

/-!
# Texts between quotes

`pieces` cuts the inside of a quoted text into its pieces, up to the closing quote or to whatever
stops it before; `decode` puts the pieces together. The two are apart because skipping a text only
needs the first, while reading it also joins the halves of surrogate pairs.

Results:
* `length_after_pieces`: scanning never makes the text longer, so a reader that scans makes
  progress.
-/

namespace LiveShader.Json.Quotation

/-! ## Pieces -/

/-- A piece of a quoted text: a character, or a UTF-16 unit written by its number. -/
inductive Piece where
  | plain (c : Char)
  | unit (n : Nat)
  deriving DecidableEq, Repr

/-- What ends the pieces of a quoted text. -/
inductive Closing where
  | quote
  /-- The text ends, or has too few bytes left for the four digits of a unit. -/
  | cutOff
  /-- A character below U+0020 that is not escaped. -/
  | control
  /-- A backslash before a letter without a meaning. -/
  | badLetter
  /-- Four bytes that are not all hexadecimal digits. -/
  | badDigits
  deriving DecidableEq, Repr

/-- The unit that four hexadecimal digits name. -/
def unitOfDigits (a b c d : Char) : Option Nat := do
  let high := (← Text.hexValue a) * 16 + (← Text.hexValue b)
  return (high * 16 + (← Text.hexValue c)) * 16 + (← Text.hexValue d)

/-- The character that a letter stands for after a backslash. -/
def escapedChar : Char → Option Char
  | '"' => some '"'
  | '\\' => some '\\'
  | '/' => some '/'
  | 'b' => some '\x08'
  | 'f' => some '\x0c'
  | 'n' => some '\n'
  | 'r' => some '\r'
  | 't' => some '\t'
  | _ => none

/-- Whether fewer than four bytes are left. -/
def underFourBytes (cs : List Char) : Bool :=
  Text.byteLength (cs.take 4) < 4

/-- The pieces of a quoted text after its opening quote, what ends them, and what follows. -/
def pieces : List Char → List Piece × Closing × List Char
  | [] => ([], .cutOff, [])
  | '"' :: cs => ([], .quote, cs)
  | '\\' :: 'u' :: a :: b :: c :: d :: cs =>
    match unitOfDigits a b c d with
    | none => ([], .badDigits, cs)
    | some n =>
      let (ps, rest) := pieces cs
      (.unit n :: ps, rest)
  | '\\' :: 'u' :: cs => ([], if underFourBytes cs then .cutOff else .badDigits, cs)
  | '\\' :: e :: cs =>
    match escapedChar e with
    | none => ([], .badLetter, cs)
    | some c =>
      let (ps, rest) := pieces cs
      (.plain c :: ps, rest)
  | '\\' :: [] => ([], .cutOff, [])
  | c :: cs =>
    if c.toNat < 0x20 then ([], .control, cs)
    else
      let (ps, rest) := pieces cs
      (.plain c :: ps, rest)

/-- What follows a quoted text is no longer than the text. -/
theorem length_after_pieces (cs : List Char) : (pieces cs).2.2.length ≤ cs.length := by
  fun_induction pieces cs <;> simp_all <;> omega

/-! ## Reading -/

/-- Whether a unit is the first half of a surrogate pair. -/
def isHigh (n : Nat) : Bool := 0xD800 ≤ n && n ≤ 0xDBFF

/-- Whether a unit is the second half of a surrogate pair. -/
def isLow (n : Nat) : Bool := 0xDC00 ≤ n && n ≤ 0xDFFF

/-- The character of a surrogate pair. -/
def joined (high low : Nat) : Char :=
  Char.ofNat (0x10000 + (high - 0xD800) * 0x400 + (low - 0xDC00))

/-- The problem that an ending is; none for the closing quote. -/
def Closing.problem? : Closing → Option Problem
  | .quote => none
  | .cutOff => some .textCutOff
  | .control => some .controlCharacter
  | .badLetter => some .invalidEscape
  | .badDigits => some .invalidEscape

/-- The problem that an ending is right after the first half of a pair, where only another unit
may follow. -/
def Closing.afterHigh : Closing → Problem
  | .cutOff => .textCutOff
  | .badDigits => .invalidEscape
  | .quote | .control | .badLetter => .unfinishedSurrogate

/-- The characters of a quoted text. Halves of surrogate pairs must stand together. -/
def decode (closing : Closing) : List Piece → Except Problem (List Char)
  | [] =>
    match closing.problem? with
    | none => .ok []
    | some p => .error p
  | .plain c :: ps => (decode closing ps).map (c :: ·)
  | .unit n :: ps =>
    if isLow n then .error .loneSurrogate
    else if isHigh n then
      match ps with
      | [] => .error closing.afterHigh
      | .plain _ :: _ => .error .unfinishedSurrogate
      | .unit m :: ps =>
        if isLow m then (decode closing ps).map (joined n m :: ·) else .error .loneSurrogate
    else (decode closing ps).map (Char.ofNat n :: ·)

/-- The text that the pieces spell. -/
def reading (ps : List Piece) (closing : Closing) : Except Problem String :=
  (decode closing ps).map String.ofList

end LiveShader.Json.Quotation
