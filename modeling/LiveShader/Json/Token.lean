import LiveShader.Json.Numeral
import LiveShader.Json.Quotation

/-!
# The tokens of a JSON text

`tokens` cuts a text at its blanks into punctuation, texts and bare scalars. A scalar carries what
reading it gives; one that reading refuses but skipping accepts is still a token of its own. The
list ends at the first piece that not even skipping accepts, for nobody gets past it.
-/

namespace LiveShader.Json

/-- A piece of a JSON text. -/
inductive Token where
  | openSeq
  | closeSeq
  | openMap
  | closeMap
  | comma
  | colon
  /-- A quoted text. -/
  | text (reading : Except Problem String)
  /-- A scalar that is not quoted. -/
  | bare (reading : Except Problem Scalar)
  /-- A quoted text that cannot be skipped. -/
  | brokenText (fault : Fault)
  /-- Anything else that cannot be skipped. -/
  | broken (fault : Fault)

namespace Token

/-- What stands after `word` at the front of a text. -/
def afterWord : (word : List Char) → List Char → Except Problem (List Char)
  | [], cs => .ok cs
  | _ :: _, [] => .error .valueCutOff
  | w :: ws, c :: cs => if c = w then afterWord ws cs else .error .expectedIdent

theorem length_afterWord {ws cs rest : List Char} (h : afterWord ws cs = .ok rest) :
    rest.length ≤ cs.length := by
  fun_induction afterWord ws cs <;> simp_all
  omega

/-- A literal name, of which the first letter has been seen. -/
def ofWord (word : List Char) (s : Scalar) (cs : List Char) : Token × List Char :=
  match afterWord word cs with
  | .ok rest => (.bare (.ok s), rest)
  | .error p => (.broken (.both p), [])

theorem length_ofWord (word : List Char) (s : Scalar) (cs : List Char) :
    (ofWord word s cs).2.length ≤ cs.length := by
  rw [ofWord]
  split
  · next h => exact length_afterWord h
  · simp

/-- A quoted text, of which the opening quote has been seen. -/
def ofQuotation (cs : List Char) : Token × List Char :=
  let scanned := Quotation.pieces cs
  let reading := Quotation.reading scanned.1 scanned.2.1
  match scanned.2.1.problem? with
  | none => (.text reading, scanned.2.2)
  | some loose =>
    match reading with
    | .error strict => (.brokenText ⟨strict, loose⟩, [])
    | .ok _ => (.brokenText (.both loose), [])

theorem length_ofQuotation (cs : List Char) : (ofQuotation cs).2.length ≤ cs.length := by
  rw [ofQuotation]
  split
  · exact Quotation.length_after_pieces cs
  · split <;> simp

/-- A number at the front of a text. -/
def ofNumber (cs : List Char) : Token × List Char :=
  match Numeral.scan cs with
  | .ok (w, rest) => (.bare (w.value.map .number), rest)
  | .error f => (.broken f, [])

theorem length_ofNumber (c : Char) (cs : List Char) :
    (ofNumber (c :: cs)).2.length ≤ cs.length := by
  rw [ofNumber]
  split
  · next h =>
    exact Nat.le_of_lt_succ (Numeral.length_after_scan h)
  · simp

/-- The token that starts with `c`, and what follows it. -/
def first (c : Char) (cs : List Char) : Token × List Char :=
  match c with
  | '[' => (.openSeq, cs)
  | ']' => (.closeSeq, cs)
  | '\x7b' => (.openMap, cs)
  | '\x7d' => (.closeMap, cs)
  | ',' => (.comma, cs)
  | ':' => (.colon, cs)
  | '"' => ofQuotation cs
  | 't' => ofWord ['r', 'u', 'e'] (.bool true) cs
  | 'f' => ofWord ['a', 'l', 's', 'e'] (.bool false) cs
  | 'n' => ofWord ['u', 'l', 'l'] .null cs
  | c => if c = '-' ∨ c.isDigit then ofNumber (c :: cs) else (.broken (.both .expectedValue), [])

theorem length_first (c : Char) (cs : List Char) : (first c cs).2.length ≤ cs.length := by
  unfold first
  split
  any_goals exact Nat.le_refl _
  · exact length_ofQuotation cs
  · exact length_ofWord _ _ cs
  · exact length_ofWord _ _ cs
  · exact length_ofWord _ _ cs
  · split
    · exact length_ofNumber _ cs
    · simp

/-- Whether a character may stand between tokens. -/
def isSpace (c : Char) : Bool :=
  c = ' ' || c = '\n' || c = '\t' || c = '\r'

end Token

/-- The tokens of a text. -/
def tokens : List Char → List Token
  | [] => []
  | c :: cs =>
    if Token.isSpace c then tokens cs
    else
      let step := Token.first c cs
      step.1 :: tokens step.2
termination_by cs => cs.length
decreasing_by
  · simp
  · have := Token.length_first c cs
    simp only [List.length_cons]
    omega

end LiveShader.Json
