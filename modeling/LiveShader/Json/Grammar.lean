import LiveShader.Json.Value

/-!
# The texts of a JSON value

A value has many texts. `Value.Written v cs` says that `cs` is one of them, by the grammar of JSON
and without a look at any reader; `Value.Bare` is the same without blanks at the two ends.

* Blanks may stand around every value, key and punctuation mark.
* A character of a quoted text stands for itself unless it is a quote, a backslash or below U+0020,
  and may always be written by its UTF-16 units; some have an escape of one letter besides.
* A number is written with the digits that it has. The letter of the exponent may be small or
  capital, and its sign may be left out if it is positive.
-/

namespace LiveShader.Json

/-- Nothing but blanks. -/
def Blanks (cs : List Char) : Prop :=
  ∀ c ∈ cs, c ∈ [' ', '\n', '\t', '\r']

/-! ## Quoted texts -/

namespace Quotation

/-- The escapes of one letter, with the characters that they stand for. -/
def letterEscapes : List (Char × Char) :=
  [('"', '"'), ('\\', '\\'), ('/', '/'), ('b', '\x08'), ('f', '\x0c'), ('n', '\n'), ('r', '\r'),
    ('t', '\t')]

/-- A hexadecimal digit, small or capital, with its value. -/
def IsDigit (c : Char) (n : Nat) : Prop :=
  n < 16 ∧ (c = Text.hexDigit n ∨ c = (Text.hexDigit n).toUpper)

/-- A UTF-16 unit written by its number. -/
inductive UnitWritten : Nat → List Char → Prop where
  | digits {a b c d : Char} {i j k l : Nat} (ha : IsDigit a i) (hb : IsDigit b j)
      (hc : IsDigit c k) (hd : IsDigit d l) :
      UnitWritten (i * 4096 + j * 256 + k * 16 + l) ['\\', 'u', a, b, c, d]

/-- A character between quotes. One beyond U+FFFF has two units, the halves of a surrogate pair. -/
inductive CharWritten : Char → List Char → Prop where
  | plain {c : Char} (hquote : c ≠ '"') (hbackslash : c ≠ '\\') (hcontrol : 0x20 ≤ c.toNat) :
      CharWritten c [c]
  | letter {c e : Char} (h : (e, c) ∈ letterEscapes) : CharWritten c ['\\', e]
  | unit {c : Char} {cs : List Char} (hc : c.toNat < 0x10000) (h : UnitWritten c.toNat cs) :
      CharWritten c cs
  | pair {c : Char} {cs cs' : List Char} (hc : 0x10000 ≤ c.toNat)
      (hhigh : UnitWritten (0xD800 + (c.toNat - 0x10000) / 0x400) cs)
      (hlow : UnitWritten (0xDC00 + (c.toNat - 0x10000) % 0x400) cs') : CharWritten c (cs ++ cs')

/-- Characters between quotes, one after the other. -/
inductive CharsWritten : List Char → List Char → Prop where
  | nil : CharsWritten [] []
  | cons {c : Char} {t cs cs' : List Char} (h : CharWritten c cs) (ht : CharsWritten t cs') :
      CharsWritten (c :: t) (cs ++ cs')

/-- Characters without anything to escape stand for themselves. -/
theorem CharsWritten.plain {t : List Char}
    (h : ∀ c ∈ t, c ≠ '"' ∧ c ≠ '\\' ∧ 0x20 ≤ c.toNat) : CharsWritten t t := by
  induction t with
  | nil => exact .nil
  | cons c t ih =>
    obtain ⟨⟨hquote, hbackslash, hcontrol⟩, ht⟩ := List.forall_mem_cons.mp h
    exact .cons (.plain hquote hbackslash hcontrol) (ih ht)

/-- A text with its quotes. -/
inductive Written : String → List Char → Prop where
  | quoted {t : String} {cs : List Char} (h : CharsWritten t.toList cs) :
      Written t ('"' :: cs ++ ['"'])

end Quotation

/-! ## Numbers -/

namespace Numeral

/-- One digit or more. -/
def Digits (ds : List Char) : Prop :=
  ds ≠ [] ∧ ∀ d ∈ ds, d.isDigit = true

/-- The digits after the point, with the point if there are any. -/
inductive FractionWritten : List Char → List Char → Prop where
  | none : FractionWritten [] []
  | digits {ds : List Char} (h : Digits ds) : FractionWritten ds ('.' :: ds)

/-- The exponent, if there is one. -/
inductive ExponentWritten : Option (Bool × List Char) → List Char → Prop where
  | none : ExponentWritten none []
  | minus {e : Char} {ds : List Char} (he : e = 'e' ∨ e = 'E') (h : Digits ds) :
      ExponentWritten (some (true, ds)) (e :: '-' :: ds)
  | plus {e : Char} {ds : List Char} (he : e = 'e' ∨ e = 'E') (h : Digits ds) :
      ExponentWritten (some (false, ds)) (e :: '+' :: ds)
  | unsigned {e : Char} {ds : List Char} (he : e = 'e' ∨ e = 'E') (h : Digits ds) :
      ExponentWritten (some (false, ds)) (e :: ds)

/-- A number. A zero before the point stands alone. -/
inductive Written : Numeral → List Char → Prop where
  | parts {w : Numeral} {fraction exponent : List Char} (hwhole : Digits w.whole)
      (hzero : w.whole.head? = some '0' → w.whole = ['0'])
      (hfraction : FractionWritten w.fraction fraction)
      (hexponent : ExponentWritten w.exponent exponent) :
      Written w ((if w.negative then ['-'] else []) ++ (w.whole ++ (fraction ++ exponent)))

end Numeral

/-! ## Values -/

/-- A key, with blanks around it. -/
inductive KeyWritten : String → List Char → Prop where
  | padded {k : String} {ws cs ws' : List Char} (hws : Blanks ws) (hk : Quotation.Written k cs)
      (hws' : Blanks ws') : KeyWritten k (ws ++ (cs ++ ws'))

mutual

/-- A text of a value, without blanks around it. -/
inductive Value.Bare : Value → List Char → Prop where
  | null : Bare .null ['n', 'u', 'l', 'l']
  | yes : Bare (.bool true) ['t', 'r', 'u', 'e']
  | no : Bare (.bool false) ['f', 'a', 'l', 's', 'e']
  | number {w : Numeral} {cs : List Char} (h : w.Written cs) : Bare (.number w) cs
  | text {t : String} {cs : List Char} (h : Quotation.Written t cs) : Bare (.text t) cs
  | emptySeq {ws : List Char} (hws : Blanks ws) : Bare (.seq []) ('[' :: (ws ++ [']']))
  | seq {items : List Value} {cs : List Char} (h : ItemsWritten items cs) :
      Bare (.seq items) ('[' :: (cs ++ [']']))
  | emptyMap {ws : List Char} (hws : Blanks ws) : Bare (.map []) ('\x7b' :: (ws ++ ['\x7d']))
  | map {members : List (String × Value)} {cs : List Char} (h : MembersWritten members cs) :
      Bare (.map members) ('\x7b' :: (cs ++ ['\x7d']))

/-- A text of a value. -/
inductive Value.Written : Value → List Char → Prop where
  | padded {v : Value} {ws cs ws' : List Char} (hws : Blanks ws) (hv : v.Bare cs)
      (hws' : Blanks ws') : Written v (ws ++ (cs ++ ws'))

/-- One item or more, with commas in between. -/
inductive Value.ItemsWritten : List Value → List Char → Prop where
  | last {v : Value} {cs : List Char} (hv : v.Written cs) : ItemsWritten [v] cs
  | cons {v : Value} {vs : List Value} {cs rest : List Char} (hv : v.Written cs)
      (hvs : ItemsWritten vs rest) : ItemsWritten (v :: vs) (cs ++ ',' :: rest)

/-- One member or more, with commas in between. -/
inductive Value.MembersWritten : List (String × Value) → List Char → Prop where
  | last {k : String} {v : Value} {key cs : List Char} (hk : KeyWritten k key)
      (hv : v.Written cs) : MembersWritten [(k, v)] (key ++ ':' :: cs)
  | cons {k : String} {v : Value} {ms : List (String × Value)} {key cs rest : List Char}
      (hk : KeyWritten k key) (hv : v.Written cs) (hms : MembersWritten ms rest) :
      MembersWritten ((k, v) :: ms) (key ++ ':' :: (cs ++ ',' :: rest))

end

end LiveShader.Json
