import LiveShader.Json.Grammar
import LiveShader.Proofs.Rendering

/-!
# Every text of a value gives its tree

A value may be written in many ways, and all of them are cut into the same tokens. So what is read
depends on the value alone, not on its blanks, its escapes or the form of its numbers.

* Where a number ends depends on what follows, so the texts of values are looked at before a
  `Free` rest: one that does not go on with a number.
* A character of a quoted text is one piece or, beyond U+FFFF, two units that are joined again.

Results:
* `Quotation.Written.tokens`: a quoted text is one token, whatever escapes it is written with.
* `Numeral.Written.scan`: a number is scanned as it is written.
* `Value.Bare.tokens`: a text of a value is cut into the value's tokens.
* `Value.Written.ofTokens`: a text of a value gives its tree and nothing is left over.
-/

namespace LiveShader.Json

/-! ## Quoted texts -/

namespace Quotation

theorem hexValue_of_isDigit {c : Char} {n : Nat} (h : IsDigit c n) : Text.hexValue c = some n := by
  have hall : ∀ n < 16, Text.hexValue (Text.hexDigit n) = some n ∧
      Text.hexValue (Text.hexDigit n).toUpper = some n := by decide
  obtain ⟨hn, rfl | rfl⟩ := h
  · exact (hall n hn).1
  · exact (hall n hn).2

theorem pieces_unit {n : Nat} {cs : List Char} (h : UnitWritten n cs) (rest : List Char) :
    pieces (cs ++ rest) = (.unit n :: (pieces rest).1, (pieces rest).2) := by
  obtain ⟨ha, hb, hc, hd⟩ := h
  rename_i a b c d i j k l
  have hu : unitOfDigits a b c d = some (i * 4096 + j * 256 + k * 16 + l) := by
    simp only [unitOfDigits, hexValue_of_isDigit ha, hexValue_of_isDigit hb, hexValue_of_isDigit hc,
      hexValue_of_isDigit hd, bind, Option.bind, pure, Option.some_inj]
    omega
  simp [pieces, hu]

theorem pieces_letter {c e : Char} (h : (e, c) ∈ letterEscapes) (rest : List Char) :
    pieces ('\\' :: e :: rest) = (.plain c :: (pieces rest).1, (pieces rest).2) := by
  simp only [letterEscapes, List.mem_cons, List.not_mem_nil, or_false, Prod.mk.injEq] at h
  rcases h with ⟨rfl, rfl⟩ | ⟨rfl, rfl⟩ | ⟨rfl, rfl⟩ | ⟨rfl, rfl⟩ | ⟨rfl, rfl⟩ | ⟨rfl, rfl⟩ |
    ⟨rfl, rfl⟩ | ⟨rfl, rfl⟩ <;> simp [pieces, escapedChar]

/-- A character is never half of a surrogate pair. -/
theorem isHigh_toNat (c : Char) : isHigh c.toNat = false ∧ isLow c.toNat = false := by
  have hv : c.toNat < 0xD800 ∨ 0xDFFF < c.toNat ∧ c.toNat < 0x110000 := c.valid
  simp only [isHigh, isLow, Bool.and_eq_false_iff, decide_eq_false_iff_not]
  omega

/-- The halves of a character beyond U+FFFF are joined to it. -/
theorem joined_halves {c : Char} (h : 0x10000 ≤ c.toNat) :
    joined (0xD800 + (c.toNat - 0x10000) / 0x400) (0xDC00 + (c.toNat - 0x10000) % 0x400) = c := by
  have hn : 0x10000 + (0xD800 + (c.toNat - 0x10000) / 0x400 - 0xD800) * 0x400 +
      (0xDC00 + (c.toNat - 0x10000) % 0x400 - 0xDC00) = c.toNat := by omega
  rw [joined, hn, Char.ofNat_toNat]

/-- However a character is written, its pieces stand for it. -/
theorem CharWritten.exists_pieces {c : Char} {cs : List Char} (h : CharWritten c cs) :
    ∃ ps, (∀ rest, pieces (cs ++ rest) = (ps ++ (pieces rest).1, (pieces rest).2)) ∧
      ∀ closing ps', decode closing (ps ++ ps') = (decode closing ps').map (c :: ·) := by
  cases h with
  | plain hquote hbackslash hcontrol =>
    exact ⟨[.plain c], fun rest => pieces_plain hquote hbackslash (by omega) rest, fun _ _ => rfl⟩
  | letter h => exact ⟨[.plain c], fun rest => pieces_letter h rest, fun _ _ => rfl⟩
  | unit _ h =>
    refine ⟨[.unit c.toNat], fun rest => pieces_unit h rest, fun closing ps' => ?_⟩
    obtain ⟨hhigh, hlow⟩ := isHigh_toNat c
    rw [List.singleton_append, decode.eq_def]
    simp only [hlow, hhigh, Bool.false_eq_true, if_false, Char.ofNat_toNat]
  | pair hc hhigh hlow =>
    rename_i cs₁ cs₂
    generalize hi : 0xD800 + (c.toNat - 0x10000) / 0x400 = high at hhigh
    generalize lo : 0xDC00 + (c.toNat - 0x10000) % 0x400 = low at hlow
    have hlt : c.toNat < 0x110000 := by
      have hv : c.toNat < 0xD800 ∨ 0xDFFF < c.toNat ∧ c.toNat < 0x110000 := c.valid
      omega
    have hjoined : joined high low = c := by rw [← hi, ← lo, joined_halves hc]
    have hh : isHigh high = true ∧ isLow high = false := by
      simp only [isHigh, isLow, Bool.and_eq_true, Bool.and_eq_false_iff, decide_eq_true_eq,
        decide_eq_false_iff_not]
      omega
    have hl : isLow low = true := by
      simp only [isLow, Bool.and_eq_true, decide_eq_true_eq]
      omega
    refine ⟨[.unit high, .unit low], fun rest => ?_, fun closing ps' => ?_⟩
    · rw [List.append_assoc, pieces_unit hhigh, pieces_unit hlow]
      rfl
    · simp [decode, hh, hl, hjoined]

theorem CharsWritten.exists_pieces {t cs : List Char} (h : CharsWritten t cs) :
    ∃ ps, (∀ rest, pieces (cs ++ rest) = (ps ++ (pieces rest).1, (pieces rest).2)) ∧
      ∀ closing ps', decode closing (ps ++ ps') = (decode closing ps').map (t ++ ·) := by
  induction h with
  | nil =>
    refine ⟨[], fun _ => rfl, fun closing ps' => ?_⟩
    rw [List.nil_append]
    cases decode closing ps' <;> rfl
  | cons hc _ ih =>
    obtain ⟨ps, hp, hd⟩ := hc.exists_pieces
    obtain ⟨ps', hp', hd'⟩ := ih
    refine ⟨ps ++ ps', fun rest => ?_, fun closing qs => ?_⟩
    · rw [List.append_assoc, hp, hp', List.append_assoc]
    · rw [List.append_assoc, hd, hd']
      cases decode closing qs <;> rfl

/-- **A quoted text is one token**, whatever escapes it is written with. -/
theorem Written.tokens {t : String} {cs : List Char} (h : Written t cs) (rest : List Char) :
    Json.tokens (cs ++ rest) = .text (.ok t) :: Json.tokens rest := by
  obtain ⟨h⟩ := h
  rename_i cs
  obtain ⟨ps, hp, hd⟩ := h.exists_pieces
  have hpieces : pieces (cs ++ '"' :: rest) = (ps, .quote, rest) := by
    rw [hp, pieces, List.append_nil]
  have hreading : reading ps .quote = .ok t := by
    have hdec := hd .quote []
    rw [List.append_nil] at hdec
    rw [reading, hdec]
    simp [decode, Closing.problem?, Except.map]
  have hq : Token.ofQuotation (cs ++ '"' :: rest) = (.text (.ok t), rest) := by
    rw [Token.ofQuotation, hpieces]
    dsimp only [Closing.problem?]
    rw [hreading]
  have hf (cs : List Char) : Token.first '"' cs = Token.ofQuotation cs := rfl
  rw [List.cons_append, List.cons_append, List.append_assoc, List.singleton_append,
    tokens_cons rfl, hf, hq]

end Quotation

/-! ## Blanks -/

theorem Blanks.tokens {ws : List Char} (h : Blanks ws) (rest : List Char) :
    Json.tokens (ws ++ rest) = Json.tokens rest := by
  induction ws with
  | nil => rfl
  | cons c ws ih =>
    have hc : Token.isSpace c = true := by
      have := h c (List.mem_cons_self ..)
      simpa [Token.isSpace, or_assoc] using this
    rw [List.cons_append, Json.tokens, if_pos hc]
    exact ih fun c hc => h c (List.mem_cons_of_mem _ hc)

/-! ## Numbers -/

/-- A text that does not go on with a number. -/
def Free (rest : List Char) : Prop :=
  ∀ c ∈ rest.head?, c.isDigit = false ∧ c ≠ '.' ∧ c ≠ 'e' ∧ c ≠ 'E'

theorem Free.blanks {ws rest : List Char} (hws : Blanks ws) (h : Free rest) :
    Free (ws ++ rest) := by
  cases ws with
  | nil => exact h
  | cons c ws =>
    have hc := hws c (List.mem_cons_self ..)
    simp only [List.mem_cons, List.not_mem_nil, or_false] at hc
    rintro _ ⟨⟩
    rcases hc with rfl | rfl | rfl | rfl <;> decide

namespace Numeral

theorem Digits.scan {ds rest : List Char} (h : Digits ds)
    (hrest : ∀ c ∈ rest.head?, c.isDigit = false) : digits (ds ++ rest) = .ok (ds, rest) := by
  have htake : (ds ++ rest).takeWhile Char.isDigit = ds := by
    rw [List.takeWhile_append_of_pos h.2]
    cases rest with
    | nil => simp
    | cons c rest => simp [hrest c rfl]
  have hdrop : (ds ++ rest).dropWhile Char.isDigit = rest := by
    rw [List.dropWhile_append_of_pos h.2]
    cases rest with
    | nil => rfl
    | cons c rest => simp [hrest c rfl]
  obtain ⟨d, ds', rfl⟩ := List.exists_cons_of_ne_nil h.1
  rw [digits, htake, hdrop]

theorem Digits.head_isDigit {ds : List Char} (h : Digits ds) (rest : List Char) :
    ∃ d ds', ds ++ rest = d :: ds' ∧ d.isDigit = true := by
  obtain ⟨d, ds', rfl⟩ := List.exists_cons_of_ne_nil h.1
  exact ⟨d, ds' ++ rest, rfl, h.2 d (List.mem_cons_self ..)⟩

theorem ne_of_isDigit {d c : Char} (h : d.isDigit = true) (hc : c.isDigit = false) : d ≠ c := by
  rintro rfl
  rw [h] at hc
  cases hc

theorem wholePart_append {ds rest : List Char} (h : Digits ds)
    (hzero : ds.head? = some '0' → ds = ['0']) (hrest : ∀ c ∈ rest.head?, c.isDigit = false) :
    wholePart (ds ++ rest) = .ok (ds, rest) := by
  rw [wholePart, h.scan hrest]
  split
  · next heq => simp at heq
  · next heq =>
    simp only [Except.ok.injEq, Prod.mk.injEq] at heq
    have hone := hzero (by rw [heq.1]; rfl)
    simp [heq.1] at hone
  · next heq => exact heq.symm

theorem FractionWritten.scan {ds cs rest : List Char} (h : FractionWritten ds cs)
    (hrest : ∀ c ∈ rest.head?, c.isDigit = false ∧ c ≠ '.') :
    fractionPart (cs ++ rest) = .ok (ds, rest) := by
  cases h with
  | none =>
    rw [List.nil_append]
    unfold fractionPart
    split
    · exact absurd rfl (hrest '.' rfl).2
    · rfl
  | digits h =>
    rw [List.cons_append, fractionPart]
    exact h.scan fun c hc => (hrest c hc).1

theorem ExponentWritten.scan {e : Option (Bool × List Char)} {cs rest : List Char}
    (h : ExponentWritten e cs) (hrest : Free rest) : exponentPart (cs ++ rest) = .ok (e, rest) := by
  have hdigits : ∀ c ∈ rest.head?, c.isDigit = false := fun c hc => (hrest c hc).1
  cases h with
  | none =>
    rw [List.nil_append]
    unfold exponentPart
    split
    · exact absurd rfl (hrest 'e' rfl).2.2.1
    · exact absurd rfl (hrest 'E' rfl).2.2.2
    · rfl
  | minus he h =>
    have hd := h.scan hdigits
    rcases he with rfl | rfl <;> simp [exponentPart, exponentSign, hd, Except.map]
  | plus he h =>
    have hd := h.scan hdigits
    rcases he with rfl | rfl <;> simp [exponentPart, exponentSign, hd, Except.map]
  | unsigned he h =>
    rename_i e ds
    have hsign : exponentSign (ds ++ rest) = (false, ds ++ rest) := by
      obtain ⟨d, ds', hcons, hd⟩ := h.head_isDigit rest
      have hminus : d ≠ '-' := ne_of_isDigit hd (by decide)
      have hplus : d ≠ '+' := ne_of_isDigit hd (by decide)
      rw [hcons]
      unfold exponentSign
      split <;> simp_all
    have hd := h.scan hdigits
    rcases he with rfl | rfl <;> simp [exponentPart, hsign, hd, Except.map]

/-- What follows the point or the exponent is no digit. -/
theorem ExponentWritten.free {e : Option (Bool × List Char)} {cs rest : List Char}
    (h : ExponentWritten e cs) (hrest : Free rest) :
    ∀ c ∈ (cs ++ rest).head?, c.isDigit = false ∧ c ≠ '.' := by
  cases h with
  | none => exact fun c hc => ⟨(hrest c hc).1, (hrest c hc).2.1⟩
  | minus he _ | plus he _ | unsigned he _ =>
    rintro _ ⟨⟩
    rcases he with rfl | rfl <;> decide

theorem FractionWritten.noDigit {ds cs rest : List Char} (h : FractionWritten ds cs)
    (hrest : ∀ c ∈ rest.head?, c.isDigit = false ∧ c ≠ '.') :
    ∀ c ∈ (cs ++ rest).head?, c.isDigit = false := by
  cases h with
  | none => exact fun c hc => (hrest c hc).1
  | digits h =>
    rintro _ ⟨⟩
    decide

/-- **A number is scanned as it is written**, unless what follows goes on with it. -/
theorem Written.scan {w : Numeral} {cs : List Char} (h : w.Written cs) {rest : List Char}
    (hrest : Free rest) : Numeral.scan (cs ++ rest) = .ok (w, rest) := by
  obtain ⟨hwhole, hzero, hfraction, hexponent⟩ := h
  rename_i fraction exponent
  have hafter := hexponent.free hrest
  have hw := wholePart_append hwhole hzero (hfraction.noDigit hafter)
  have hf := hfraction.scan hafter
  have he := hexponent.scan hrest
  have hminus : minusSign (((if w.negative then ['-'] else []) ++
      (w.whole ++ (fraction ++ exponent))) ++ rest) =
        (w.negative, w.whole ++ (fraction ++ (exponent ++ rest))) := by
    obtain ⟨d, ds, hcons, hd⟩ := hwhole.head_isDigit (fraction ++ (exponent ++ rest))
    have hd' : d ≠ '-' := ne_of_isDigit hd (by decide)
    simp only [List.append_assoc, hcons]
    cases w.negative with
    | true => rfl
    | false =>
      simp only [Bool.false_eq_true, if_false, List.nil_append]
      unfold minusSign
      split <;> simp_all
  simp only [Numeral.scan, hminus, bind, Except.bind, hw, hf, he]
  rfl

/-- A number starts with a minus sign or a digit. -/
theorem Written.head {w : Numeral} {cs : List Char} (h : w.Written cs) :
    ∃ c cs', cs = c :: cs' ∧ (c = '-' ∨ c.isDigit = true) := by
  obtain ⟨hwhole, -, -, -⟩ := h
  rename_i fraction exponent
  obtain ⟨d, ds, hcons, hd⟩ := hwhole.head_isDigit (fraction ++ exponent)
  rw [hcons]
  cases w.negative with
  | true => exact ⟨_, _, rfl, .inl rfl⟩
  | false => exact ⟨_, _, rfl, .inr hd⟩

end Numeral

theorem first_of_number {c : Char} (h : c = '-' ∨ c.isDigit = true) (cs : List Char) :
    Token.isSpace c = false ∧ Token.first c cs = Token.ofNumber (c :: cs) := by
  rcases h with rfl | h
  · exact ⟨rfl, rfl⟩
  · have hne (d : Char) (hd : d.isDigit = false) : c ≠ d := Numeral.ne_of_isDigit h hd
    constructor
    · simp [Token.isSpace, hne ' ' rfl, hne '\n' rfl, hne '\t' rfl, hne '\r' rfl]
    · unfold Token.first
      split
      any_goals (exfalso; revert h; decide)
      rw [if_pos (.inr h)]

theorem Numeral.Written.tokens {w : Numeral} {cs : List Char} (h : w.Written cs) {rest : List Char}
    (hrest : Free rest) :
    Json.tokens (cs ++ rest) = .bare (w.value.map .number) :: Json.tokens rest := by
  obtain ⟨c, cs', rfl, hc⟩ := h.head
  obtain ⟨hspace, hfirst⟩ := first_of_number hc (cs' ++ rest)
  have hscan := h.scan hrest
  rw [List.cons_append] at hscan ⊢
  rw [tokens_cons hspace, hfirst, Token.ofNumber, hscan]

/-! ## Values -/

theorem KeyWritten.tokens {k : String} {cs : List Char} (h : KeyWritten k cs) (rest : List Char) :
    Json.tokens (cs ++ rest) = .text (.ok k) :: Json.tokens rest := by
  obtain ⟨hws, hk, hws'⟩ := h
  rw [List.append_assoc, List.append_assoc, hws.tokens, hk.tokens, hws'.tokens]

theorem free_cons {c : Char} {rest : List Char} (h : c ∈ [',', ']', '\x7d']) :
    Free (c :: rest) := by
  simp only [List.mem_cons, List.not_mem_nil, or_false] at h
  rintro _ ⟨⟩
  rcases h with rfl | rfl | rfl <;> decide

theorem free_nil : Free [] := by
  rintro _ ⟨⟩

/-- The token of a punctuation mark. -/
def Token.ofMark : Char → Option Token
  | '[' => some .openSeq
  | ']' => some .closeSeq
  | '\x7b' => some .openMap
  | '\x7d' => some .closeMap
  | ',' => some .comma
  | ':' => some .colon
  | _ => none

/-- A punctuation mark is a token of its own. -/
theorem tokens_mark (c : Char) {t : Token} (h : Token.ofMark c = some t) (rest : List Char) :
    tokens (c :: rest) = t :: tokens rest := by
  unfold Token.ofMark at h
  split at h <;> cases h <;> exact tokens_cons rfl rest

mutual

/-- **A text of a value is cut into the value's tokens.** -/
theorem Value.Bare.tokens : {v : Value} → {cs : List Char} → v.Bare cs → {rest : List Char} →
    Free rest → Json.tokens (cs ++ rest) = v.tokens ++ Json.tokens rest
  | _, _, .null, rest, _ => (reads_word rfl fun _ => rfl) rest
  | _, _, .yes, rest, _ => (reads_word rfl fun _ => rfl) rest
  | _, _, .no, rest, _ => (reads_word rfl fun _ => rfl) rest
  | _, _, .number h, _, hrest => h.tokens hrest
  | _, _, .text h, rest, _ => h.tokens rest
  | _, _, .emptySeq hws, rest, _ => by
    rw [List.cons_append, List.append_assoc, tokens_mark '[' rfl, hws.tokens, List.singleton_append,
      tokens_mark ']' rfl]
    rfl
  | _, _, .seq h, rest, _ => by
    rw [List.cons_append, List.append_assoc, tokens_mark '[' rfl, List.singleton_append,
      h.tokens (free_cons (by simp)), tokens_mark ']' rfl]
    simp [Value.tokens]
  | _, _, .emptyMap hws, rest, _ => by
    rw [List.cons_append, List.append_assoc, tokens_mark '\x7b' rfl, hws.tokens,
      List.singleton_append, tokens_mark '\x7d' rfl]
    rfl
  | _, _, .map h, rest, _ => by
    rw [List.cons_append, List.append_assoc, tokens_mark '\x7b' rfl, List.singleton_append,
      h.tokens (free_cons (by simp)), tokens_mark '\x7d' rfl]
    simp [Value.tokens]

theorem Value.Written.tokens : {v : Value} → {cs : List Char} → v.Written cs →
    {rest : List Char} → Free rest → Json.tokens (cs ++ rest) = v.tokens ++ Json.tokens rest
  | _, _, .padded hws hv hws', rest, hrest => by
    rw [List.append_assoc, List.append_assoc, hws.tokens, hv.tokens (hrest.blanks hws'),
      hws'.tokens]

theorem Value.ItemsWritten.tokens : {vs : List Value} → {cs : List Char} →
    Value.ItemsWritten vs cs → {rest : List Char} → Free rest →
    Json.tokens (cs ++ rest) = (Value.itemTokens vs).drop 1 ++ Json.tokens rest
  | _, _, .last hv, rest, hrest => by
    rw [hv.tokens hrest]
    simp [Value.itemTokens]
  | _, _, .cons hv hvs, rest, hrest => by
    rw [List.append_assoc, List.cons_append, hv.tokens (free_cons (by simp)), tokens_mark ',' rfl,
      hvs.tokens hrest]
    cases hvs <;> simp [Value.itemTokens]

theorem Value.MembersWritten.tokens : {ms : List (String × Value)} → {cs : List Char} →
    Value.MembersWritten ms cs → {rest : List Char} → Free rest →
    Json.tokens (cs ++ rest) = (Value.memberTokens ms).drop 1 ++ Json.tokens rest
  | _, _, .last hk hv, rest, hrest => by
    rw [List.append_assoc, hk.tokens, List.cons_append, tokens_mark ':' rfl, hv.tokens hrest]
    simp [Value.memberTokens]
  | _, _, .cons hk hv hms, rest, hrest => by
    rw [List.append_assoc, hk.tokens, List.cons_append, tokens_mark ':' rfl, List.append_assoc,
      List.cons_append, hv.tokens (free_cons (by simp)), tokens_mark ',' rfl, hms.tokens hrest]
    cases hms <;> simp [Value.memberTokens]

end

/-- **A text of a value gives its tree**, and nothing is left over. -/
theorem Value.Written.ofTokens {v : Value} {cs : List Char} (h : v.Written cs) :
    Doc.ofTokens (Json.tokens cs) = (v.doc, []) := by
  have hr := h.tokens free_nil
  have ht := v.run_tokens [] []
  rw [List.append_nil] at hr
  rw [hr, Doc.ofTokens, Json.tokens, ht]
  rfl

end LiveShader.Json
