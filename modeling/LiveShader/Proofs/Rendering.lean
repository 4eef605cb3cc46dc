import LiveShader.Json.Doc
import LiveShader.Json.Value

/-!
# Compact texts read back

The compact text of a value is cut into the tokens that the value consists of, and these build the
value's tree again. Both halves are stated for what stands in the middle of a longer text: whatever
follows, on the page or among the tokens, is left for whoever reads on. So values inside of values
need no induction of their own.

* `Reads` says that a text is cut into certain tokens before any other text.
* Numbers are left out (`Value.isWordy`): where one ends depends on what follows.

Results:
* `reads_quote`: a quoted text is one token, whatever characters it has.
* `Value.reads_render`: the compact text of a value is cut into the value's tokens.
* `Value.run_tokens`: the tokens of a value build its tree.
* `Value.ofTokens_render`: the compact text of a value gives its tree and nothing is left over.
-/

namespace LiveShader.Json

/-! ## Quoted texts -/

namespace Quotation

/-- The characters with an escape of one letter. -/
def lettered : List Char :=
  ['"', '\\', '\x08', '\x0c', '\n', '\r', '\t']

/-- The piece that an escaped character is read as. -/
def pieceOf (c : Char) : Piece :=
  if c.toNat < 0x20 ∧ c ∉ lettered then .unit c.toNat else .plain c

theorem unitOfDigits_hex {n : Nat} (h : n < 0x20) :
    unitOfDigits '0' '0' (Text.hexDigit (n / 16)) (Text.hexDigit (n % 16)) = some n := by
  have hzero : Text.hexValue '0' = some 0 := by decide
  have hhigh := Text.hexValue_hexDigit (n / 16) (by omega)
  have hlow := Text.hexValue_hexDigit (n % 16) (by omega)
  simp only [unitOfDigits, hzero, hhigh, hlow, bind, Option.bind, pure, Option.some_inj]
  omega

theorem pieces_plain {c : Char} (hq : c ≠ '"') (hb : c ≠ '\\') (hc : ¬ c.toNat < 0x20)
    (cs : List Char) : pieces (c :: cs) = (.plain c :: (pieces cs).1, (pieces cs).2) := by
  rw [pieces]
  · simp [hc]
  all_goals simp [hq, hb]

/-- **An escaped character is one piece.** -/
theorem pieces_escaped (c : Char) (cs : List Char) :
    pieces (escaped c ++ cs) = (pieceOf c :: (pieces cs).1, (pieces cs).2) := by
  by_cases hl : c ∈ lettered
  · have hp : pieceOf c = .plain c := by simp [pieceOf, hl]
    rw [hp]
    simp only [lettered, List.mem_cons, List.not_mem_nil, or_false] at hl
    rcases hl with rfl | rfl | rfl | rfl | rfl | rfl | rfl <;> simp [escaped, pieces, escapedChar]
  have hl' := hl
  simp only [lettered, List.mem_cons, List.not_mem_nil, or_false, not_or] at hl'
  obtain ⟨hq, hb, h8, hc, hn, hr, ht⟩ := hl'
  by_cases h : c.toNat < 0x20
  · have he : escaped c = ['\\', 'u', '0', '0', Text.hexDigit (c.toNat / 16),
        Text.hexDigit (c.toNat % 16)] := by
      simp [escaped, hq, hb, h8, hc, hn, hr, ht, h]
    have hp : pieceOf c = .unit c.toNat := if_pos ⟨h, hl⟩
    rw [he, hp]
    simp [pieces, unitOfDigits_hex h]
  · have he : escaped c = [c] := by simp [escaped, hq, hb, h8, hc, hn, hr, ht, h]
    have hp : pieceOf c = .plain c := if_neg fun hp => h hp.1
    rw [he, hp]
    exact pieces_plain hq hb h cs

/-- The pieces of an escaped text, up to the quote that ends it. -/
theorem pieces_flatMap_escaped (t rest : List Char) :
    pieces (t.flatMap escaped ++ '"' :: rest) = (t.map pieceOf, .quote, rest) := by
  induction t with
  | nil => simp [pieces]
  | cons c t ih =>
    rw [List.flatMap_cons, List.append_assoc, pieces_escaped, ih]
    rfl

/-- The piece of a character stands for it. -/
theorem decode_pieceOf (closing : Closing) (c : Char) (ps : List Piece) :
    decode closing (pieceOf c :: ps) = (decode closing ps).map (c :: ·) := by
  unfold pieceOf
  split
  · next h =>
    have hlow : isLow c.toNat = false := by
      simp only [isLow, Bool.and_eq_false_iff, decide_eq_false_iff_not]
      omega
    have hhigh : isHigh c.toNat = false := by
      simp only [isHigh, Bool.and_eq_false_iff, decide_eq_false_iff_not]
      omega
    rw [decode.eq_def]
    simp only [hlow, hhigh, Bool.false_eq_true, if_false, Char.ofNat_toNat]
  · rfl

theorem reading_escaped (t : List Char) :
    reading (t.map pieceOf) .quote = .ok (String.ofList t) := by
  have hd : decode .quote (t.map pieceOf) = .ok t := by
    induction t with
    | nil => rfl
    | cons c t ih =>
      rw [List.map_cons, decode_pieceOf, ih]
      rfl
  rw [reading, hd]
  rfl

end Quotation

/-! ## Texts and their tokens -/

/-- A text that is cut into `ts`, whatever follows it. -/
def Reads (cs : List Char) (ts : List Token) : Prop :=
  ∀ rest, tokens (cs ++ rest) = ts ++ tokens rest

theorem tokens_cons {c : Char} (h : Token.isSpace c = false) (cs : List Char) :
    tokens (c :: cs) = (Token.first c cs).1 :: tokens (Token.first c cs).2 := by
  rw [tokens]
  simp [h]

theorem Reads.nil : Reads [] [] := fun _ => rfl

theorem Reads.append {cs cs' : List Char} {ts ts' : List Token} (h : Reads cs ts)
    (h' : Reads cs' ts') : Reads (cs ++ cs') (ts ++ ts') := by
  intro rest
  rw [List.append_assoc, h, h', List.append_assoc]

/-- A character that is a token of its own. -/
theorem Reads.cons {c : Char} {t : Token} {cs : List Char} {ts : List Token}
    (hc : Token.isSpace c = false) (ht : ∀ rest, Token.first c rest = (t, rest)) (h : Reads cs ts) :
    Reads (c :: cs) (t :: ts) := by
  intro rest
  rw [List.cons_append, tokens_cons hc, ht, h]
  rfl

theorem afterWord_append (word rest : List Char) :
    Token.afterWord word (word ++ rest) = .ok rest := by
  induction word with
  | nil => rfl
  | cons c word ih => simpa [Token.afterWord] using ih

/-- A literal name is a scalar. -/
theorem reads_word {c : Char} {word : List Char} {s : Scalar} (hc : Token.isSpace c = false)
    (hw : ∀ rest, Token.first c rest = Token.ofWord word s rest) :
    Reads (c :: word) [.bare (.ok s)] := by
  intro rest
  rw [List.cons_append, tokens_cons hc, hw, Token.ofWord, afterWord_append]
  rfl

/-- **A quoted text is one token**, whatever characters it has. -/
theorem reads_quote (t : String) : Reads (quote t) [.text (.ok t)] := by
  intro rest
  have hq : Token.ofQuotation (t.toList.flatMap escaped ++ '"' :: rest) =
      (.text (.ok t), rest) := by
    rw [Token.ofQuotation, Quotation.pieces_flatMap_escaped]
    dsimp only [Quotation.Closing.problem?]
    rw [Quotation.reading_escaped, String.ofList_toList]
  have hf (cs : List Char) : Token.first '"' cs = Token.ofQuotation cs := rfl
  rw [quote, List.cons_append, List.cons_append, List.append_assoc, List.singleton_append,
    tokens_cons rfl, hf, hq]
  rfl

/-! ## Values -/

mutual

/-- Whether a value has no number in it. -/
def Value.isWordy : Value → Bool
  | .null | .bool _ | .text _ => true
  | .number _ => false
  | .seq items => Value.itemsWordy items
  | .map members => Value.membersWordy members

/-- Whether items have no number in them. -/
def Value.itemsWordy : List Value → Bool
  | [] => true
  | v :: vs => v.isWordy && Value.itemsWordy vs

/-- Whether members have no number in them. -/
def Value.membersWordy : List (String × Value) → Bool
  | [] => true
  | (_, v) :: ms => v.isWordy && Value.membersWordy ms

end

mutual

/-- The tokens of a value. -/
def Value.tokens : Value → List Token
  | .null => [.bare (.ok .null)]
  | .bool b => [.bare (.ok (.bool b))]
  | .number w => [.bare (w.value.map .number)]
  | .text t => [.text (.ok t)]
  | .seq items => .openSeq :: (Value.itemTokens items).drop 1 ++ [.closeSeq]
  | .map members => .openMap :: (Value.memberTokens members).drop 1 ++ [.closeMap]

/-- The tokens of items, each after a comma. -/
def Value.itemTokens : List Value → List Token
  | [] => []
  | v :: vs => .comma :: v.tokens ++ Value.itemTokens vs

/-- The tokens of members, each after a comma. -/
def Value.memberTokens : List (String × Value) → List Token
  | [] => []
  | (k, v) :: ms => .comma :: .text (.ok k) :: .colon :: v.tokens ++ Value.memberTokens ms

end

mutual

/-- The tree of a value. -/
def Value.doc : Value → Doc
  | .null => .bare (.ok .null)
  | .bool b => .bare (.ok (.bool b))
  | .number w => .bare (w.value.map .number)
  | .text t => .text (.ok t)
  | .seq items => .seq (Value.itemDocs items)
  | .map members => .map (Value.memberDocs members)

/-- The trees of items. -/
def Value.itemDocs : List Value → Items
  | [] => .stop .closed
  | v :: vs => .item v.doc (Value.itemDocs vs)

/-- The trees of members. -/
def Value.memberDocs : List (String × Value) → Members
  | [] => .stop .closed
  | (k, v) :: ms => .member (.ok k) v.doc (Value.memberDocs ms)

end

/-! ### From the text to the tokens -/

theorem Reads.member (k : String) {cs : List Char} {ts : List Token} (h : Reads cs ts) :
    Reads (quote k ++ ':' :: cs) (.text (.ok k) :: .colon :: ts) :=
  (reads_quote k).append (.cons rfl (fun _ => rfl) h)

mutual

/-- **The compact text of a value is cut into the value's tokens.** -/
theorem Value.reads_render : (v : Value) → v.isWordy = true → Reads v.render v.tokens
  | .null, _ => reads_word rfl fun _ => rfl
  | .bool true, _ => reads_word rfl fun _ => rfl
  | .bool false, _ => reads_word rfl fun _ => rfl
  | .text t, _ => reads_quote t
  | .seq [], _ => .cons rfl (fun _ => rfl) (.cons rfl (fun _ => rfl) .nil)
  | .seq (v :: vs), h => by
    rw [isWordy, itemsWordy, Bool.and_eq_true] at h
    have hitems := (v.reads_render h.1).append (Value.reads_renderItems vs h.2)
    exact .cons rfl (fun _ => rfl) (hitems.append (.cons rfl (fun _ => rfl) .nil))
  | .map [], _ => .cons rfl (fun _ => rfl) (.cons rfl (fun _ => rfl) .nil)
  | .map ((k, v) :: ms), h => by
    rw [isWordy, membersWordy, Bool.and_eq_true] at h
    have hmembers := ((v.reads_render h.1).member k).append (Value.reads_renderMembers ms h.2)
    exact .cons rfl (fun _ => rfl) (hmembers.append (.cons rfl (fun _ => rfl) .nil))

theorem Value.reads_renderItems : (vs : List Value) → Value.itemsWordy vs = true →
    Reads (Value.renderItems vs) (Value.itemTokens vs)
  | [], _ => .nil
  | v :: vs, h => by
    rw [itemsWordy, Bool.and_eq_true] at h
    exact .cons rfl (fun _ => rfl) ((v.reads_render h.1).append (Value.reads_renderItems vs h.2))

theorem Value.reads_renderMembers : (ms : List (String × Value)) → Value.membersWordy ms = true →
    Reads (Value.renderMembers ms) (Value.memberTokens ms)
  | [], _ => .nil
  | (k, v) :: ms, h => by
    rw [membersWordy, Bool.and_eq_true] at h
    exact .cons rfl (fun _ => rfl)
      (((v.reads_render h.1).member k).append (Value.reads_renderMembers ms h.2))

end

/-! ### From the tokens to the tree -/

/-- Items before others. The last one of `before` comes first. -/
def Items.after (before : List Doc) (rest : Items) : Items :=
  before.foldl (fun rest d => .item d rest) rest

/-- Members before others. The last one of `before` comes first. -/
def Members.after (before : List (Except Problem String × Doc)) (rest : Members) : Members :=
  before.foldl (fun rest m => .member m.1 m.2 rest) rest

/-- A token that can start a value. -/
def Token.starts : Token → Bool
  | .openSeq | .openMap | .text _ | .bare _ => true
  | _ => false

theorem Value.tokens_eq_cons (v : Value) : ∃ t ts, v.tokens = t :: ts ∧ t.starts = true := by
  cases v <;> exact ⟨_, _, rfl, rfl⟩

/-- Where an item may come, a value may start. -/
theorem State.run_item (v : Value) (before : List Doc) (around : List Frame) (ts : List Token) :
    (State.item before around).run (v.tokens ++ ts) =
      (State.value (.seq before :: around)).run (v.tokens ++ ts) := by
  obtain ⟨t, ts', hv, ht⟩ := v.tokens_eq_cons
  have hs : (State.item before around).step t = State.start (.seq before :: around) t := by
    cases t <;> cases before <;> first | rfl | cases ht
  rw [hv, List.cons_append, State.run, State.run, hs]
  · rfl
  all_goals simp

mutual

/-- **The tokens of a value build its tree**, which then takes its place. -/
theorem Value.run_tokens : (v : Value) → (around : List Frame) → (ts : List Token) →
    (State.value around).run (v.tokens ++ ts) = (State.supply v.doc around).run ts
  | .null, _, _ => rfl
  | .bool _, _, _ => rfl
  | .number _, _, _ => rfl
  | .text _, _, _ => rfl
  | .seq [], _, _ => rfl
  | .seq (v :: vs), around, ts => by
    have hsplit : (Value.seq (v :: vs)).tokens ++ ts =
        .openSeq :: (v.tokens ++ (Value.itemTokens vs ++ .closeSeq :: ts)) := by
      simp [tokens, itemTokens]
    calc (State.value around).run ((Value.seq (v :: vs)).tokens ++ ts)
      _ = (State.item [] around).run (v.tokens ++ (Value.itemTokens vs ++ .closeSeq :: ts)) := by
        rw [hsplit]
        rfl
      _ = (State.afterItem [v.doc] around).run (Value.itemTokens vs ++ .closeSeq :: ts) := by
        rw [State.run_item, v.run_tokens]
        rfl
      _ = (State.supply (Value.seq (v :: vs)).doc around).run ts := Value.run_itemTokens vs ..
  | .map [], _, _ => rfl
  | .map ((k, v) :: ms), around, ts => by
    have hsplit : (Value.map ((k, v) :: ms)).tokens ++ ts = .openMap :: .text (.ok k) :: .colon ::
        (v.tokens ++ (Value.memberTokens ms ++ .closeMap :: ts)) := by
      simp [tokens, memberTokens]
    calc (State.value around).run ((Value.map ((k, v) :: ms)).tokens ++ ts)
      _ = (State.value (.map [] (.ok k) :: around)).run
          (v.tokens ++ (Value.memberTokens ms ++ .closeMap :: ts)) := by
        rw [hsplit]
        rfl
      _ = (State.afterMember [(.ok k, v.doc)] around).run
          (Value.memberTokens ms ++ .closeMap :: ts) := v.run_tokens ..
      _ = (State.supply (Value.map ((k, v) :: ms)).doc around).run ts :=
        Value.run_memberTokens ms ..

theorem Value.run_itemTokens : (vs : List Value) → (before : List Doc) → (around : List Frame) →
    (ts : List Token) →
    (State.afterItem before around).run (Value.itemTokens vs ++ .closeSeq :: ts) =
      (State.supply (.seq (.after before (Value.itemDocs vs))) around).run ts
  | [], _, _, _ => rfl
  | v :: vs, before, around, ts => by
    calc (State.afterItem before around).run (Value.itemTokens (v :: vs) ++ .closeSeq :: ts)
      _ = (State.item before around).run
          (v.tokens ++ (Value.itemTokens vs ++ .closeSeq :: ts)) := by
        rw [itemTokens, List.cons_append, List.cons_append, List.append_assoc]
        rfl
      _ = (State.afterItem (v.doc :: before) around).run
          (Value.itemTokens vs ++ .closeSeq :: ts) := by
        rw [State.run_item, v.run_tokens]
        rfl
      _ = _ := Value.run_itemTokens vs ..

theorem Value.run_memberTokens : (ms : List (String × Value)) →
    (before : List (Except Problem String × Doc)) → (around : List Frame) → (ts : List Token) →
    (State.afterMember before around).run (Value.memberTokens ms ++ .closeMap :: ts) =
      (State.supply (.map (.after before (Value.memberDocs ms))) around).run ts
  | [], _, _, _ => rfl
  | (k, v) :: ms, before, around, ts => by
    calc (State.afterMember before around).run
          (Value.memberTokens ((k, v) :: ms) ++ .closeMap :: ts)
      _ = (State.value (.map before (.ok k) :: around)).run
          (v.tokens ++ (Value.memberTokens ms ++ .closeMap :: ts)) := by
        simp only [memberTokens, List.cons_append, List.append_assoc]
        rfl
      _ = (State.afterMember ((.ok k, v.doc) :: before) around).run
          (Value.memberTokens ms ++ .closeMap :: ts) := v.run_tokens ..
      _ = _ := Value.run_memberTokens ms ..

end

/-- **The compact text of a value gives its tree**, and nothing is left over. -/
theorem Value.ofTokens_render (v : Value) (h : v.isWordy = true) :
    Doc.ofTokens (Json.tokens v.render) = (v.doc, []) := by
  have hr := v.reads_render h []
  have ht := v.run_tokens [] []
  rw [List.append_nil] at hr ht
  rw [hr, Doc.ofTokens, Json.tokens, List.append_nil, ht]
  rfl

end LiveShader.Json
