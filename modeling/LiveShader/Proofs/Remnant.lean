import LiveShader.Proofs.Rendering

/-!
# What is left of a text that ends too early

A text may break off anywhere. What is left of it is cut into the tokens that came whole and perhaps
the beginning of one more, and these build the tree of the whole text as far as it goes. At the
place of the cut stands a leaf or the end of a container that says so.

* `Short` says that something is missing at the end of a list.
* `Token.Cut` and `Doc.Cut` say what is left of tokens and of a tree.
* Numbers are left out, as in compact texts read back: one that ends too early may be a number too.

Results:
* `breaks_quote`: a quoted text that ends too early is the beginning of one token, wherever it ends.
* `Value.breaks_render`: a compact text that ends too early is cut into what is left of the tokens.
* `Value.leaves`: what is left of the tokens of a value builds what is left of its tree.
* `Value.cut_ofTokens`: so what is left of a compact text gives what is left of the tree.
-/

namespace LiveShader.Json

/-! ## Lists that end too early -/

section

variable {α : Type} {a : α} {as as' l l' : List α}

/-- `as` is `l` with something missing at its end. -/
def Short (as l : List α) : Prop :=
  ∃ rest, rest ≠ [] ∧ as ++ rest = l

theorem not_short_nil : ¬ Short as [] := by
  rintro ⟨rest, hrest, h⟩
  exact hrest (List.append_eq_nil_iff.mp h).2

theorem short_cons : Short as (a :: l) ↔ as = [] ∨ ∃ as', as = a :: as' ∧ Short as' l := by
  constructor
  · rintro ⟨rest, hrest, h⟩
    cases as with
    | nil => exact .inl rfl
    | cons b as =>
      obtain ⟨rfl, hl⟩ := List.cons_eq_cons.mp h
      exact .inr ⟨as, rfl, rest, hrest, hl⟩
  · rintro (rfl | ⟨as', rfl, rest, hrest, h⟩)
    · exact ⟨a :: l, by simp, rfl⟩
    · exact ⟨rest, hrest, by rw [List.cons_append, h]⟩

theorem short_singleton : Short as [a] ↔ as = [] := by
  simp [short_cons, not_short_nil]

theorem short_append (h : Short as (l ++ l')) :
    Short as l ∨ ∃ as', as = l ++ as' ∧ Short as' l' := by
  induction l generalizing as with
  | nil => exact .inr ⟨as, rfl, h⟩
  | cons a l ih =>
    rcases short_cons.mp h with rfl | ⟨as, rfl, htail⟩
    · exact .inl (short_cons.mpr (.inl rfl))
    rcases ih htail with hl | ⟨as', rfl, hl'⟩
    · exact .inl (short_cons.mpr (.inr ⟨as, rfl, hl⟩))
    · exact .inr ⟨as', rfl, hl'⟩

end

/-! ## Quoted texts -/

namespace Quotation

/-- A character is escaped by a letter, by its number, or not at all. -/
theorem escaped_cases (c : Char) : (∃ e, escaped c = ['\\', e]) ∨
    (c.toNat < 0x20 ∧ escaped c = ['\\', 'u', '0', '0', Text.hexDigit (c.toNat / 16),
      Text.hexDigit (c.toNat % 16)]) ∨ escaped c = [c] := by
  unfold escaped
  repeat' split
  any_goals exact .inl ⟨_, rfl⟩
  · next h => exact .inr (.inl ⟨h, rfl⟩)
  · exact .inr (.inr rfl)

/-- Fewer than four bytes after the `u` of an escape. -/
theorem pieces_few {ds : List Char} (hlen : ds.length < 4) (h : underFourBytes ds = true) :
    pieces ('\\' :: 'u' :: ds) = ([], .cutOff, ds) := by
  rw [pieces, if_pos h]
  rintro a b c d cs rfl
  simp only [List.length_cons] at hlen
  omega

/-- An escape that ends too early has no piece. -/
theorem pieces_short_escaped {c : Char} {cs : List Char} (h : Short cs (escaped c)) :
    ∃ rest, pieces cs = ([], .cutOff, rest) := by
  have hnil : pieces [] = ([], .cutOff, []) := by rw [pieces]
  have hbackslash : pieces ['\\'] = ([], .cutOff, []) := by simp [pieces]
  rcases escaped_cases c with ⟨e, he⟩ | ⟨hc, he⟩ | he
  · simp only [he, short_cons, not_short_nil, and_false, exists_false, or_false] at h
    rcases h with rfl | ⟨_, rfl, rfl⟩
    · exact ⟨_, hnil⟩
    · exact ⟨_, hbackslash⟩
  · have hhigh : Text.hexDigit (c.toNat / 16) = '0' ∨ Text.hexDigit (c.toNat / 16) = '1' := by
      have hn : c.toNat / 16 = 0 ∨ c.toNat / 16 = 1 := by omega
      rcases hn with hn | hn <;> rw [hn] <;> decide
    generalize Text.hexDigit (c.toNat / 16) = high at he hhigh
    simp only [he, short_cons, not_short_nil, and_false, exists_false, or_false] at h
    rcases h with rfl | ⟨_, rfl, rfl | ⟨_, rfl, h⟩⟩
    · exact ⟨_, hnil⟩
    · exact ⟨_, hbackslash⟩
    rcases h with rfl | ⟨_, rfl, rfl | ⟨_, rfl, rfl | ⟨_, rfl, rfl⟩⟩⟩
    · exact ⟨_, pieces_few (by decide) (by decide)⟩
    · exact ⟨_, pieces_few (by decide) (by decide)⟩
    · exact ⟨_, pieces_few (by decide) (by decide)⟩
    · rcases hhigh with rfl | rfl <;> exact ⟨_, pieces_few (by decide) (by decide)⟩
  · obtain rfl := short_singleton.mp (he ▸ h)
    exact ⟨_, hnil⟩

/-- The pieces of an escaped text that ends too early read as a text that was cut off. -/
theorem pieces_short (t : List Char) {cs : List Char} (h : Short cs (t.flatMap escaped ++ ['"'])) :
    ∃ ps rest, pieces cs = (ps, .cutOff, rest) ∧ decode .cutOff ps = .error .textCutOff := by
  induction t generalizing cs with
  | nil =>
    obtain rfl := short_singleton.mp h
    exact ⟨[], [], by rw [pieces], rfl⟩
  | cons c t ih =>
    rw [List.flatMap_cons, List.append_assoc] at h
    rcases short_append h with hc | ⟨cs, rfl, ht⟩
    · obtain ⟨rest, hp⟩ := pieces_short_escaped hc
      exact ⟨[], rest, hp, rfl⟩
    · obtain ⟨ps, rest, hp, hd⟩ := ih ht
      refine ⟨pieceOf c :: ps, rest, by rw [pieces_escaped, hp], ?_⟩
      rw [decode_pieceOf, hd]
      rfl

end Quotation

/-! ## Tokens -/

namespace Token

/-- The beginning of a token, where the text ends. -/
inductive Begun : Token → Token → Prop where
  | text {r : Except Problem String} : Begun (.brokenText (.both .textCutOff)) (.text r)
  | bare {r : Except Problem Scalar} : Begun (.broken (.both .valueCutOff)) (.bare r)

/-- What is left of tokens: the first ones, and perhaps the beginning of one more. -/
inductive Cut : List Token → List Token → Prop where
  | here {t : Token} {ts : List Token} : Cut [] (t :: ts)
  | within {t' t : Token} {ts : List Token} (h : Begun t' t) : Cut [t'] (t :: ts)
  | later {t : Token} {ts' ts : List Token} (h : Cut ts' ts) : Cut (t :: ts') (t :: ts)

variable {ts ts' us us' : List Token}

theorem Cut.append (h : Cut ts' ts) (us : List Token) : Cut ts' (ts ++ us) := by
  induction h with
  | here => exact .here
  | within h => exact .within h
  | later _ ih => exact .later ih

theorem Cut.after (ts : List Token) (h : Cut us' us) : Cut (ts ++ us') (ts ++ us) := by
  induction ts with
  | nil => exact h
  | cons t ts ih => exact .later ih

theorem Cut.split (h : Cut ts' (ts ++ us)) :
    Cut ts' ts ∨ ∃ us', ts' = ts ++ us' ∧ Cut us' us := by
  induction ts generalizing ts' with
  | nil => exact .inr ⟨ts', rfl, h⟩
  | cons t ts ih =>
    cases h with
    | here => exact .inl .here
    | within h => exact .inl (.within h)
    | later h =>
      rcases ih h with hts | ⟨us', rfl, hus⟩
      · exact .inl (.later hts)
      · exact .inr ⟨us', rfl, hus⟩

end Token

/-- A text that, wherever it ends too early, is cut into what is left of `ts`. -/
def Breaks (cs : List Char) (ts : List Token) : Prop :=
  ∀ cs', Short cs' cs → Token.Cut (tokens cs') ts

theorem Breaks.nil {ts : List Token} : Breaks [] ts :=
  fun _ h => absurd h not_short_nil

theorem Breaks.append {cs cs' : List Char} {ts ts' : List Token} (h : Breaks cs ts)
    (hr : Reads cs ts) (h' : Breaks cs' ts') : Breaks (cs ++ cs') (ts ++ ts') := by
  intro cs₁ hs
  rcases short_append hs with hcs | ⟨cs₂, rfl, hcs'⟩
  · exact (h _ hcs).append ts'
  · rw [hr]
    exact (h' _ hcs').after ts

/-- A character that is a token of its own. -/
theorem Breaks.cons {c : Char} {t : Token} {cs : List Char} {ts : List Token}
    (hc : Token.isSpace c = false) (ht : ∀ rest, Token.first c rest = (t, rest))
    (h : Breaks cs ts) : Breaks (c :: cs) (t :: ts) := by
  intro cs₁ hs
  rcases short_cons.mp hs with rfl | ⟨cs₂, rfl, hcs⟩
  · rw [tokens]
    exact .here
  · rw [tokens_cons hc, ht]
    exact .later (h _ hcs)

theorem afterWord_short {word cs : List Char} (h : Short cs word) :
    Token.afterWord word cs = .error .valueCutOff := by
  induction word generalizing cs with
  | nil => exact absurd h not_short_nil
  | cons c word ih =>
    rcases short_cons.mp h with rfl | ⟨cs, rfl, hword⟩
    · rfl
    · rw [Token.afterWord, if_pos rfl, ih hword]

/-- A literal name that ends too early. -/
theorem breaks_word {c : Char} {word : List Char} {s : Scalar} (hc : Token.isSpace c = false)
    (hw : ∀ rest, Token.first c rest = Token.ofWord word s rest) :
    Breaks (c :: word) [.bare (.ok s)] := by
  intro cs hs
  rcases short_cons.mp hs with rfl | ⟨cs, rfl, hcs⟩
  · rw [tokens]
    exact .here
  · have hword : Token.ofWord word s cs = (.broken (.both .valueCutOff), []) := by
      rw [Token.ofWord, afterWord_short hcs]
    rw [tokens_cons hc, hw, hword, tokens]
    exact .within .bare

/-- **A quoted text that ends too early** is the beginning of one token, wherever it ends. -/
theorem breaks_quote (t : String) : Breaks (quote t) [.text (.ok t)] := by
  intro cs hs
  rw [quote, List.cons_append] at hs
  rcases short_cons.mp hs with rfl | ⟨cs, rfl, hcs⟩
  · rw [tokens]
    exact .here
  · obtain ⟨ps, rest, hp, hd⟩ := Quotation.pieces_short t.toList hcs
    have hreading : Quotation.reading ps .cutOff = .error .textCutOff := by
      rw [Quotation.reading, hd]
      rfl
    have hq : Token.ofQuotation cs = (.brokenText (.both .textCutOff), []) := by
      rw [Token.ofQuotation, hp]
      dsimp only [Quotation.Closing.problem?]
      rw [hreading]
      rfl
    have hf : Token.first '"' cs = Token.ofQuotation cs := rfl
    rw [tokens_cons rfl, hf, hq, tokens]
    exact .within .text

theorem Breaks.member (k : String) {cs : List Char} {ts : List Token} (h : Breaks cs ts) :
    Breaks (quote k ++ ':' :: cs) (.text (.ok k) :: .colon :: ts) :=
  (breaks_quote k).append (reads_quote k) (.cons rfl (fun _ => rfl) h)

mutual

/-- **A compact text that ends too early** is cut into what is left of the value's tokens. -/
theorem Value.breaks_render : (v : Value) → v.isWordy = true → Breaks v.render v.tokens
  | .null, _ => breaks_word rfl fun _ => rfl
  | .bool true, _ => breaks_word rfl fun _ => rfl
  | .bool false, _ => breaks_word rfl fun _ => rfl
  | .text t, _ => breaks_quote t
  | .seq [], _ => .cons rfl (fun _ => rfl) (.cons rfl (fun _ => rfl) .nil)
  | .seq (v :: vs), h => by
    rw [isWordy, itemsWordy, Bool.and_eq_true] at h
    have hitems := (v.breaks_render h.1).append (v.reads_render h.1)
      (Value.breaks_renderItems vs h.2)
    have hreads := (v.reads_render h.1).append (Value.reads_renderItems vs h.2)
    exact .cons rfl (fun _ => rfl) (hitems.append hreads (.cons rfl (fun _ => rfl) .nil))
  | .map [], _ => .cons rfl (fun _ => rfl) (.cons rfl (fun _ => rfl) .nil)
  | .map ((k, v) :: ms), h => by
    rw [isWordy, membersWordy, Bool.and_eq_true] at h
    have hmembers := ((v.breaks_render h.1).member k).append ((v.reads_render h.1).member k)
      (Value.breaks_renderMembers ms h.2)
    have hreads := ((v.reads_render h.1).member k).append (Value.reads_renderMembers ms h.2)
    exact .cons rfl (fun _ => rfl) (hmembers.append hreads (.cons rfl (fun _ => rfl) .nil))

theorem Value.breaks_renderItems : (vs : List Value) → Value.itemsWordy vs = true →
    Breaks (Value.renderItems vs) (Value.itemTokens vs)
  | [], _ => .nil
  | v :: vs, h => by
    rw [itemsWordy, Bool.and_eq_true] at h
    exact .cons rfl (fun _ => rfl) ((v.breaks_render h.1).append (v.reads_render h.1)
      (Value.breaks_renderItems vs h.2))

theorem Value.breaks_renderMembers : (ms : List (String × Value)) → Value.membersWordy ms = true →
    Breaks (Value.renderMembers ms) (Value.memberTokens ms)
  | [], _ => .nil
  | (k, v) :: ms, h => by
    rw [membersWordy, Bool.and_eq_true] at h
    exact .cons rfl (fun _ => rfl) (((v.breaks_render h.1).member k).append
      ((v.reads_render h.1).member k) (Value.breaks_renderMembers ms h.2))

end

/-! ## Trees -/

/-- Reading and skipping report that the text was cut off. -/
def Fault.CutOff (f : Fault) : Prop :=
  f.strict.category = .cutOff ∧ f.loose.category = .cutOff

/-- The end of an object where the text was cut off. -/
inductive MapStop.CutOff : MapStop → Prop where
  | between : CutOff .cutOff
  | afterComma : CutOff .cutOffAfterComma
  | withinKey {f : Fault} (h : f.CutOff) : CutOff (.broken f)

mutual

/-- What is left of a tree when the text ends too early. -/
inductive Doc.Cut : Doc → Doc → Prop where
  | gone {f : Fault} {d : Doc} (h : f.CutOff) : Doc.Cut (.missing f) d
  | seq {items items' : Items} (h : items'.Cut items) : Doc.Cut (.seq items') (.seq items)
  | map {members members' : Members} (h : members'.Cut members) :
      Doc.Cut (.map members') (.map members)

/-- What is left of items. -/
inductive Items.Cut : Items → Items → Prop where
  | here {items : Items} : Items.Cut (.stop .cutOff) items
  | within {d d' : Doc} {rest : Items} (h : d'.Cut d) :
      Items.Cut (.item d' (.stop .cutOff)) (.item d rest)
  | later {d : Doc} {rest rest' : Items} (h : rest'.Cut rest) :
      Items.Cut (.item d rest') (.item d rest)

/-- What is left of members. -/
inductive Members.Cut : Members → Members → Prop where
  | here {s : MapStop} {members : Members} (h : s.CutOff) : Members.Cut (.stop s) members
  | within {k : Except Problem String} {d d' : Doc} {rest : Members} (h : d'.Cut d) :
      Members.Cut (.member k d' (.stop .cutOff)) (.member k d rest)
  | later {k : Except Problem String} {d : Doc} {rest rest' : Members} (h : rest'.Cut rest) :
      Members.Cut (.member k d rest') (.member k d rest)

end

/-- A tree in which `d` is what is left of `whole`. -/
def Doc.LeftOf (whole : Doc) (around : List Frame) (tree : Doc) : Prop :=
  ∃ d, tree = plug d around ∧ d.Cut whole

/-- A tree in which some items are what is left of `whole`, behind others. -/
def Items.LeftOf (whole : Items) (before : List Doc) (around : List Frame) (tree : Doc) : Prop :=
  ∃ items, tree = plug (.seq (.after before items)) around ∧ items.Cut whole

/-- A tree in which some members are what is left of `whole`, behind others. -/
def Members.LeftOf (whole : Members) (before : List (Except Problem String × Doc))
    (around : List Frame) (tree : Doc) : Prop :=
  ∃ members, tree = plug (.map (.after before members)) around ∧ members.Cut whole

namespace State

/-- From the state `s`, whatever is left of the tokens `ts` builds a tree with `P`. -/
def Leaves (s : State) (ts : List Token) (P : Doc → Prop) : Prop :=
  ∀ ts', Token.Cut ts' ts → P (s.run ts').1

variable {before : List Doc} {members : List (Except Problem String × Doc)} {around : List Frame}
variable {t : Token} {ts : List Token} {P : Doc → Prop}

theorem run_complete (d : Doc) : ((State.complete d).run ts).1 = d := by
  cases ts <;> rfl

theorem run_cons (s : State) : (s.run (t :: ts)).1 = ((s.step t).run ts).1 := by
  cases s with
  | complete d => exact (run_complete d).symm
  | _ => rfl

theorem leaves_nil {s : State} : s.Leaves [] P := by
  rintro _ ⟨⟩

/-- Tokens end before the first of them, within it, or behind it. -/
theorem leaves_cons {s : State} : s.Leaves (t :: ts) P ↔
    P s.finish ∧ (∀ t', Token.Begun t' t → P (s.step t').finish) ∧ (s.step t).Leaves ts P := by
  have hnil (s : State) : (s.run []).1 = s.finish := by cases s <;> rfl
  constructor
  · intro h
    refine ⟨?_, fun t' ht => ?_, fun ts' hts => ?_⟩
    · have := h [] .here
      rwa [hnil] at this
    · have := h [t'] (.within ht)
      rwa [run_cons, hnil] at this
    · have := h (t :: ts') (.later hts)
      rwa [run_cons] at this
  · rintro ⟨hhere, hwithin, hlater⟩ ts' h
    cases h with
    | here => rwa [hnil]
    | within h =>
      rw [run_cons, hnil]
      exact hwithin _ h
    | later h =>
      rw [run_cons]
      exact hlater _ h

/-- A mark is there or not. -/
theorem Leaves.mark {s : State} (ht : ∀ t', ¬ Token.Begun t' t) (hhere : P s.finish)
    (hlater : (s.step t).Leaves ts P) : s.Leaves (t :: ts) P :=
  leaves_cons.mpr ⟨hhere, fun t' h => absurd h (ht t'), hlater⟩

theorem Leaves.mono {s : State} {Q : Doc → Prop} (h : s.Leaves ts P) (hPQ : ∀ d, P d → Q d) :
    s.Leaves ts Q :=
  fun ts' hts => hPQ _ (h ts' hts)

variable {v : Value}

/-- The tokens end within a value or behind it. -/
theorem leaves_value (hv : (State.value around).Leaves v.tokens P)
    (hrest : (State.supply v.doc around).Leaves ts P) :
    (State.value around).Leaves (v.tokens ++ ts) P := by
  intro ts' h
  rcases h.split with hcut | ⟨ts', rfl, hcut⟩
  · exact hv _ hcut
  · rw [v.run_tokens]
    exact hrest _ hcut

/-- Only a closing bracket tells the place of an item from that of any value. -/
theorem leaves_item (hhere : P (State.item before around).finish)
    (h : (State.value (.seq before :: around)).Leaves (v.tokens ++ ts) P) :
    (State.item before around).Leaves (v.tokens ++ ts) P := by
  have hstep {t : Token} (ht : t ≠ .closeSeq) :
      (State.item before around).step t = (State.value (.seq before :: around)).step t := by
    cases t <;> cases before <;> first | rfl | exact absurd rfl ht
  obtain ⟨t, ts', hv, ht⟩ := v.tokens_eq_cons
  rw [hv, List.cons_append, leaves_cons] at h
  rw [hv, List.cons_append, leaves_cons]
  obtain ⟨-, hwithin, hlater⟩ := h
  refine ⟨hhere, fun t' hbegun => ?_, ?_⟩
  · rw [hstep (by rintro rfl; cases hbegun)]
    exact hwithin t' hbegun
  · rw [hstep (by rintro rfl; cases ht)]
    exact hlater

/-- A scalar of which there is nothing, the beginning, or all. -/
theorem leaves_scalar {d : Doc} : (State.value around).Leaves [t] (d.LeftOf around) := by
  refine leaves_cons.mpr ⟨⟨_, rfl, .gone ⟨rfl, rfl⟩⟩, fun t' h => ?_, leaves_nil⟩
  cases h with
  | text => exact ⟨_, rfl, .gone ⟨rfl, rfl⟩⟩
  | bare => exact ⟨_, rfl, .gone ⟨rfl, rfl⟩⟩

end State

theorem Items.LeftOf.within {d : Doc} {before : List Doc} {around : List Frame} {tree : Doc}
    {rest : Items} (h : d.LeftOf (.seq before :: around) tree) :
    (Items.item d rest).LeftOf before around tree := by
  obtain ⟨d', rfl, hd⟩ := h
  exact ⟨.item d' (.stop .cutOff), rfl, .within hd⟩

theorem Members.LeftOf.within {d : Doc} {k : Except Problem String}
    {before : List (Except Problem String × Doc)} {around : List Frame} {tree : Doc}
    {rest : Members} (h : d.LeftOf (.map before k :: around) tree) :
    (Members.member k d rest).LeftOf before around tree := by
  obtain ⟨d', rfl, hd⟩ := h
  exact ⟨.member k d' (.stop .cutOff), rfl, .within hd⟩

theorem Items.LeftOf.later {d : Doc} {before : List Doc} {around : List Frame} {tree : Doc}
    {rest : Items} (h : rest.LeftOf (d :: before) around tree) :
    (Items.item d rest).LeftOf before around tree := by
  obtain ⟨items, rfl, hitems⟩ := h
  exact ⟨.item d items, rfl, .later hitems⟩

theorem Members.LeftOf.later {d : Doc} {k : Except Problem String}
    {before : List (Except Problem String × Doc)} {around : List Frame} {tree : Doc}
    {rest : Members} (h : rest.LeftOf ((k, d) :: before) around tree) :
    (Members.member k d rest).LeftOf before around tree := by
  obtain ⟨members, rfl, hmembers⟩ := h
  exact ⟨.member k d members, rfl, .later hmembers⟩

theorem Doc.LeftOf.seq {items : Items} {around : List Frame} {tree : Doc}
    (h : items.LeftOf [] around tree) : (Doc.seq items).LeftOf around tree := by
  obtain ⟨items', rfl, hitems⟩ := h
  exact ⟨.seq items', rfl, .seq hitems⟩

theorem Doc.LeftOf.map {members : Members} {around : List Frame} {tree : Doc}
    (h : members.LeftOf [] around tree) : (Doc.map members).LeftOf around tree := by
  obtain ⟨members', rfl, hmembers⟩ := h
  exact ⟨.map members', rfl, .map hmembers⟩

/-- An item and those behind it, where an item must come. -/
theorem State.leaves_items {v : Value} {before : List Doc} {around : List Frame}
    {ts : List Token} {rest : Items}
    (hv : (State.value (.seq before :: around)).Leaves v.tokens
      (v.doc.LeftOf (.seq before :: around)))
    (hrest : (State.afterItem (v.doc :: before) around).Leaves ts
      (rest.LeftOf (v.doc :: before) around)) :
    (State.item before around).Leaves (v.tokens ++ ts)
      ((Items.item v.doc rest).LeftOf before around) := by
  refine leaves_item ?_ (leaves_value (hv.mono fun _ => .within) (hrest.mono fun _ => .later))
  cases before with
  | nil => exact ⟨.stop .cutOff, rfl, .here⟩
  | cons d before => exact ⟨.item _ (.stop .cutOff), rfl, .within (.gone ⟨rfl, rfl⟩)⟩

/-- A member and those behind it, where a key must come. -/
theorem State.leaves_members {k : String} {v : Value}
    {before : List (Except Problem String × Doc)} {around : List Frame} {ts : List Token}
    {rest : Members}
    (hv : (State.value (.map before (.ok k) :: around)).Leaves v.tokens
      (v.doc.LeftOf (.map before (.ok k) :: around)))
    (hrest : (State.afterMember ((.ok k, v.doc) :: before) around).Leaves ts
      (rest.LeftOf ((.ok k, v.doc) :: before) around)) :
    (State.key before around).Leaves (.text (.ok k) :: .colon :: (v.tokens ++ ts))
      ((Members.member (.ok k) v.doc rest).LeftOf before around) := by
  refine leaves_cons.mpr ⟨?_, fun t' h => ?_, .mark (fun _ => nofun) ?_
    (leaves_value (hv.mono fun _ => .within) (hrest.mono fun _ => .later))⟩
  · cases before with
    | nil => exact ⟨.stop .cutOff, rfl, .here .between⟩
    | cons m before => exact ⟨.stop .cutOffAfterComma, rfl, .here .afterComma⟩
  · cases h
    exact ⟨.stop (.broken _), rfl, .here (.withinKey ⟨rfl, rfl⟩)⟩
  · exact ⟨.member _ _ (.stop .cutOff), rfl, .within (.gone ⟨rfl, rfl⟩)⟩

mutual

/-- **What is left of the tokens of a value** builds what is left of its tree. -/
theorem Value.leaves : (v : Value) → (around : List Frame) →
    (State.value around).Leaves v.tokens (v.doc.LeftOf around)
  | .null, _ => State.leaves_scalar
  | .bool _, _ => State.leaves_scalar
  | .number _, _ => State.leaves_scalar
  | .text _, _ => State.leaves_scalar
  | .seq [], _ =>
    .mark (fun _ => nofun) ⟨_, rfl, .gone ⟨rfl, rfl⟩⟩
      (.mark (fun _ => nofun) ⟨_, rfl, .seq .here⟩ State.leaves_nil)
  | .seq (v :: vs), around => by
    have hsplit : (Value.seq (v :: vs)).tokens =
        .openSeq :: (v.tokens ++ (Value.itemTokens vs ++ [.closeSeq])) := by
      simp [tokens, itemTokens]
    rw [hsplit]
    exact .mark (fun _ => nofun) ⟨_, rfl, .gone ⟨rfl, rfl⟩⟩
      ((State.leaves_items (v.leaves _) (Value.leaves_itemTokens vs _ _)).mono fun _ => .seq)
  | .map [], _ =>
    .mark (fun _ => nofun) ⟨_, rfl, .gone ⟨rfl, rfl⟩⟩
      (.mark (fun _ => nofun) ⟨_, rfl, .map (.here .between)⟩ State.leaves_nil)
  | .map ((k, v) :: ms), around => by
    have hsplit : (Value.map ((k, v) :: ms)).tokens = .openMap :: .text (.ok k) :: .colon ::
        (v.tokens ++ (Value.memberTokens ms ++ [.closeMap])) := by
      simp [tokens, memberTokens]
    rw [hsplit]
    exact .mark (fun _ => nofun) ⟨_, rfl, .gone ⟨rfl, rfl⟩⟩
      ((State.leaves_members (v.leaves _) (Value.leaves_memberTokens ms _ _)).mono fun _ => .map)

theorem Value.leaves_itemTokens : (vs : List Value) → (before : List Doc) →
    (around : List Frame) → (State.afterItem before around).Leaves
      (Value.itemTokens vs ++ [.closeSeq]) ((Value.itemDocs vs).LeftOf before around)
  | [], _, _ => .mark (fun _ => nofun) ⟨.stop .cutOff, rfl, .here⟩ State.leaves_nil
  | v :: vs, _, _ => by
    rw [itemTokens, List.cons_append, List.cons_append, List.append_assoc]
    exact .mark (fun _ => nofun) ⟨.stop .cutOff, rfl, .here⟩
      (State.leaves_items (v.leaves _) (Value.leaves_itemTokens vs _ _))

theorem Value.leaves_memberTokens : (ms : List (String × Value)) →
    (before : List (Except Problem String × Doc)) → (around : List Frame) →
    (State.afterMember before around).Leaves (Value.memberTokens ms ++ [.closeMap])
      ((Value.memberDocs ms).LeftOf before around)
  | [], _, _ => .mark (fun _ => nofun) ⟨.stop .cutOff, rfl, .here .between⟩ State.leaves_nil
  | (k, v) :: ms, _, _ => by
    have hsplit : Value.memberTokens ((k, v) :: ms) ++ [.closeMap] = .comma :: .text (.ok k) ::
        .colon :: (v.tokens ++ (Value.memberTokens ms ++ [.closeMap])) := by
      simp [memberTokens]
    rw [hsplit]
    exact .mark (fun _ => nofun) ⟨.stop .cutOff, rfl, .here .between⟩
      (State.leaves_members (v.leaves _) (Value.leaves_memberTokens ms _ _))

end

/-- **What is left of a compact text** gives what is left of the tree. -/
theorem Value.cut_ofTokens {v : Value} (h : v.isWordy = true) {cs : List Char}
    (hcs : Short cs v.render) : (Doc.ofTokens (Json.tokens cs)).1.Cut v.doc := by
  obtain ⟨d, htree, hd⟩ := v.leaves [] _ (v.breaks_render h cs hcs)
  rw [Doc.ofTokens, htree]
  exact hd

end LiveShader.Json
