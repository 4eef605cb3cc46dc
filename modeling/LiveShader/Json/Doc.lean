import LiveShader.Json.Token

/-!
# The tree of a JSON text, as far as it goes

`Doc` is the tree of a JSON text that may end or break anywhere. The items of an array and the
members of an object are followed by what ends them: the closing bracket, or what stands there
instead. A place where no value can be had is a leaf of its own. So the tree holds every problem of
the text at its place, and whoever walks it from the left meets the first one first.

`Doc.ofTokens` builds the tree with an explicit stack, one token at a time. `Doc.skip` walks a tree
for problems of syntax alone.
-/

namespace LiveShader.Json

/-- What ends the items of an array. -/
inductive SeqStop where
  /-- The closing bracket. -/
  | closed
  /-- The closing bracket, right after a comma. -/
  | afterComma
  /-- The end of the text. -/
  | cutOff
  /-- Something other than a comma or the bracket. -/
  | unseparated
  deriving DecidableEq, Repr

/-- What ends the members of an object. -/
inductive MapStop where
  /-- The closing brace. -/
  | closed
  /-- The closing brace, right after a comma. -/
  | afterComma
  /-- The end of the text. -/
  | cutOff
  /-- The end of the text, right after a comma. -/
  | cutOffAfterComma
  /-- Something other than a comma or the brace. -/
  | unseparated
  /-- Something other than a text where a key must stand. -/
  | notText
  /-- A key that cannot be skipped. -/
  | broken (fault : Fault)
  deriving DecidableEq

mutual

/-- The tree of a JSON text. -/
inductive Doc where
  | bare (reading : Except Problem Scalar)
  | text (reading : Except Problem String)
  | seq (items : Items)
  | map (members : Members)
  /-- No value can be had here. -/
  | missing (fault : Fault)

/-- The items of an array and what ends them. -/
inductive Items where
  | stop (s : SeqStop)
  | item (d : Doc) (rest : Items)

/-- The members of an object and what ends them. -/
inductive Members where
  | stop (s : MapStop)
  | member (key : Except Problem String) (value : Doc) (rest : Members)

end

/-! ## Problems at the end of a container -/

/-- What a reader who wants another item reports; none at a proper end. -/
def SeqStop.strict : SeqStop → Option Problem
  | .closed => none
  | .afterComma => some .trailingComma
  | .cutOff => some .seqCutOff
  | .unseparated => some .expectedSeqEnd

/-- What a reader who wants no further item reports. -/
def SeqStop.whenFull : SeqStop → Option Problem
  | .unseparated => some .trailingCharacters
  | s => s.strict

/-- What skipping reports. -/
def SeqStop.loose : SeqStop → Option Problem
  | .afterComma => some .expectedValue
  | s => s.strict

/-- What a reader reports at the end of an object. -/
def MapStop.strict : MapStop → Option Problem
  | .closed => none
  | .afterComma => some .trailingComma
  | .cutOff => some .mapCutOff
  | .cutOffAfterComma => some .valueCutOff
  | .unseparated => some .expectedMapEnd
  | .notText => some .keyNotText
  | .broken f => some f.strict

/-- What skipping reports at the end of an object. -/
def MapStop.loose : MapStop → Option Problem
  | .afterComma => some .keyNotText
  | .cutOffAfterComma => some .mapCutOff
  | .broken f => some f.loose
  | s => s.strict

/-- An optional problem as the outcome of a check. -/
def outcome : Option Problem → Except Problem Unit
  | none => .ok ()
  | some p => .error p

/-! ## Skipping -/

mutual

/-- Walk a tree for the first problem of syntax. -/
def Doc.skip : Doc → Except Problem Unit
  | .bare _ => .ok ()
  | .text _ => .ok ()
  | .seq items => items.skip
  | .map members => members.skip
  | .missing fault => .error fault.loose

/-- Walk the items of an array. -/
def Items.skip : Items → Except Problem Unit
  | .stop s => outcome s.loose
  | .item d rest => d.skip.bind fun _ => rest.skip

/-- Walk the members of an object. Keys may repeat. -/
def Members.skip : Members → Except Problem Unit
  | .stop s => outcome s.loose
  | .member _ d rest => d.skip.bind fun _ => rest.skip

end

/-! ## Building -/

/-- An unfinished container around the place where building goes on. What came before is kept
with the last one first. -/
inductive Frame where
  | seq (before : List Doc)
  /-- The member whose value is being built has the key `key`. -/
  | map (before : List (Except Problem String × Doc)) (key : Except Problem String)

/-- The items of an array from the last to the first. -/
def Items.ofReversed (before : List Doc) (s : SeqStop) : Items :=
  before.foldl (fun rest d => .item d rest) (.stop s)

/-- The members of an object from the last to the first. -/
def Members.ofReversed (before : List (Except Problem String × Doc)) (s : MapStop) : Members :=
  before.foldl (fun rest m => .member m.1 m.2 rest) (.stop s)

/-- What may come next. -/
inductive State where
  /-- A value. -/
  | value (around : List Frame)
  /-- An item, or the closing bracket if none has come yet. -/
  | item (before : List Doc) (around : List Frame)
  /-- A comma or the closing bracket. -/
  | afterItem (before : List Doc) (around : List Frame)
  /-- A key, or the closing brace if none has come yet. -/
  | key (before : List (Except Problem String × Doc)) (around : List Frame)
  /-- The colon after a key. -/
  | colon (before : List (Except Problem String × Doc)) (k : Except Problem String)
      (around : List Frame)
  /-- A comma or the closing brace. -/
  | afterMember (before : List (Except Problem String × Doc)) (around : List Frame)
  /-- Nothing: the tree is complete. -/
  | complete (d : Doc)

/-- The tree when building stops at `d`, inside unfinished containers. -/
def plug (d : Doc) : List Frame → Doc
  | [] => d
  | .seq before :: around => plug (.seq (.ofReversed (d :: before) .cutOff)) around
  | .map before k :: around => plug (.map (.ofReversed ((k, d) :: before) .cutOff)) around

/-- A finished value takes its place. -/
def State.supply (d : Doc) : List Frame → State
  | [] => .complete d
  | .seq before :: around => .afterItem (d :: before) around
  | .map before k :: around => .afterMember ((k, d) :: before) around

/-- A value starts. -/
def State.start (around : List Frame) : Token → State
  | .openSeq => .item [] around
  | .openMap => .key [] around
  | .text r => .supply (.text r) around
  | .bare r => .supply (.bare r) around
  | .brokenText f => .complete (plug (.missing f) around)
  | .broken f => .complete (plug (.missing f) around)
  | .closeSeq | .closeMap | .comma | .colon =>
    .complete (plug (.missing (.both .expectedValue)) around)

/-- The state after one more token. -/
def State.step : State → Token → State
  | .value around, t => .start around t
  | .item [] around, .closeSeq => .supply (.seq (.stop .closed)) around
  | .item before around, .closeSeq =>
    .complete (plug (.seq (.ofReversed before .afterComma)) around)
  | .item before around, t => .start (.seq before :: around) t
  | .afterItem before around, .comma => .item before around
  | .afterItem before around, .closeSeq => .supply (.seq (.ofReversed before .closed)) around
  | .afterItem before around, _ => .complete (plug (.seq (.ofReversed before .unseparated)) around)
  | .key before around, .text r => .colon before r around
  | .key [] around, .closeMap => .supply (.map (.stop .closed)) around
  | .key before around, .closeMap =>
    .complete (plug (.map (.ofReversed before .afterComma)) around)
  | .key before around, .brokenText f =>
    .complete (plug (.map (.ofReversed before (.broken f))) around)
  | .key before around, _ => .complete (plug (.map (.ofReversed before .notText)) around)
  | .colon before k around, .colon => .value (.map before k :: around)
  | .colon before k around, _ =>
    .complete (plug (.missing (.both .expectedColon)) (.map before k :: around))
  | .afterMember before around, .comma => .key before around
  | .afterMember before around, .closeMap => .supply (.map (.ofReversed before .closed)) around
  | .afterMember before around, _ =>
    .complete (plug (.map (.ofReversed before .unseparated)) around)
  | .complete d, _ => .complete d

/-- The tree when the tokens end. -/
def State.finish : State → Doc
  | .value around => plug (.missing (.both .valueCutOff)) around
  | .item [] around => plug (.seq (.stop .cutOff)) around
  | .item before around => plug (.missing (.both .valueCutOff)) (.seq before :: around)
  | .afterItem before around => plug (.seq (.ofReversed before .cutOff)) around
  | .key [] around => plug (.map (.stop .cutOff)) around
  | .key before around => plug (.map (.ofReversed before .cutOffAfterComma)) around
  | .colon before k around => plug (.missing (.both .mapCutOff)) (.map before k :: around)
  | .afterMember before around => plug (.map (.ofReversed before .cutOff)) around
  | .complete d => d

/-- Build until the tree is complete or the tokens end. Also returns the tokens left over. -/
def State.run : State → List Token → Doc × List Token
  | .complete d, ts => (d, ts)
  | s, [] => (s.finish, [])
  | s, t :: ts => (s.step t).run ts

/-- The tree of the value at the front of the tokens, and the tokens after it. -/
def Doc.ofTokens (ts : List Token) : Doc × List Token :=
  (State.value []).run ts

end LiveShader.Json
