import LiveShader.Decimal.Shortest
import LiveShader.Text.Quoted

/-!
# What can be wrong with a JSON text

`Problem` lists the causes; `Problem.message` words them and `Problem.category` sorts them into
texts that end too early, texts that are no JSON, and JSON of the wrong shape. The words say what is
wrong and not where: the place that a parser may name behind them (` at line 1 column 5`) is left
out.

A scalar may be fit to be skipped and still not fit to be read, so a place where no value can be
had carries two causes, a `Fault`: one for a reader and one for somebody who only skips.
-/

namespace LiveShader.Json

/-- A number as read: a whole number that fits 64 bits, or a double. -/
inductive Number where
  | whole (n : Int)
  | real (x : Float)
  deriving DecidableEq

/-- A scalar other than a text. -/
inductive Scalar where
  | null
  | bool (b : Bool)
  | number (n : Number)
  deriving DecidableEq

/-- What stands where something else was wanted. -/
inductive Found where
  | scalar (s : Scalar)
  | text (t : String)
  | seq
  | map
  deriving DecidableEq

/-- What a reader wants to see. -/
inductive Wanted where
  | bool
  | text
  | single
  | array (size : Nat)
  | record (title : String) (size : Nat)
  deriving DecidableEq

/-- Why a text could not be read. -/
inductive Problem where
  | valueCutOff
  | seqCutOff
  | mapCutOff
  | textCutOff
  | expectedColon
  | expectedSeqEnd
  | expectedMapEnd
  | expectedValue
  | expectedIdent
  | keyNotText
  | trailingComma
  | trailingCharacters
  | invalidNumber
  | numberOutOfRange
  | invalidEscape
  | controlCharacter
  | loneSurrogate
  | unfinishedSurrogate
  | invalidType (found : Found) (wanted : Wanted)
  | invalidLength (size : Nat) (wanted : Wanted)
  | missingField (name : String)
  | duplicateField (name : String)
  deriving DecidableEq

/-- The two causes at a place without a value. -/
structure Fault where
  /-- What a reader reports. -/
  strict : Problem
  /-- What skipping reports. -/
  loose : Problem
  deriving DecidableEq

/-- A fault that reader and skipper report alike. -/
def Fault.both (p : Problem) : Fault := ⟨p, p⟩

/-! ## Wording -/

/-- A number in a message; a double always shows a fraction or an exponent. -/
def Number.shown : Number → String
  | .whole n => "integer `" ++ toString n ++ "`"
  | .real x => "floating point `" ++ Decimal.ofFloat x ++ "`"

/-- The offending thing in a message. -/
def Found.shown : Found → String
  | .scalar .null => "null"
  | .scalar (.bool b) => "boolean `" ++ toString b ++ "`"
  | .scalar (.number n) => n.shown
  | .text t => "string " ++ Text.quoted t
  | .seq => "sequence"
  | .map => "map"

/-- The wanted thing in a message about its kind. -/
def Wanted.shown : Wanted → String
  | .bool => "a boolean"
  | .text => "a string"
  | .single => "f32"
  | .array n => "an array of length " ++ toString n
  | .record title _ => "struct " ++ title

/-- The wanted thing in a message about its size. -/
def Wanted.sized : Wanted → String
  | .record title n => "struct " ++ title ++ " with " ++ toString n ++ " elements"
  | w => w.shown

/-- The text of a problem. -/
def Problem.message : Problem → String
  | .valueCutOff => "EOF while parsing a value"
  | .seqCutOff => "EOF while parsing a list"
  | .mapCutOff => "EOF while parsing an object"
  | .textCutOff => "EOF while parsing a string"
  | .expectedColon => "expected `:`"
  | .expectedSeqEnd => "expected `,` or `]`"
  | .expectedMapEnd => "expected `,` or `\x7d`"
  | .expectedValue => "expected value"
  | .expectedIdent => "expected ident"
  | .keyNotText => "key must be a string"
  | .trailingComma => "trailing comma"
  | .trailingCharacters => "trailing characters"
  | .invalidNumber => "invalid number"
  | .numberOutOfRange => "number out of range"
  | .invalidEscape => "invalid escape"
  | .controlCharacter => "control character (\\u0000-\\u001F) found while parsing a string"
  | .loneSurrogate => "lone leading surrogate in hex escape"
  | .unfinishedSurrogate => "unexpected end of hex escape"
  | .invalidType found wanted => "invalid type: " ++ found.shown ++ ", expected " ++ wanted.shown
  | .invalidLength n wanted => "invalid length " ++ toString n ++ ", expected " ++ wanted.sized
  | .missingField name => "missing field `" ++ name ++ "`"
  | .duplicateField name => "duplicate field `" ++ name ++ "`"

/-! ## Categories -/

/-- The kind of a problem. -/
inductive Category where
  /-- The text ends too early. -/
  | cutOff
  /-- The text is no JSON. -/
  | malformed
  /-- The text is JSON of the wrong shape. -/
  | unfit
  deriving DecidableEq, Repr

/-- The kind of a problem. -/
def Problem.category : Problem → Category
  | .valueCutOff | .seqCutOff | .mapCutOff | .textCutOff => .cutOff
  | .invalidType .. | .invalidLength .. | .missingField _ | .duplicateField _ => .unfit
  | _ => .malformed

end LiveShader.Json
