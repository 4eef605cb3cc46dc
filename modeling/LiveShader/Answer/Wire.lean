import LiveShader.Answer
import LiveShader.Json.Record
import LiveShader.Json.Value

/-!
# Answers as JSON

The wire form of an answer is an object with the members `success`, `data`, `error` and
`rawOutput`, in this order when written; `data` is an object with `vertexShader`, `fragmentShader`
and `combinedShader`. What is absent is left out when written, and may be left out or `null` when
read. The reason why a text could not be read is given without the line and the column
(`Json.Problem`).
-/

namespace LiveShader

open Json

namespace ShaderCode

/-- How shader code is read. -/
def record : Record ShaderCode where
  title := "ShaderPayload"
  fields := [
    { name := "vertexShader"
      put := .of (Doc.readOptional Doc.readText) fun t c => { c with vertex := t } },
    { name := "fragmentShader"
      put := .of (Doc.readOptional Doc.readText) fun t c => { c with fragment := t } },
    { name := "combinedShader"
      put := .of (Doc.readOptional Doc.readText) fun t c => { c with combined := t } }]
  blank := {}

/-- The written form of shader code. -/
def toValue (c : ShaderCode) : Value :=
  .map <|
    (c.vertex.map fun t => ("vertexShader", Value.text t)).toList ++
    (c.fragment.map fun t => ("fragmentShader", Value.text t)).toList ++
    (c.combined.map fun t => ("combinedShader", Value.text t)).toList

end ShaderCode

namespace Answer

/-- How an answer is read. -/
def record : Record Answer where
  title := "GenerationResult"
  fields := [
    { name := "success"
      required := true
      put := .of Doc.readBool fun b a => { a with success := b } },
    { name := "data"
      put := .of (Doc.readOptional ShaderCode.record.read) fun c a => { a with code := c } },
    { name := "error"
      put := .of (Doc.readOptional Doc.readText) fun t a => { a with reason := t } },
    { name := "rawOutput"
      put := .of (Doc.readOptional Doc.readText) fun t a => { a with raw := t } }]
  blank := {}

/-- The written form of an answer. -/
def toValue (a : Answer) : Value :=
  .map <|
    ("success", Value.bool a.success) ::
    (a.code.map fun c => ("data", c.toValue)).toList ++
    (a.reason.map fun t => ("error", Value.text t)).toList ++
    (a.raw.map fun t => ("rawOutput", Value.text t)).toList

/-- The text of an answer on the wire. -/
def encode (a : Answer) : String :=
  String.ofList a.toValue.render

/-- Read an answer. -/
def parse (body : String) : Except Problem Answer :=
  readAll record.read body

/-- Read the body of a response. One that cannot be read counts as a failure of the service. -/
def decode (body : String) : Except Failure Answer :=
  (parse body).mapError fun p =>
    .service ("Invalid response from shader service: " ++ p.message)

theorem decode_of_error {body : String} {p : Problem} (h : parse body = .error p) :
    decode body = .error (.service ("Invalid response from shader service: " ++ p.message)) := by
  rw [decode, h]
  rfl

theorem decode_eq_ok {body : String} {a : Answer} : decode body = .ok a ↔ parse body = .ok a := by
  cases hp : parse body with
  | error p => simp [decode_of_error hp]
  | ok b =>
    have hd : decode body = .ok b := by
      rw [decode, hp]
      rfl
    rw [hd, Except.ok.injEq, Except.ok.injEq]

end Answer

end LiveShader
