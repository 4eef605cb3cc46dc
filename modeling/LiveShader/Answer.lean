import LiveShader.Failure
import LiveShader.Fence.Assign

/-!
# Answers of a generation service

An `Answer` is what the service hands back for one prompt: shader code or a reason why there is
none. `Answer.ofProse` builds it from the free-form text of a model, `Answer.codeToRender` takes
the shader code out.
-/

namespace LiveShader

/-- The answer to one prompt. -/
structure Answer where
  /-- Whether `code` is fit for use. -/
  success : Bool := false
  code : Option ShaderCode := none
  /-- The reason of a failure, for people. -/
  reason : Option String := none
  /-- The unprocessed text of the model. -/
  raw : Option String := none
  deriving DecidableEq, Repr

namespace Answer

/-- The answer for a model's free-form text: a success exactly if some block yields code. -/
def ofProse (text : String) : Answer :=
  let code := ShaderCode.ofProse text
  if code.isEmpty then
    { reason := some "Could not extract valid shader code from the response"
      raw := some text }
  else
    { success := true, code := some code, raw := some text }

/-- A failed answer with its reason. -/
def failed (reason : String) : Answer :=
  { reason := some reason }

/-- The shader code to render, or why there is none. A failed answer gives its own reason if it
has one; a successful answer may still lack code. -/
def codeToRender (a : Answer) : Except Failure ShaderCode :=
  if a.success then
    match a.code with
    | some code => .ok code
    | none => .error (.service "No shader code generated")
  else
    .error (.service (a.reason.getD "Failed to generate shader"))

end Answer

end LiveShader
