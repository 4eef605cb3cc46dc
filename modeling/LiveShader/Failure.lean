/-!
# Why an attempt at a session fails

Every cause ends the attempt that met it. `Failure.message` is the text a host shows.
-/

namespace LiveShader

/-- A programmable stage of the pipeline. -/
inductive Stage where
  | vertex
  | fragment
  deriving DecidableEq, Repr

/-- The stage's name in messages. -/
def Stage.name : Stage → String
  | .vertex => "vertex"
  | .fragment => "fragment"

/-- Why there is no session. -/
inductive Failure where
  /-- The canvas has no usable graphics context. -/
  | noContext
  /-- A stage did not compile; `log` is the driver's own text. -/
  | compile (stage : Stage) (log : String)
  /-- The program did not link; `log` is the driver's own text. -/
  | link (log : String)
  /-- The generation service failed or could not be understood. -/
  | service (text : String)
  /-- The driver refused to create an object. -/
  | refused (text : String)
  deriving DecidableEq, Repr

/-- The text of a failure. What a driver or the generation service said is repeated as it is. -/
def Failure.message : Failure → String
  | .noContext => "No suitable graphics context is available for this surface"
  | .compile stage log => "Could not compile " ++ stage.name ++ " shader: " ++ log
  | .link log => "Could not link program: " ++ log
  | .service text => text
  | .refused text => "Could not allocate GPU resource: " ++ text

end LiveShader
