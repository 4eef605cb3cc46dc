import LiveShader.CallbackQueue
import LiveShader.Canvas
import LiveShader.Decimal.Fixed
import LiveShader.Failure
import LiveShader.LogFilter
import LiveShader.Mesh
import LiveShader.Phase
import LiveShader.Shader.Builtin

/-!
# What the engine reports

A `Notice` is one record for the log of the process, with its level and its text. Notices are for
people; nothing depends on them.
-/

namespace LiveShader

/-- One record for the log. -/
inductive Notice where
  | stageFailed (stage : Stage) (log : String)
  | linkFailed (log : String)
  /-- The vertex stage has no position attribute. -/
  | noPosition
  | meshPlaced (mesh : Mesh)
  | moved (before after : Phase)
  | cannotStart (phase : Phase)
  | rendering (mesh : Mesh)
  | staleFrame (id : FrameId)
  | frameDrawn (count : Nat) (elapsed : Float32)
  | revoking (id : FrameId)
  | canvasRemoved
  | frameWithoutSession (id : FrameId)
  | contextLost
  | attemptFailed (failure : Failure)
  | resized (before after : PixelSize)
  deriving DecidableEq

namespace Notice

/-- How grave a notice is. -/
def level : Notice → LogLevel
  | .contextLost => .error
  | .stageFailed .. | .linkFailed _ | .cannotStart _ | .staleFrame _ | .frameWithoutSession _
  | .attemptFailed _ => .warn
  | .rendering _ => .info
  | .noPosition | .meshPlaced _ | .moved .. | .canvasRemoved | .resized .. => .debug
  | .frameDrawn .. | .revoking _ => .trace

/-- A size in a notice. -/
def sized (s : PixelSize) : String :=
  toString s.width.toNat ++ "x" ++ toString s.height.toNat

/-- The text of a notice. -/
def message : Notice → String
  | .stageFailed stage log => stage.name ++ " shader failed to compile: " ++ log
  | .linkFailed log => "program failed to link: " ++ log
  | .noPosition =>
    "`" ++ Builtin.positionAttribute ++ "` is not an active attribute; using location 0"
  | .meshPlaced mesh =>
    "bound " ++ mesh.name ++ " geometry (" ++ toString mesh.vertexCount ++ " vertices, " ++
      toString mesh.indices.length ++ " indices)"
  | .moved before after => "session " ++ before.name ++ " -> " ++ after.name
  | .cannotStart phase => "cannot start a session that is " ++ phase.name
  | .rendering mesh => "rendering " ++ mesh.name ++ " geometry"
  | .staleFrame id => "ignoring stale frame callback " ++ toString id.raw
  | .frameDrawn count elapsed =>
    "frame " ++ toString count ++ " at " ++ Decimal.fixed 3 (.ofFloat32 elapsed) ++ "s"
  | .revoking id => "cancelling frame callback " ++ toString id.raw
  | .canvasRemoved => "surface removed"
  | .frameWithoutSession id =>
    "frame callback " ++ toString id.raw ++ " with no active session"
  | .contextLost => "graphics context lost; session objects could not be released"
  | .attemptFailed failure => "session attempt failed: " ++ failure.message
  | .resized before after => "resizing backing store " ++ sized before ++ " -> " ++ sized after

/-- The notice as a line of a log. -/
def line (n : Notice) : String :=
  n.level.name ++ " " ++ n.message

end Notice

end LiveShader
