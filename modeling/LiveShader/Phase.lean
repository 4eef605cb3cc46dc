/-!
# The life of a session

A session goes one way: it is compiled, then linked, then rendering, then disposed of, and it may
fail on the way to being linked. A new shader always gets a new session.
-/

namespace LiveShader

/-- Where a session is in its life. -/
inductive Phase where
  /-- Nothing has been tried. -/
  | idle
  /-- Its stages are being compiled and linked. -/
  | compiling
  /-- The program is linked and the mesh is bound; no frame is scheduled. -/
  | linked
  /-- A frame callback is outstanding. -/
  | rendering
  /-- The callback is cancelled and everything is released. -/
  | disposed
  /-- Compiling, linking or allocating failed. -/
  | errored
  deriving DecidableEq, Repr

namespace Phase

/-- The name of a phase. -/
def name : Phase → String
  | .idle => "Idle"
  | .compiling => "Compiling"
  | .linked => "Linked"
  | .rendering => "Rendering"
  | .disposed => "Disposed"
  | .errored => "Errored"

/-- Whether nothing can follow. -/
def isTerminal (s : Phase) : Bool :=
  s = .disposed || s = .errored

/-- The steps of a session's life. -/
inductive Step : Phase → Phase → Prop where
  | compile : Step .idle .compiling
  | link : Step .compiling .linked
  | fail : Step .compiling .errored
  | start : Step .linked .rendering
  | breakDown : Step .linked .errored
  | discard : Step .linked .disposed
  | stop : Step .rendering .disposed

/-- Nothing follows a terminal phase. -/
theorem not_step_of_isTerminal {s t : Phase} (h : s.isTerminal = true) : ¬ Step s t := by
  rintro (_ | _) <;> simp [isTerminal] at h

end Phase

end LiveShader
