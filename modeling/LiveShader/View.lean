import LiveShader.Answer
import LiveShader.Session

/-!
# The view of a canvas and its live session

A view owns the one live session of a canvas and reacts to changes of its input. Every change first
retires the live session, then is recorded, and then, if the view is shown and there is shader code,
a fresh session is launched. So two sessions never touch the context at once.
-/

namespace LiveShader

open Engine

/-- A change seen from outside. -/
inductive Change where
  /-- The generation service has answered. -/
  | answered (answer : Answer)
  /-- Shader code has come from anywhere else. -/
  | supplied (code : ShaderCode)
  /-- The view became visible. -/
  | shown
  /-- The view was hidden. The shader code is kept for later. -/
  | hidden
  /-- The canvas goes away. Nothing is rendered afterwards. -/
  | removed
  deriving DecidableEq, Repr

/-- The state of a view. -/
structure View where
  canvas : Canvas
  parameters : Parameters := {}
  /-- Whether the view is visible. -/
  visible : Bool := true
  /-- Whether the canvas is gone. -/
  gone : Bool := false
  /-- The shader code to render. -/
  code : Option ShaderCode := none
  session : Option Session := none
  /-- How far the last attempt came, while no session is live. -/
  lastPhase : Phase := .idle
  /-- Why the last attempt failed, if it did. -/
  lastFailure : Option Failure := none
  deriving DecidableEq

namespace View

/-- The phase of the live session, or of the last attempt if none is live. -/
def phase (v : View) : Phase :=
  match v.session with
  | none => v.lastPhase
  | some s => s.phase

/-! ## Steps -/

/-- Close a session. Without a context its objects cannot be deleted. -/
def release (v : View) (session : Session) : Engine Unit := do
  match v.canvas.hasContext with
  | true => discard session.close
  | false =>
    discard session.revoke
    note .contextLost

/-- Close the live session. -/
def retire (v : View) : Engine View := do
  match v.session with
  | none => return v
  | some session =>
    v.release session
    return { v with session := none, lastPhase := .disposed }

/-- The attempt failed. -/
def fail (v : View) (e : Failure) : Engine (Except Failure Unit × View) := do
  note (.attemptFailed e)
  return (.error e, { v with lastPhase := .errored, lastFailure := some e })

/-- The backing store gets the displayed size. -/
def fit (v : View) : Engine View := do
  noteIf (v.canvas.backing ≠ v.canvas.display) (.resized v.canvas.backing v.canvas.display)
  return { v with canvas := v.canvas.adopt }

/-- Launch a session for shader code. -/
def launch (v : View) (code : ShaderCode) (now : Nat) : Engine (Except Failure Unit × View) := do
  let v ← v.fit
  match v.canvas.hasContext with
  | false => v.fail .noContext
  | true =>
    let (width, height) := v.canvas.display.viewport
    gpu (.viewport width height)
    match ← Session.prepare code.stages v.parameters with
    | .error e => v.fail e
    | .ok session =>
      let session ← session.start now
      return (.ok (), { v with session := some session, lastPhase := session.phase })

/-- Record a change. A failed answer leaves no shader code to render. -/
def record (v : View) : Change → Except Failure Unit × View
  | .answered answer =>
    match answer.codeToRender with
    | .ok code => (.ok (), { v with code := some code })
    | .error e => (.error e, { v with code := none })
  | .supplied code => (.ok (), { v with code := some code })
  | .shown => (.ok (), { v with visible := true })
  | .hidden => (.ok (), { v with visible := false })
  | .removed => (.ok (), { v with gone := true, code := none })

/-- Whether a change only repeats what is so already. -/
def isRedundant (v : View) : Change → Bool
  | .shown => v.visible
  | .hidden => !v.visible
  | _ => false

/-- Record a change in a view without a live session, and launch a session if the view is shown and
has shader code. -/
def takeUp (v : View) (change : Change) (now : Nat) : Engine (Except Failure Unit × View) :=
  match { v with lastFailure := none }.record change with
  | (.error e, v) => v.fail e
  | (.ok _, v) =>
    match v.visible && !v.gone, v.code with
    | true, some code => v.launch code now
    | _, _ => return (.ok (), v)

/-! ## Operations -/

/-- React to a change. A change that only repeats the visibility leaves the session alone. -/
def react (v : View) (change : Change) (now : Nat) : Engine (Except Failure Unit × View) := do
  match v.isRedundant change with
  | true => return (.ok (), v)
  | false =>
    let v ← v.retire
    v.takeUp change now

/-- Render what the generation service has answered. -/
def submit (v : View) (answer : Answer) (now : Nat) : Engine (Except Failure Unit × View) :=
  v.react (.answered answer) now

/-- Render shader code from anywhere else. -/
def render (v : View) (code : ShaderCode) (now : Nat) : Engine (Except Failure Unit × View) :=
  v.react (.supplied code) now

/-- Show or hide the view. -/
def setVisible (v : View) (visible : Bool) (now : Nat) : Engine (Except Failure Unit × View) :=
  v.react (if visible then .shown else .hidden) now

/-- Stop rendering for good and give everything up. -/
def close (v : View) : Engine View := do
  noteIf (!v.gone) .canvasRemoved
  let v ← v.retire
  return { v with gone := true, code := none }

/-- Deliver a frame callback. Says whether a frame was drawn. -/
def frame (v : View) (id : FrameId) (now : Nat) : Engine (Bool × View) := do
  match v.session, v.canvas.hasContext with
  | some session, true =>
    let (drawn, session) ← session.frame id v.canvas.backing now
    return (drawn, { v with session := some session })
  | _, _ =>
    note (.frameWithoutSession id)
    return (false, v)

/-- Let go of the view: the live session is closed. -/
def drop (v : View) : Engine Unit :=
  discard v.retire

/-- The host pushes a new displayed size. -/
def resize (v : View) (size : PixelSize) : View :=
  { v with canvas := v.canvas.setDisplay size }

end View

end LiveShader
