import LiveShader.Holdings

/-!
# Sessions

A session is a linked program with its mesh, drawn once for each frame callback. It awaits at most
one callback at a time: a frame takes the callback that was asked for, and asks for the next.

* `Session.prepare` builds and uploads; it gives a linked session or leaves nothing behind.
* `Session.frame` draws only for the callback that is awaited; any other draws nothing.
* `Session.close` revokes the callback before it deletes anything, so that no scheduled frame can
  reach what is deleted.

The number of frames drawn is not limited. Each frame that is drawn takes a request of its own, so a
word of 64 bits holds it as long as there are fewer than 2^64 requests (`CallbackQueue`).
-/

namespace LiveShader

open Engine

/-- Nanoseconds as seconds. Whole seconds and the rest are rounded on their own. -/
def seconds (nanoseconds : Nat) : Float32 :=
  (UInt64.ofNat (nanoseconds / 1000000000)).toFloat32 +
    (UInt64.ofNat (nanoseconds % 1000000000)).toFloat32 / 1000000000

/-- Where a program keeps the uniforms that a frame feeds; `none` for one it does not use. -/
structure Feeds where
  time : Option UniformLocation
  resolution : Option UniformLocation
  camera : Option UniformLocation
  deriving DecidableEq, Repr

/-- Ask a program for the uniforms that a frame feeds. -/
def Feeds.ofProgram (program : Program) : Engine Feeds := do
  let time ← gpu (.uniformLocation program Builtin.timeUniform)
  let resolution ← gpu (.uniformLocation program Builtin.resolutionUniform)
  let camera ← gpu (.uniformLocation program Builtin.cameraUniform)
  return ⟨time, resolution, camera⟩

/-- A linked program with its mesh, driven by frame callbacks. -/
structure Session where
  holdings : Holdings
  mesh : Mesh
  feeds : Feeds
  parameters : Parameters
  phase : Phase := .linked
  /-- When rendering started, in nanoseconds. -/
  startedAt : Option Nat := none
  /-- The frame callback that is awaited. -/
  awaited : Option FrameId := none
  /-- How many frames have been drawn. -/
  frames : Nat := 0
  deriving DecidableEq

namespace Session

/-! ## The beginning -/

/-- Prepare a session for two stages. -/
def prepare (stages : Stages) (parameters : Parameters) : Engine (Except Failure Session) := do
  note (.moved .idle .compiling)
  match ← Build.programAndMesh stages with
  | .error e =>
    note (.moved .compiling .errored)
    return .error e
  | .ok (program, placed) =>
    note (.moved .compiling .linked)
    let feeds ← Feeds.ofProgram program
    return .ok { holdings := .of program placed, mesh := placed.mesh, feeds, parameters }

/-- Seconds since rendering started; zero before. -/
def elapsed (s : Session) (now : Nat) : Float32 :=
  match s.startedAt with
  | none => 0
  | some start => seconds (now - start)

/-- Start rendering: ask for the first frame and begin to count the time. Only a linked session can
start. -/
def start (s : Session) (now : Nat) : Engine Session := do
  match s.phase with
  | .linked =>
    s.holdings.placed.forM PlacedMesh.select
    gpu .enableDepthAndCulling
    let id ← requestFrame
    note (.moved s.phase .rendering)
    note (.rendering s.mesh)
    return { s with phase := .rendering, startedAt := some now, awaited := some id }
  | phase =>
    note (.cannotStart phase)
    return s

/-! ## Frames -/

/-- Feed the uniforms that the program uses. -/
def feed (s : Session) (size : PixelSize) (elapsed : Float32) : Engine Unit := do
  s.feeds.time.forM fun location => gpu (.uniformFloat location elapsed)
  s.feeds.resolution.forM fun location =>
    gpu (.uniformVec2 location size.width.toFloat32 size.height.toFloat32)
  s.feeds.camera.forM fun location =>
    gpu (.uniformMat4 location (s.parameters.cameraMatrix size.aspect elapsed))

/-- Draw a mesh that is bound. -/
def draw (mesh : Mesh) : Engine Unit :=
  if mesh.isIndexed then gpu (.drawElements mesh.elementCount)
  else gpu (.drawArrays mesh.elementCount)

/-- Draw one frame for the callback `id` and ask for the next. Says whether anything was drawn:
nothing is unless the session is rendering and `id` is the callback that is awaited. -/
def frame (s : Session) (id : FrameId) (size : PixelSize) (now : Nat) :
    Engine (Bool × Session) := do
  if s.phase = .rendering ∧ s.awaited = some id then
    match s.holdings.program, s.holdings.placed with
    | some program, some placed =>
      gpu (.clear s.parameters.background)
      gpu (.useProgram (some program))
      placed.select
      s.feed size (s.elapsed now)
      draw s.mesh
      note (.frameDrawn (s.frames + 1) (s.elapsed now))
      let next ← requestFrame
      return (true, { s with awaited := some next, frames := s.frames + 1 })
    | _, _ => return (false, s)
  else
    note (.staleFrame id)
    return (false, s)

/-! ## The end -/

/-- Revoke the awaited callback and leave the device alone. -/
def revoke (s : Session) : Engine Session := do
  match s.awaited with
  | none => return s
  | some id =>
    note (.revoking id)
    cancelFrame id
    return { s with awaited := none }

/-- Revoke the awaited callback, then delete every object. -/
def close (s : Session) : Engine Session := do
  let s ← s.revoke
  let holdings ← s.holdings.giveUp
  match s.phase.isTerminal with
  | true => return { s with holdings }
  | false =>
    note (.moved s.phase .disposed)
    return { s with holdings, phase := .disposed }

/-! ## Text -/

/-- A session in one line, for people. -/
def describe (s : Session) : String :=
  let awaited := match s.awaited with
    | none => "None"
    | some id => "Some(FrameRequest(" ++ toString id.raw ++ "))"
  "RenderSession \x7b geometry: " ++ s.mesh.name ++ ", status: " ++ s.phase.name ++
    ", pending: " ++ awaited ++ ", frames_rendered: " ++ toString s.frames ++ ", .. \x7d"

end Session

end LiveShader
