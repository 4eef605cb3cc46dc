import LiveShader.Device.Request
import LiveShader.Notice

/-!
# What the engine does to the world

An `Action` is a request to the device, a frame request or its cancellation, or a notice. An
`Engine` computation is a plan of actions; a host carries it out with a device and a frame queue.
The log of a run is the combined log of device and scheduler.
-/

namespace LiveShader

/-- One thing the engine does; `Q` are the operations of the device. -/
inductive Action (Q : Type) where
  | gpu (q : Q)
  | requestFrame
  | cancelFrame (id : FrameId)
  | note (n : Notice)

/-- What comes back; `R` are the replies of the device. -/
@[reducible] def Action.Reply {Q : Type} (R : Q → Type) : Action Q → Type
  | .gpu q => R q
  | .requestFrame => FrameId
  | .cancelFrame _ => Unit
  | .note _ => Unit

/-- A computation of the engine. -/
abbrev Engine (α : Type) := Plan (Action.Reply Request.Reply) α

namespace Engine

/-- Ask the device. -/
def gpu (r : Request) : Engine r.Reply :=
  .ask (.gpu r) .done

/-- Ask for a callback on the next frame. -/
def requestFrame : Engine FrameId :=
  .ask .requestFrame .done

/-- Revoke a frame request. -/
def cancelFrame (id : FrameId) : Engine Unit :=
  .ask (.cancelFrame id) .done

/-- Report something. -/
def note (n : Notice) : Engine Unit :=
  .ask (.note n) .done

/-- Report something under a condition. -/
def noteIf (b : Bool) (n : Notice) : Engine Unit :=
  if b then note n else pure ()

end Engine

/-! ## Hosts -/

variable {Q Q' : Type} {R : Q → Type} {R' : Q' → Type}

/-- The state of a host: that of its device, and its frame queue. -/
structure Host (m : Machine R) where
  device : m.State
  queue : CallbackQueue := {}

/-- The host that carries out actions with a device and a frame queue. -/
@[reducible] def Machine.host (m : Machine R) : Machine (Action.Reply R) where
  State := Host m
  answer
    | .gpu q, s =>
      let (r, d) := m.answer q s.device
      (r, { s with device := d })
    | .requestFrame, s =>
      let (id, q) := s.queue.request
      (id, { s with queue := q })
    | .cancelFrame id, s => ((), { s with queue := s.queue.cancel id })
    | .note _, s => ((), s)

/-- The plan for an action when the operations of one device are carried out on another. -/
def Action.through (f : (q : Q) → Plan R' (R q)) :
    (a : Action Q) → Plan (Action.Reply R') (a.Reply R)
  | .gpu q => (f q).expand fun q' => .ask (.gpu q') .done
  | .requestFrame => .ask .requestFrame .done
  | .cancelFrame id => .ask (.cancelFrame id) .done
  | .note n => .ask (.note n) .done

end LiveShader
