/-!
# Frame callbacks

A host is asked for a callback on its next display refresh and answers with a number for the
request. `CallbackQueue` keeps the requests until the host's next redraw takes them all. Numbers are
not limited; words of 64 bits hold them as long as there are fewer than 2^64 requests.

Results:
* `request_issued`, `mem_request`: a request gets the next number and is outstanding.
* `mem_cancel`: cancelling removes that request and nothing else.
-/

namespace LiveShader

/-- The number of a frame request. -/
structure FrameId where
  raw : Nat
  deriving DecidableEq, Repr

/-- The requests that wait for the next redraw. -/
structure CallbackQueue where
  /-- How many requests have been made; they are numbered from one. -/
  issued : Nat := 0
  /-- The requests that wait, oldest first. -/
  outstanding : List FrameId := []
  deriving DecidableEq, Repr

namespace CallbackQueue

/-- Make a request. -/
def request (q : CallbackQueue) : FrameId × CallbackQueue :=
  let id : FrameId := ⟨q.issued + 1⟩
  (id, ⟨q.issued + 1, q.outstanding ++ [id]⟩)

/-- Revoke a request. Revoking one that does not wait changes nothing. -/
def cancel (q : CallbackQueue) (id : FrameId) : CallbackQueue :=
  { q with outstanding := q.outstanding.filter fun other => other != id }

/-- Take every request, oldest first. -/
def drain (q : CallbackQueue) : List FrameId × CallbackQueue :=
  (q.outstanding, { q with outstanding := [] })

/-- How many requests wait. -/
def pending (q : CallbackQueue) : Nat :=
  q.outstanding.length

/-- Whether any request waits. -/
def hasPending (q : CallbackQueue) : Bool :=
  !q.outstanding.isEmpty

@[simp] theorem request_issued (q : CallbackQueue) : q.request.2.issued = q.request.1.raw := rfl

theorem raw_request (q : CallbackQueue) : q.request.1.raw = q.issued + 1 := rfl

@[simp] theorem mem_request {q : CallbackQueue} {id : FrameId} :
    id ∈ q.request.2.outstanding ↔ id ∈ q.outstanding ∨ id = q.request.1 := by
  simp [request]

@[simp] theorem mem_cancel {q : CallbackQueue} {id other : FrameId} :
    other ∈ (q.cancel id).outstanding ↔ other ∈ q.outstanding ∧ other ≠ id := by
  simp [cancel]

end CallbackQueue

end LiveShader
