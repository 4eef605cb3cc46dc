import LiveShader.CallbackQueue
import Mathlib.Data.List.Basic
import Mathlib.Data.Set.Card

/-!
# What becomes of frame requests

A frame queue answers three calls: make a request, cancel one, drain those that wait. Any number may
be cancelled, also one that was never given to a request, or is yet to be given to one.

* `Usage` is a queue together with its past: every call so far and what was said to it.
* `Owed` says of a past alone which requests should wait: those that were made, were not drained,
  and were not cancelled after they were made. A cancellation that came first does not count.
* `Accounts` is the invariant: the queue holds exactly what is owed, and every drain gave exactly
  what was owed at its time.
* The last number given is the number of requests, so 64 bits hold the numbers as long as there are
  fewer than 2^64 requests.

Results:
* `Usage.accounts_step`: a call keeps the invariant.
* `requests_conserved`: numbers, drains and fates of all requests, after any calls.
-/

namespace LiveShader

/-- Two entries in this order end with the last entry, or were there before it. -/
theorem pair_sublist_snoc {α : Type} {a b c : α} {l : List α} :
    List.Sublist [a, b] (l ++ [c]) ↔ List.Sublist [a, b] l ∨ b = c ∧ a ∈ l := by
  have hbefore : List.Sublist [a, b] l ↔ List.Sublist [b, a] l.reverse :=
    List.reverse_sublist.symm
  rw [hbefore, ← List.reverse_sublist]
  simp only [List.reverse_append, List.reverse_cons, List.reverse_nil, List.nil_append,
    List.singleton_append]
  rw [List.cons_sublist_cons', List.singleton_sublist, List.mem_reverse]

namespace CallbackQueue

/-! ## Calls and the past -/

/-- What a queue may be asked. -/
inductive Call where
  | request
  | cancel (id : FrameId)
  | drain
  deriving DecidableEq, Repr

/-- A call that was made, with what was said to it. -/
inductive Entry where
  | requested (id : FrameId)
  | cancelled (id : FrameId)
  | drained (ids : List FrameId)
  deriving DecidableEq, Repr

namespace Entry

/-- The call that was made. -/
def call : Entry → Call
  | .requested _ => .request
  | .cancelled id => .cancel id
  | .drained _ => .drain

/-- The number given to a request. -/
def issued? : Entry → Option FrameId
  | .requested id => some id
  | _ => none

/-- The requests that were drained. -/
def drainedIds : Entry → List FrameId
  | .drained ids => ids
  | _ => []

end Entry

/-- Answer a call. -/
def obey (q : CallbackQueue) : Call → Entry × CallbackQueue
  | .request => (.requested q.request.1, q.request.2)
  | .cancel id => (.cancelled id, q.cancel id)
  | .drain => (.drained q.drain.1, q.drain.2)

/-- The numbers given to requests, the first one first. -/
def issuedIds (past : List Entry) : List FrameId :=
  past.filterMap Entry.issued?

/-- The requests that were drained, by all drains together. -/
def drainedIds (past : List Entry) : List FrameId :=
  past.flatMap Entry.drainedIds

/-- A request was cancelled after it was made. -/
def CancelledIn (past : List Entry) (id : FrameId) : Prop :=
  List.Sublist [.requested id, .cancelled id] past

/-- A request was made, and was neither drained nor cancelled since. -/
structure Owed (past : List Entry) (id : FrameId) : Prop where
  issued : id ∈ issuedIds past
  not_drained : id ∉ drainedIds past
  not_cancelled : ¬ CancelledIn past id

/-! ### One entry more -/

variable {past : List Entry} {e : Entry} {id : FrameId}

@[simp] theorem issuedIds_snoc : issuedIds (past ++ [e]) = issuedIds past ++ e.issued?.toList := by
  cases e <;> simp [issuedIds, Entry.issued?]

@[simp] theorem drainedIds_snoc : drainedIds (past ++ [e]) = drainedIds past ++ e.drainedIds := by
  simp [drainedIds]

theorem mem_issuedIds : id ∈ issuedIds past ↔ .requested id ∈ past := by
  rw [issuedIds, List.mem_filterMap]
  constructor
  · rintro ⟨e, he, hid⟩
    cases e <;> cases hid
    exact he
  · exact fun h => ⟨_, h, rfl⟩

theorem cancelledIn_snoc : CancelledIn (past ++ [e]) id ↔
    CancelledIn past id ∨ e = .cancelled id ∧ id ∈ issuedIds past := by
  rw [CancelledIn, pair_sublist_snoc, mem_issuedIds, eq_comm (b := e)]
  rfl

theorem length_issuedIds : (issuedIds past).length = (past.map Entry.call).count .request := by
  induction past with
  | nil => rfl
  | cons e past ih =>
    cases e <;> simpa [issuedIds, Entry.issued?, Entry.call, List.filterMap_cons] using ih

/-- What was drained, some drain has given. -/
theorem exists_drain (h : id ∈ drainedIds past) :
    ∃ before ids after, past = before ++ .drained ids :: after ∧ id ∈ ids := by
  obtain ⟨e, he, hid⟩ := List.mem_flatMap.mp h
  cases e with
  | drained ids =>
    obtain ⟨before, after, rfl⟩ := List.append_of_mem he
    exact ⟨before, ids, after, rfl, hid⟩
  | _ => cases hid

theorem CancelledIn.issued (h : CancelledIn past id) : id ∈ issuedIds past :=
  mem_issuedIds.mpr (h.subset List.mem_cons_self)

/-- Whatever was cancelled before, a request that is made is owed. -/
theorem owed_requested {new : FrameId} (hissued : new ∉ issuedIds past)
    (hdrained : new ∉ drainedIds past) :
    Owed (past ++ [.requested new]) id ↔ Owed past id ∨ id = new := by
  have hcancelled : CancelledIn (past ++ [.requested new]) id ↔ CancelledIn past id := by
    simp [cancelledIn_snoc]
  constructor
  · rintro ⟨hi, hd, hc⟩
    rw [issuedIds_snoc, List.mem_append] at hi
    rcases hi with hi | hi
    · exact .inl ⟨hi, by simpa [Entry.drainedIds] using hd, hcancelled.not.mp hc⟩
    · exact .inr (by simpa [Entry.issued?] using hi)
  · rintro (⟨hi, hd, hc⟩ | rfl)
    · exact ⟨by simp [hi], by simpa [Entry.drainedIds] using hd, hcancelled.not.mpr hc⟩
    · exact ⟨by simp [Entry.issued?], by simpa [Entry.drainedIds] using hdrained,
        hcancelled.not.mpr fun h => hissued h.issued⟩

theorem owed_cancelled {gone : FrameId} :
    Owed (past ++ [.cancelled gone]) id ↔ Owed past id ∧ id ≠ gone := by
  constructor
  · rintro ⟨hi, hd, hc⟩
    have hi' : id ∈ issuedIds past := by simpa [Entry.issued?] using hi
    rw [cancelledIn_snoc, not_or] at hc
    refine ⟨⟨hi', by simpa [Entry.drainedIds] using hd, hc.1⟩, ?_⟩
    rintro rfl
    exact hc.2 ⟨rfl, hi'⟩
  · rintro ⟨⟨hi, hd, hc⟩, hne⟩
    refine ⟨by simp [hi], by simpa [Entry.drainedIds] using hd, ?_⟩
    rw [cancelledIn_snoc, Entry.cancelled.injEq, not_or]
    exact ⟨hc, fun h => hne h.1.symm⟩

theorem owed_drained {ids : List FrameId} :
    Owed (past ++ [.drained ids]) id ↔ Owed past id ∧ id ∉ ids := by
  have hcancelled : CancelledIn (past ++ [.drained ids]) id ↔ CancelledIn past id := by
    simp [cancelledIn_snoc]
  constructor
  · rintro ⟨hi, hd, hc⟩
    rw [drainedIds_snoc, List.mem_append, not_or] at hd
    exact ⟨⟨by simpa [Entry.issued?] using hi, hd.1, hcancelled.not.mp hc⟩, hd.2⟩
  · rintro ⟨⟨hi, hd, hc⟩, hne⟩
    refine ⟨by simp [hi], ?_, hcancelled.not.mpr hc⟩
    rw [drainedIds_snoc, List.mem_append, not_or]
    exact ⟨hd, hne⟩

/-! ## Usages -/

/-- A queue at one moment, and everything that has happened to it. -/
structure Usage where
  queue : CallbackQueue := {}
  past : List Entry := []

/-- What may have become of a request. -/
inductive Fate where
  | waiting
  | drained
  | cancelled
  deriving DecidableEq, Repr

/-- A request was cancelled while it was waiting. -/
def Revoked (past : List Entry) (id : FrameId) : Prop :=
  ∃ before after, past = before ++ .cancelled id :: after ∧ Owed before id

namespace Usage

/-- Make a call. -/
def step (u : Usage) (call : Call) : Usage :=
  ⟨(u.queue.obey call).2, u.past ++ [(u.queue.obey call).1]⟩

/-- Make calls, one after the other. -/
def run (u : Usage) (calls : List Call) : Usage :=
  calls.foldl step u

/-- Whether this has become of a request. -/
def Befell (u : Usage) (id : FrameId) : Fate → Prop
  | .waiting => id ∈ u.queue.outstanding
  | .drained => (drainedIds u.past).count id = 1
  | .cancelled => Revoked u.past id

/-- The queue holds what is owed, oldest first, and its drains gave what was owed. -/
structure Accounts (u : Usage) : Prop where
  issued : (issuedIds u.past).map FrameId.raw = List.range' 1 u.queue.issued
  outstanding : ∀ id, id ∈ u.queue.outstanding ↔ Owed u.past id
  sorted : u.queue.outstanding.Pairwise fun a b => a.raw < b.raw
  drained_once : (drainedIds u.past).Nodup
  drains : ∀ before ids after, u.past = before ++ .drained ids :: after →
    ids.Pairwise (fun a b => a.raw < b.raw) ∧ ∀ id, id ∈ ids ↔ Owed before id

variable {u : Usage} {call : Call}

theorem accounts_new : Accounts {} where
  issued := rfl
  outstanding id := by
    constructor
    · nofun
    · rintro ⟨hi, -, -⟩
      cases hi
  sorted := .nil
  drained_once := .nil
  drains before ids after h := by simp at h

/-- What was drained had been requested before. -/
theorem Accounts.drained_issued (h : u.Accounts) {before after : List Entry} {id : FrameId}
    (hpast : u.past = before ++ after) (hid : id ∈ drainedIds before) : id ∈ issuedIds before := by
  obtain ⟨start, ids, rest, rfl, hmem⟩ := exists_drain hid
  have howed := ((h.drains start ids (rest ++ after) (by simp [hpast])).2 id).mp hmem
  rw [mem_issuedIds]
  exact List.mem_append_left _ (mem_issuedIds.mp howed.issued)

/-- The numbers given so far are those up to the last one. -/
theorem Accounts.raw_le {id : FrameId} (h : u.Accounts) (hid : id ∈ issuedIds u.past) :
    id.raw ≤ u.queue.issued := by
  have hraw : id.raw ∈ List.range' 1 u.queue.issued := by
    rw [← h.issued]
    exact List.mem_map_of_mem hid
  rw [List.mem_range'_1] at hraw
  omega

/-- A drain that was not the last entry was there before the last entry. -/
theorem drains_snoc {past : List Entry} {e : Entry} {P : List Entry → List FrameId → Prop}
    (h : ∀ before ids after, past = before ++ .drained ids :: after → P before ids)
    (he : ∀ ids, e = .drained ids → P past ids) :
    ∀ before ids after, past ++ [e] = before ++ .drained ids :: after → P before ids := by
  intro before ids after heq
  rcases List.eq_nil_or_concat after with rfl | ⟨after', e', rfl⟩
  · obtain ⟨rfl, he'⟩ := List.append_inj' heq rfl
    exact he ids (List.singleton_inj.mp he')
  · rw [List.concat_eq_append, ← List.cons_append, ← List.append_assoc] at heq
    exact h before ids after' (List.append_inj' heq rfl).1

theorem Accounts.request (h : u.Accounts) : (u.step .request).Accounts := by
  have hnew : u.queue.request.1 ∉ issuedIds u.past := fun hid => by
    have hle := h.raw_le hid
    rw [raw_request] at hle
    omega
  have hdrained : u.queue.request.1 ∉ drainedIds u.past := fun hid =>
    hnew (h.drained_issued (List.append_nil _).symm hid)
  refine ⟨?_, fun id => ?_, ?_, ?_, ?_⟩
  · simp [step, obey, Entry.issued?, h.issued, List.range'_1_concat, raw_request, Nat.add_comm]
  · exact mem_request.trans ((or_congr_left (h.outstanding id)).trans
      (owed_requested hnew hdrained).symm)
  · refine List.pairwise_append.mpr
      ⟨h.sorted, List.pairwise_singleton .., fun id hid new hmem => ?_⟩
    rw [List.mem_singleton] at hmem
    subst hmem
    have hle := h.raw_le ((h.outstanding id).mp hid).issued
    simp only
    omega
  · simpa [step, obey, Entry.drainedIds] using h.drained_once
  · exact drains_snoc h.drains nofun

theorem Accounts.cancel (h : u.Accounts) (gone : FrameId) : (u.step (.cancel gone)).Accounts where
  issued := by simpa [step, obey, Entry.issued?, CallbackQueue.cancel] using h.issued
  outstanding id :=
    mem_cancel.trans ((and_congr_left' (h.outstanding id)).trans owed_cancelled.symm)
  sorted := h.sorted.filter _
  drained_once := by simpa [step, obey, Entry.drainedIds] using h.drained_once
  drains := drains_snoc h.drains nofun

theorem Accounts.drain (h : u.Accounts) : (u.step .drain).Accounts where
  issued := by simpa [step, obey, Entry.issued?, CallbackQueue.drain] using h.issued
  outstanding id := by
    have howed : Owed (u.past ++ [.drained u.queue.outstanding]) id ↔
        Owed u.past id ∧ id ∉ u.queue.outstanding := owed_drained
    rw [h.outstanding id] at howed
    exact iff_of_false List.not_mem_nil (howed.not.mpr fun h => h.2 h.1)
  sorted := .nil
  drained_once := by
    rw [step, drainedIds_snoc]
    refine List.nodup_append.mpr ⟨h.drained_once, ?_, fun id hid id' hid' => ?_⟩
    · exact h.sorted.imp fun hlt heq => Nat.ne_of_lt hlt (congrArg FrameId.raw heq)
    · rintro rfl
      exact ((h.outstanding id).mp hid').not_drained hid
  drains := drains_snoc h.drains fun ids hids => by
    obtain rfl : u.queue.outstanding = ids := by simpa [obey, CallbackQueue.drain] using hids
    exact ⟨h.sorted, h.outstanding⟩

/-- **A call keeps the accounts.** -/
theorem accounts_step (h : u.Accounts) (call : Call) : (u.step call).Accounts := by
  cases call with
  | request => exact h.request
  | cancel id => exact h.cancel id
  | drain => exact h.drain

theorem accounts_run (h : u.Accounts) (calls : List Call) : (u.run calls).Accounts := by
  induction calls generalizing u with
  | nil => exact h
  | cons call calls ih => exact ih (accounts_step h call)

/-- The past tells the calls. -/
theorem calls_run (u : Usage) (calls : List Call) :
    (u.run calls).past.map Entry.call = u.past.map Entry.call ++ calls := by
  induction calls generalizing u with
  | nil => simp [run]
  | cons call calls ih =>
    have hcall : (u.queue.obey call).1.call = call := by cases call <;> rfl
    have hstep := ih (u.step call)
    rw [run, List.foldl_cons, ← run, hstep]
    simp [step, hcall]

/-! ## Fates -/

/-- What was cancelled after it was made, and never drained, was cancelled while it was waiting. -/
theorem revoked_of_cancelledIn {past : List Entry} {id : FrameId} (hc : CancelledIn past id)
    (hd : id ∉ drainedIds past) : Revoked past id := by
  induction past using List.reverseRecOn with
  | nil => cases hc
  | append_singleton past e ih =>
    rw [drainedIds_snoc, List.mem_append, not_or] at hd
    by_cases hbefore : CancelledIn past id
    · obtain ⟨before, after, rfl, howed⟩ := ih hbefore hd.1
      exact ⟨before, after ++ [e], by simp, howed⟩
    · obtain ⟨rfl, hi⟩ := (cancelledIn_snoc.mp hc).resolve_left hbefore
      exact ⟨past, [], rfl, hi, hd.1, hbefore⟩

theorem Revoked.cancelledIn {past : List Entry} {id : FrameId} (h : Revoked past id) :
    CancelledIn past id := by
  obtain ⟨before, after, rfl, howed⟩ := h
  have hi : List.Sublist [.requested id] before :=
    List.singleton_sublist.mpr (mem_issuedIds.mp howed.issued)
  exact hi.append (List.singleton_sublist.mpr List.mem_cons_self)

/-- What was cancelled while it was waiting is never drained. -/
theorem Accounts.not_drained (h : u.Accounts) {id : FrameId} (hr : Revoked u.past id) :
    id ∉ drainedIds u.past := by
  obtain ⟨before, after, hpast, howed⟩ := hr
  rw [hpast, drainedIds, List.flatMap_append, List.mem_append, not_or]
  refine ⟨howed.not_drained, fun hid => ?_⟩
  have hlater : id ∈ drainedIds after := hid
  obtain ⟨mid, ids, rest, rfl, hmem⟩ := exists_drain hlater
  have hdrain := (h.drains (before ++ .cancelled id :: mid) ids rest (by simp [hpast])).2 id
  exact (hdrain.mp hmem).not_cancelled (Revoked.cancelledIn ⟨before, mid, rfl, howed⟩)

/-- **One thing becomes of every request.** -/
theorem Accounts.fate (h : u.Accounts) {id : FrameId} (hid : id ∈ issuedIds u.past) :
    ∃! fate, u.Befell id fate := by
  have hdrained : u.Befell id .drained ↔ id ∈ drainedIds u.past := by
    rw [Befell, List.Nodup.count h.drained_once]
    split <;> simp [*]
  have hwaiting : u.Befell id .waiting ↔ Owed u.past id := h.outstanding id
  by_cases hd : id ∈ drainedIds u.past
  · refine ⟨.drained, hdrained.mpr hd, fun fate hfate => ?_⟩
    cases fate with
    | waiting => exact absurd hd (hwaiting.mp hfate).not_drained
    | drained => rfl
    | cancelled => exact absurd hd (h.not_drained hfate)
  · by_cases hc : CancelledIn u.past id
    · refine ⟨.cancelled, revoked_of_cancelledIn hc hd, fun fate hfate => ?_⟩
      cases fate with
      | waiting => exact absurd hc (hwaiting.mp hfate).not_cancelled
      | drained => exact absurd (hdrained.mp hfate) hd
      | cancelled => rfl
    · refine ⟨.waiting, hwaiting.mpr ⟨hid, hd, hc⟩, fun fate hfate => ?_⟩
      cases fate with
      | waiting => rfl
      | drained => exact absurd (hdrained.mp hfate) hd
      | cancelled => exact absurd (Revoked.cancelledIn hfate) hc

/-- A request is drained or waiting unless it is cancelled thereafter. -/
theorem Accounts.served (h : u.Accounts) {before after : List Entry} {id : FrameId}
    (hpast : u.past = before ++ .requested id :: after) (hkept : .cancelled id ∉ after) :
    id ∈ drainedIds after ∨ id ∈ u.queue.outstanding := by
  have hnodup : (issuedIds u.past).Nodup := List.Nodup.of_map FrameId.raw (by
    rw [h.issued]
    exact List.nodup_range')
  have hnew : .requested id ∉ before := by
    have hids : issuedIds u.past = issuedIds before ++ id :: issuedIds after := by
      simp [hpast, issuedIds, Entry.issued?]
    rw [hids] at hnodup
    exact fun hmem => List.disjoint_of_nodup_append hnodup (mem_issuedIds.mpr hmem)
      List.mem_cons_self
  have hcancelled : ¬ CancelledIn u.past id := by
    rw [CancelledIn, hpast, List.sublist_append_iff]
    rintro ⟨_ | ⟨e, l⟩, l', heq, hl, hl'⟩
    · obtain rfl : [.requested id, .cancelled id] = l' := heq
      exact hkept (List.singleton_sublist.mp (List.cons_sublist_cons.mp hl'))
    · obtain ⟨rfl, -⟩ := List.cons_eq_cons.mp heq
      exact hnew (hl.subset List.mem_cons_self)
  by_cases hd : id ∈ drainedIds u.past
  · rw [hpast, drainedIds, List.flatMap_append, List.mem_append] at hd
    rcases hd with hd | hd
    · exact absurd (mem_issuedIds.mp (h.drained_issued hpast hd)) hnew
    · exact .inl hd
  · refine .inr ((h.outstanding id).mpr ⟨mem_issuedIds.mpr ?_, hd, hcancelled⟩)
    rw [hpast]
    exact List.mem_append_right _ List.mem_cons_self

/-- As many requests are pending as are owed. -/
theorem Accounts.pending (h : u.Accounts) : u.queue.pending = {id | Owed u.past id}.ncard := by
  have hset : {id | Owed u.past id} = (u.queue.outstanding.toFinset : Set FrameId) := by
    ext id
    rw [List.coe_toFinset]
    exact (h.outstanding id).symm
  have hnodup : u.queue.outstanding.Nodup :=
    h.sorted.imp fun hlt heq => Nat.ne_of_lt hlt (congrArg FrameId.raw heq)
  rw [hset, Set.ncard_coe_finset, List.toFinset_card_of_nodup hnodup, CallbackQueue.pending]

end Usage

/-- **What becomes of requests.** After any calls to a new queue, also calls that cancel what was
never requested, is yet to be requested, or was drained or cancelled already,

* the requests were given the numbers 1, 2, 3 and so on, one for each request, in this order;
* each drain gave, by rising numbers, exactly the requests that had been made before it and had
  neither been drained nor been cancelled after they were made;
* each request is waiting, or was drained and only once, or was cancelled while it was waiting, and
  only one of the three;
* as many requests are pending as are owed, and there are pending ones if that is not zero;
* a request that was made and not cancelled thereafter was drained or is waiting, whatever was
  cancelled before. -/
theorem requests_conserved (calls : List Call) :
    let u := Usage.run {} calls
    u.past.map Entry.call = calls ∧
      (issuedIds u.past).map FrameId.raw = List.range' 1 (calls.count .request) ∧
      (∀ before ids after, u.past = before ++ .drained ids :: after →
        ids.Pairwise (fun a b => a.raw < b.raw) ∧ ∀ id, id ∈ ids ↔ Owed before id) ∧
      (∀ id ∈ issuedIds u.past, ∃! fate, u.Befell id fate) ∧
      u.queue.pending = {id | Owed u.past id}.ncard ∧
      (u.queue.hasPending = true ↔ {id | Owed u.past id}.ncard ≠ 0) ∧
      ∀ before id after, u.past = before ++ .requested id :: after → .cancelled id ∉ after →
        id ∈ drainedIds after ∨ id ∈ u.queue.outstanding := by
  intro u
  have h : u.Accounts := Usage.accounts_run Usage.accounts_new calls
  have hcalls : u.past.map Entry.call = calls := Usage.calls_run {} calls
  have hissued : u.queue.issued = calls.count .request := by
    have hlen := congrArg List.length h.issued
    rw [List.length_map, List.length_range', length_issuedIds, hcalls] at hlen
    exact hlen.symm
  refine ⟨hcalls, hissued ▸ h.issued, h.drains, fun id hid => h.fate hid, h.pending, ?_,
    fun before id after hpast hkept => h.served hpast hkept⟩
  · rw [← h.pending, hasPending, CallbackQueue.pending]
    cases u.queue.outstanding <;> simp

end CallbackQueue

end LiveShader
