import UvmTools.Queue.Enqueue

/-!
# The consumer's cursor protocol and runs of a queue

The consumer is outside the driver: it only reads and writes the mapped ring and
control block. One that follows the cursor protocol reads published slots only, and
moves `get_behind` and `get_ahead` forward within `[0, C)`, never past `put_behind`.
A run of a queue interleaves `enqueue_event` calls with such consumer steps.
-/

namespace UvmTools

variable {Entry : Type}

/-- A consumer following the protocol releases the `n` oldest published records: it has
read the `n` slots from `get_behind` on and moves `get_behind` past them. Not enabled
for more records than are stored. -/
def releaseRecords (n : Nat) (queue : UvmToolsQueue Entry) :
    Option (List Entry × UvmToolsQueue Entry) :=
  if n ≤ queue.stored then
    some ((List.range n).map queue.slot,
      { queue with control := { queue.control with
          getBehind := BitVec.ofNat 32 ((queue.control.getBehind.toNat + n) % queue.capacity) } })
  else none

/-- A consumer following the protocol moves `get_ahead` over `n` published records. -/
def advanceGetAhead (n : Nat) (queue : UvmToolsQueue Entry) : Option (UvmToolsQueue Entry) :=
  if n ≤ queue.unread then
    some { queue with control := { queue.control with
      getAhead := BitVec.ofNat 32 ((queue.control.getAhead.toNat + n) % queue.capacity) } }
  else none

/-- A queue as attach leaves it: every cursor at zero, the ring and the drop counters
cleared, and no wakeup recorded. -/
def freshQueue [Inhabited Entry] (count threshold : NvU32) : UvmToolsQueue Entry where
  queue := fun _ => default
  queueBufferCount := count
  notificationThreshold := threshold
  control := ⟨0, 0, 0, 0, fun _ => 0⟩
  isWakeupGetValid := false
  wakeupGet := 0

/-- What a step of a queue run shows. -/
inductive QueueEvent (Entry : Type) where
  /-- An `enqueue_event` call with its record; `stored` is false when it was dropped, and
  `wakeup` is the `get_ahead` value for which it released the wait queue, if it did. -/
  | enqueued (entry : Entry) (stored : Bool) (wakeup : Option NvU32)
  /-- The consumer released these records, oldest first. -/
  | released (records : List Entry)
  /-- The consumer moved `get_ahead` over `n` records. -/
  | advancedGetAhead (n : Nat)

/-- One step of a queue: an `enqueue_event` call or a step of the consumer. -/
inductive QueueStep [UvmEventEntry Entry] :
    UvmToolsQueue Entry → QueueEvent Entry → UvmToolsQueue Entry → Prop where
  | enqueue (entry : Entry) (queue : UvmToolsQueue Entry) :
      QueueStep queue
        (.enqueued entry (!queueIsFull queue)
          (if (enqueueEvent entry queue).2 then some queue.control.getAhead else none))
        (enqueueEvent entry queue).1
  | release {n : Nat} {records : List Entry} {queue next : UvmToolsQueue Entry}
      (consumer : releaseRecords n queue = some (records, next)) :
      QueueStep queue (.released records) next
  | advance {n : Nat} {queue next : UvmToolsQueue Entry}
      (consumer : advanceGetAhead n queue = some next) :
      QueueStep queue (.advancedGetAhead n) next

/-- What an `enqueued` step is: one `enqueue_event` call and what it showed. -/
theorem QueueStep.enqueued_inv [UvmEventEntry Entry] {queue next : UvmToolsQueue Entry}
    {entry : Entry} {stored : Bool} {wakeup : Option NvU32}
    (step : QueueStep queue (.enqueued entry stored wakeup) next) :
    stored = !queueIsFull queue ∧
      wakeup = (if (enqueueEvent entry queue).2 then some queue.control.getAhead else none) ∧
      next = (enqueueEvent entry queue).1 := by
  cases step
  exact ⟨rfl, rfl, rfl⟩

/-- The records an event shows the consumer releasing. -/
def QueueEvent.releasedRecords : QueueEvent Entry → List Entry
  | .released records => records
  | _ => []

/-- The record an event shows `enqueue_event` storing. -/
def QueueEvent.storedRecord : QueueEvent Entry → Option Entry
  | .enqueued entry true _ => some entry
  | _ => none

/-- The records the consumer released along a run, in order. -/
def releasedRecords (events : List (QueueEvent Entry)) : List Entry :=
  events.flatMap QueueEvent.releasedRecords

/-- The records `enqueue_event` stored along a run, in order. -/
def storedRecords (events : List (QueueEvent Entry)) : List Entry :=
  events.filterMap QueueEvent.storedRecord

@[simp] theorem releasedRecords_nil : releasedRecords ([] : List (QueueEvent Entry)) = [] := rfl

@[simp] theorem storedRecords_nil : storedRecords ([] : List (QueueEvent Entry)) = [] := rfl

@[simp] theorem releasedRecords_append_singleton (events : List (QueueEvent Entry))
    (event : QueueEvent Entry) :
    releasedRecords (events ++ [event]) = releasedRecords events ++ event.releasedRecords := by
  simp [releasedRecords]

@[simp] theorem storedRecords_append_singleton (events : List (QueueEvent Entry))
    (event : QueueEvent Entry) :
    storedRecords (events ++ [event]) = storedRecords events ++ event.storedRecord.toList := by
  simp only [storedRecords, List.filterMap_append, List.filterMap_cons, List.filterMap_nil]
  cases event.storedRecord <;> rfl

/-- Numbered records whose event type is their number, for concrete runs. -/
instance : UvmEventEntry Nat := ⟨id⟩

section Consumer

variable {queue next : UvmToolsQueue Entry} (hring : RingBound queue.capacity)

include hring in
/-- A residue written back as a 32-bit cursor is read back unchanged. -/
theorem toNat_ofNat_mod (x : Nat) :
    (BitVec.ofNat 32 (x % queue.capacity)).toNat = x % queue.capacity := by
  have := hring.double_le
  have : x % queue.capacity < queue.capacity := Nat.mod_lt _ (by have := hring.two_le; omega)
  rw [BitVec.toNat_ofNat, Nat.mod_eq_of_lt (by omega)]

/-- What a release step can do. -/
theorem releaseRecords_eq_some {n : Nat} {records : List Entry}
    (consumer : releaseRecords n queue = some (records, next)) :
    n ≤ queue.stored ∧ records = (List.range n).map queue.slot ∧
      next = { queue with control := { queue.control with
        getBehind := BitVec.ofNat 32
            ((queue.control.getBehind.toNat + n) % queue.capacity) } } := by
  unfold releaseRecords at consumer
  split at consumer
  case isFalse => cases consumer
  case isTrue hn =>
    simp only [Option.some.injEq, Prod.mk.injEq] at consumer
    exact ⟨hn, consumer.1.symm, consumer.2.symm⟩

/-- What a `get_ahead` step can do. -/
theorem advanceGetAhead_eq_some {n : Nat} (consumer : advanceGetAhead n queue = some next) :
    n ≤ queue.unread ∧
      next = { queue with control := { queue.control with
        getAhead := BitVec.ofNat 32 ((queue.control.getAhead.toNat + n) % queue.capacity) } } := by
  unfold advanceGetAhead at consumer
  split at consumer
  case isFalse => cases consumer
  case isTrue hn => exact ⟨hn, (Option.some.inj consumer).symm⟩

variable (hq : CursorsInRange queue)
include hring hq

/-- Releasing `n` records reads them off the front of the window and leaves the rest. -/
theorem releaseRecords_window {n : Nat} {records : List Entry}
    (consumer : releaseRecords n queue = some (records, next)) :
    queue.window = records ++ next.window ∧ records.length = n := by
  obtain ⟨hn, rfl, hnext⟩ := releaseRecords_eq_some consumer
  have hcap : next.capacity = queue.capacity := by rw [hnext]; rfl
  have hgb : next.control.getBehind.toNat =
      (queue.control.getBehind.toNat + n) % queue.capacity := by
    rw [hnext]; exact toNat_ofNat_mod hring _
  have hstored : next.stored = queue.stored - n := by
    rw [UvmToolsQueue.stored, hcap, hgb, show next.control.putBehind =
      queue.control.putBehind by rw [hnext]]
    exact ring_distance_advance hq.getBehind hq.putBehind hn
  have hslot : ∀ j, next.slot j = queue.slot (n + j) := by
    intro j
    rw [UvmToolsQueue.slot, hcap, hgb, Nat.mod_add_mod, Nat.add_assoc, hnext]
    rfl
  refine ⟨?_, by simp⟩
  rw [UvmToolsQueue.window, UvmToolsQueue.window, hstored, ← Nat.add_sub_cancel' hn,
    List.range_add, List.map_append, List.map_map, Nat.add_sub_cancel' hn]
  congr 1
  exact List.map_congr_left fun j _ => (hslot j).symm

/-- Every step of a queue keeps its capacity and its cursors in range. -/
theorem QueueStep.cursorsInRange [UvmEventEntry Entry] {event : QueueEvent Entry}
    (step : QueueStep queue event next) : next.capacity = queue.capacity ∧ CursorsInRange next := by
  cases step with
  | enqueue entry => exact ⟨by simp, cursorsInRange_enqueueEvent hring hq⟩
  | release consumer =>
      obtain ⟨-, -, rfl⟩ := releaseRecords_eq_some consumer
      exact ⟨rfl, hq.getAhead, (toNat_ofNat_mod hring _).symm ▸ Nat.mod_lt _
        (by have := hring.two_le; omega), hq.putBehind⟩
  | advance consumer =>
      obtain ⟨-, rfl⟩ := advanceGetAhead_eq_some consumer
      exact ⟨rfl, (toNat_ofNat_mod hring _).symm ▸ Nat.mod_lt _
        (by have := hring.two_le; omega), hq.getBehind, hq.putBehind⟩

end Consumer

/-- Every run from a queue of capacity `C` with cursors in range stays so. -/
theorem Steps.cursorsInRange [UvmEventEntry Entry] {capacity : Nat} (hring : RingBound capacity)
    {queue last : UvmToolsQueue Entry} {events : List (QueueEvent Entry)}
    (hcap : queue.capacity = capacity) (hq : CursorsInRange queue)
    (run : Steps QueueStep queue events last) : last.capacity = capacity ∧ CursorsInRange last :=
  have preserved : ∀ {state : UvmToolsQueue Entry} {event next},
      state.capacity = capacity ∧ CursorsInRange state → QueueStep state event next →
        next.capacity = capacity ∧ CursorsInRange next := fun invariant step =>
    have hnext := QueueStep.cursorsInRange (invariant.1 ▸ hring) invariant.2 step
    ⟨hnext.1.trans invariant.1, hnext.2⟩
  @Steps.invariant _ _ _ (fun state => state.capacity = capacity ∧ CursorsInRange state)
    preserved _ _ _ ⟨hcap, hq⟩ run

/-! ## Concrete runs -/

/-- A step a concrete run asks for: an `enqueue_event` call or a consumer step. -/
inductive QueueAction (Entry : Type) where
  | enqueue (entry : Entry)
  | release (n : Nat)
  | advance (n : Nat)

/-- Perform one action, if the consumer protocol allows it. -/
def QueueAction.perform [UvmEventEntry Entry] :
    QueueAction Entry → UvmToolsQueue Entry → Option (QueueEvent Entry × UvmToolsQueue Entry)
  | .enqueue entry, queue =>
      some (.enqueued entry (!queueIsFull queue)
        (if (enqueueEvent entry queue).2 then some queue.control.getAhead else none),
        (enqueueEvent entry queue).1)
  | .release n, queue => (releaseRecords n queue).map fun result => (.released result.1, result.2)
  | .advance n, queue => (advanceGetAhead n queue).map fun next => (.advancedGetAhead n, next)

/-- Perform actions in order, stopping at the first one the protocol does not allow. -/
def runActions [UvmEventEntry Entry] :
    UvmToolsQueue Entry → List (QueueAction Entry) →
      Option (List (QueueEvent Entry) × UvmToolsQueue Entry)
  | queue, [] => some ([], queue)
  | queue, action :: rest =>
      (action.perform queue).bind fun first =>
        (runActions first.2 rest).map fun result => (first.1 :: result.1, result.2)

/-- A performed action is a queue step. -/
theorem QueueAction.perform_step [UvmEventEntry Entry] {action : QueueAction Entry}
    {queue next : UvmToolsQueue Entry} {event : QueueEvent Entry}
    (performed : action.perform queue = some (event, next)) : QueueStep queue event next := by
  cases action with
  | enqueue entry =>
      obtain ⟨rfl, rfl⟩ := Prod.mk.inj (Option.some.inj performed)
      exact .enqueue entry queue
  | release n =>
      obtain ⟨⟨records, next'⟩, hrelease, hresult⟩ := Option.map_eq_some'.mp performed
      obtain ⟨rfl, rfl⟩ := Prod.mk.inj hresult
      exact .release hrelease
  | advance n =>
      obtain ⟨next', hadvance, hresult⟩ := Option.map_eq_some'.mp performed
      obtain ⟨rfl, rfl⟩ := Prod.mk.inj hresult
      exact .advance hadvance

/-- A completed concrete run is a run of the queue. -/
theorem runActions_steps [UvmEventEntry Entry] {actions : List (QueueAction Entry)} :
    ∀ {queue last : UvmToolsQueue Entry} {events : List (QueueEvent Entry)},
      runActions queue actions = some (events, last) → Steps QueueStep queue events last := by
  induction actions with
  | nil =>
      intro queue last events completed
      obtain ⟨rfl, rfl⟩ := Prod.mk.inj (Option.some.inj completed)
      exact .refl _
  | cons action rest inductionHypothesis =>
      intro queue last events completed
      obtain ⟨⟨event, middle⟩, hfirst, hrest⟩ := Option.bind_eq_some.mp completed
      obtain ⟨⟨more, last'⟩, hmore, hresult⟩ := Option.map_eq_some'.mp hrest
      obtain ⟨rfl, rfl⟩ := Prod.mk.inj hresult
      exact (Steps.single (QueueAction.perform_step hfirst)).trans (inductionHypothesis hmore)

/-- A run on four slots with threshold one that releases, drops and wraps: three records
are stored, the first releasing the wait queue at `get_ahead = 0`, and a fourth finds the
ring full and is dropped; the consumer frees two; a fifth record takes `put_behind` round
to 0 and releases at `get_ahead = 2`; the consumer frees two more, taking `get_ahead` round
to 0, and a sixth record releases at `get_ahead = 0` again. -/
def wrappingRun : List (QueueAction Nat) :=
  [.enqueue 1, .enqueue 2, .enqueue 3, .enqueue 4, .advance 2, .release 2, .enqueue 5,
    .advance 2, .release 2, .enqueue 6]

/-- What the wrapping run shows, step by step. -/
def wrappingRunEvents : List (QueueEvent Nat) :=
  [.enqueued 1 true (some 0), .enqueued 2 true none, .enqueued 3 true none,
    .enqueued 4 false none, .advancedGetAhead 2, .released [1, 2], .enqueued 5 true (some 2),
    .advancedGetAhead 2, .released [3, 5], .enqueued 6 true (some 0)]

end UvmTools
