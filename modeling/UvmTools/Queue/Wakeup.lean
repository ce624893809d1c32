import UvmTools.Queue.Consumer
import Mathlib.Data.List.Chain

/-!
# Wakeups of the consumer

`enqueue_event` releases the wait queue only when the `get_ahead` value it last released
for, kept in `wakeup_get` under `is_wakeup_get_valid`, differs from the current one, and
then records the current one; nothing in the tools layer clears the flag. So two releases
in a row are never for the same `get_ahead` value, and a call that leaves at least
`notification_threshold` records unread always finds the last release made for the
current `get_ahead`. A release since the consumer last moved `get_ahead` is not
promised: once `get_ahead` has gone round the ring back to the value of the last release,
crossing the threshold again releases nothing.
-/

namespace UvmTools

variable {Entry : Type} [UvmEventEntry Entry]

/-- The `get_ahead` value a queue recorded its last release for. -/
def UvmToolsQueue.recordedWakeup (queue : UvmToolsQueue Entry) : Option NvU32 :=
  if queue.isWakeupGetValid then some queue.wakeupGet else none

/-- The `get_ahead` value an event released the wait queue for, if it did. -/
def QueueEvent.wakeup : QueueEvent Entry → Option NvU32
  | .enqueued _ _ wakeup => wakeup
  | _ => none

/-- The `get_ahead` values of the releases along a run, in order, after the one `start`
recorded before it. -/
def wakeups (start : Option NvU32) (events : List (QueueEvent Entry)) : List NvU32 :=
  start.toList ++ events.filterMap QueueEvent.wakeup

omit [UvmEventEntry Entry] in
@[simp] theorem wakeups_append_singleton (start : Option NvU32)
    (events : List (QueueEvent Entry)) (event : QueueEvent Entry) :
    wakeups start (events ++ [event]) = wakeups start events ++ event.wakeup.toList := by
  cases hwakeup : event.wakeup <;> simp [wakeups, hwakeup]

/-- The dedup test of one step: the queue records the release the step made, if any, and a
step releases only for a `get_ahead` value other than the recorded one. -/
theorem QueueStep.recordedWakeup_eq {queue next : UvmToolsQueue Entry} {event : QueueEvent Entry}
    (step : QueueStep queue event next) :
    next.recordedWakeup = event.wakeup.or queue.recordedWakeup ∧
      ∀ getAhead ∈ event.wakeup, queue.recordedWakeup ≠ some getAhead := by
  cases step with
  | enqueue entry =>
      obtain ⟨hvalid, hget⟩ := enqueueEvent_wakeup entry queue
      by_cases hreleased : (enqueueEvent entry queue).2 = true
      · have hnew := enqueueEvent_released_new entry queue hreleased
        simp_all [UvmToolsQueue.recordedWakeup, QueueEvent.wakeup]
      · simp_all [UvmToolsQueue.recordedWakeup, QueueEvent.wakeup]
  | release consumer =>
      obtain ⟨-, -, rfl⟩ := releaseRecords_eq_some consumer
      exact ⟨rfl, by simp [QueueEvent.wakeup]⟩
  | advance consumer =>
      obtain ⟨-, rfl⟩ := advanceGetAhead_eq_some consumer
      exact ⟨rfl, by simp [QueueEvent.wakeup]⟩

/-- Along every run, the queue's recorded release is the last of the run's releases, and no
two releases in a row are for the same `get_ahead` value. -/
theorem Steps.wakeups_chain {queue last : UvmToolsQueue Entry} {events : List (QueueEvent Entry)}
    (run : Steps QueueStep queue events last) :
    (wakeups queue.recordedWakeup events).getLast? = last.recordedWakeup ∧
      (wakeups queue.recordedWakeup events).Chain' (· ≠ ·) := by
  induction run with
  | refl => cases queue.recordedWakeup <;> simp [wakeups, List.Chain']
  | @step middle _ _ event _ transition inductionHypothesis =>
      obtain ⟨hlast, hchain⟩ := inductionHypothesis
      obtain ⟨hrecorded, hnew⟩ := transition.recordedWakeup_eq
      rw [wakeups_append_singleton, hrecorded]
      cases hwakeup : event.wakeup with
      | none => simpa using ⟨hlast, hchain⟩
      | some getAhead =>
          refine ⟨by simp, List.chain'_append.2 ⟨hchain, List.chain'_singleton _, ?_⟩⟩
          intro recorded hrecorded' current hcurrent hsame
          obtain rfl : current = getAhead := by simpa using hcurrent.symm
          exact hnew current hwakeup (by rw [← hlast, ← hsame]; exact hrecorded')

variable {queue : UvmToolsQueue Entry} {entry : Entry}

/-- A call that stores its record and leaves at least `notification_threshold` records
unread leaves a release recorded for the current `get_ahead`: its own, or, when the
dedup test held it back, the one already recorded for that value. -/
theorem enqueueEvent_recordedWakeup {capacity : Nat} (hring : RingBound capacity)
    (hcap : queue.capacity = capacity) (hq : CursorsInRange queue)
    (hfull : queueIsFull queue = false)
    (hcrossed : queue.notificationThreshold.toNat ≤ (enqueueEvent entry queue).1.unread) :
    (enqueueEvent entry queue).1.recordedWakeup = some queue.control.getAhead := by
  subst hcap
  obtain ⟨hvalid, hget⟩ := enqueueEvent_wakeup entry queue
  by_cases hreleased : (enqueueEvent entry queue).2 = true
  · simp [UvmToolsQueue.recordedWakeup, hvalid, hget, hreleased]
  · have hsame : queue.isWakeupGetValid = true ∧ queue.wakeupGet = queue.control.getAhead := by
      by_contra hnew
      exact hreleased ((enqueueEvent_released_iff hring hq).2 ⟨hfull, hcrossed, hnew⟩)
    simp [UvmToolsQueue.recordedWakeup, hvalid, hget, hreleased, hsame.1, hsame.2]

/-- For a queue of capacity `2 ^ k`, `k ≥ 1`, with cursors in range, and a run ending with an
`enqueue_event` call that stores its record and leaves at least `notification_threshold`
records past `get_ahead`: no two releases of the wait queue in a row (counting one the queue
had recorded before the run) are for the same `get_ahead` value, and the last of them was
made for the current `get_ahead`. -/
theorem enqueueEvent_releases_per_getAhead {k : Nat} (hk : 1 ≤ k)
    {last : UvmToolsQueue Entry} {events : List (QueueEvent Entry)} {wakeup : Option NvU32}
    (hsize : queue.queueBufferCount.toNat = 2 ^ k) (hq : CursorsInRange queue)
    (run : Steps QueueStep queue (events ++ [.enqueued entry true wakeup]) last)
    (hcrossed : last.notificationThreshold.toNat ≤ last.unread) :
    (wakeups queue.recordedWakeup (events ++ [.enqueued entry true wakeup])).Chain' (· ≠ ·) ∧
      (wakeups queue.recordedWakeup (events ++ [.enqueued entry true wakeup])).getLast? =
        some last.control.getAhead := by
  obtain ⟨hlast, hchain⟩ := run.wakeups_chain
  obtain ⟨middle, prior, transition⟩ := run.last_step
  obtain ⟨hcap, hmiddle⟩ := Steps.cursorsInRange (ringBound_of_pow hk hsize) rfl hq prior
  obtain ⟨hstored, rfl, rfl⟩ := transition.enqueued_inv
  refine ⟨hchain, hlast.trans ?_⟩
  rw [enqueueEvent_getAhead]
  exact enqueueEvent_recordedWakeup (ringBound_of_pow hk hsize) hcap hmiddle
    (by simpa using hstored.symm) (by simpa using hcrossed)

/-- On the wrapping run the wait queue is released for `get_ahead` 0, 2 and 0 again: a value
recurs once `get_ahead` has gone round the ring, never twice in a row, and the last call,
which leaves one record unread, finds the last release made for the current `get_ahead`. -/
theorem enqueueEvent_releases_per_getAhead_wrapping :
    ∃ last : UvmToolsQueue Nat,
      runActions (freshQueue 4 1) wrappingRun = some (wrappingRunEvents, last) ∧
      (1 ≤ 2 ∧ (freshQueue 4 1 : UvmToolsQueue Nat).queueBufferCount.toNat = 2 ^ 2 ∧
        CursorsInRange (freshQueue 4 1 : UvmToolsQueue Nat) ∧
        Steps QueueStep (freshQueue 4 1)
          (wrappingRunEvents.dropLast ++ [.enqueued 6 true (some 0)]) last ∧
        last.notificationThreshold.toNat ≤ last.unread) ∧
      wakeups (freshQueue 4 1 : UvmToolsQueue Nat).recordedWakeup wrappingRunEvents = [0, 2, 0] ∧
      ((wakeups (freshQueue 4 1 : UvmToolsQueue Nat).recordedWakeup
          (wrappingRunEvents.dropLast ++ [.enqueued 6 true (some 0)])).Chain' (· ≠ ·) ∧
        (wakeups (freshQueue 4 1 : UvmToolsQueue Nat).recordedWakeup
          (wrappingRunEvents.dropLast ++ [.enqueued 6 true (some 0)])).getLast? =
          some last.control.getAhead) :=
  have hq : CursorsInRange (freshQueue 4 1 : UvmToolsQueue Nat) := ⟨by decide, by decide, by decide⟩
  have hrun : runActions (freshQueue 4 1) wrappingRun = some (wrappingRunEvents, _) := rfl
  have hcrossed : _ ≤ _ := (by decide : 1 ≤ 1)
  ⟨_, hrun, ⟨by decide, rfl, hq, runActions_steps hrun, hcrossed⟩, rfl,
    enqueueEvent_releases_per_getAhead (show 1 ≤ 2 by decide) rfl hq (runActions_steps hrun)
      hcrossed⟩

/-- Whether a release happened after the consumer last moved `get_ahead` (or since the
start of the run, if it never did). -/
def releasedSinceGetAheadMoved (events : List (QueueEvent Entry)) : Bool :=
  events.foldl (fun released event => match event with
    | .enqueued _ _ (some _) => true
    | .advancedGetAhead (_ + 1) => false
    | _ => released) false

/-- Whether an event is an `enqueue_event` call. -/
def QueueEvent.isEnqueued : QueueEvent Entry → Bool
  | .enqueued .. => true
  | _ => false

/-- No wakeup is lost on runs from `queue`: whenever a run ends with an `enqueue_event`
call that leaves at least `notification_threshold` records past `get_ahead`, some call
released the wait queue since the consumer last moved `get_ahead`. -/
def NoWakeupLost (queue : UvmToolsQueue Entry) : Prop :=
  ∀ events last, Steps QueueStep queue events last →
    events.getLast?.map QueueEvent.isEnqueued = some true →
    last.notificationThreshold.toNat ≤ last.unread →
    releasedSinceGetAheadMoved events = true

/-- A run on four slots with threshold two in which `get_ahead` goes round the ring: two
records signal at `get_ahead = 0`; the consumer then moves `get_ahead` by 2, 1 and 1 back
to 0 while the producer stores one record between moves; two more records cross the
threshold at `get_ahead = 0` again, and nothing is released. -/
def lostWakeupRun : List (QueueAction Nat) :=
  [.enqueue 1, .enqueue 2, .advance 2, .release 2, .enqueue 3, .advance 1, .release 1,
    .enqueue 4, .advance 1, .release 1, .enqueue 5, .enqueue 6]

/-- Whether a completed run ends in a lost wakeup. -/
def endsInLostWakeup (result : List (QueueEvent Nat) × UvmToolsQueue Nat) : Bool :=
  result.1.getLast?.map QueueEvent.isEnqueued == some true &&
    decide (result.2.notificationThreshold.toNat ≤ result.2.unread) &&
    !releasedSinceGetAheadMoved result.1

/-- The lost-wakeup run refutes `NoWakeupLost`: its last call crosses the threshold at a
`get_ahead` value signalled before the consumer went round the ring. -/
theorem wakeup_lost_after_getAhead_wraps : ¬ NoWakeupLost (freshQueue 4 2 : UvmToolsQueue Nat) := by
  intro noneLost
  have hlost : (runActions (freshQueue 4 2) lostWakeupRun).map endsInLostWakeup = some true := by
    decide
  obtain ⟨⟨events, last⟩, hrun, hends⟩ := Option.map_eq_some'.mp hlost
  simp only [endsInLostWakeup, Bool.and_eq_true, beq_iff_eq, decide_eq_true_eq,
    Bool.not_eq_true'] at hends
  have := noneLost events last (runActions_steps hrun) hends.1.1 hends.1.2
  simp [hends.2] at this

end UvmTools
