import UvmTools.Queue.Consumer

/-!
# The ring refines a bounded FIFO

What the queue is for: a FIFO of at most `C - 1` records that counts, per event type,
the records it had no room for. The window of the ring, from `get_behind` up to
`put_behind`, is that FIFO in every state of every run in which the consumer follows
the cursor protocol, and each `enqueue_event` call touches only what the FIFO step
asks for.
-/

namespace UvmTools

variable {Entry : Type} [UvmEventEntry Entry]

/-- The abstract queue: the records not yet released, oldest first, and the drop counters. -/
structure BoundedFifo (Entry : Type) where
  items : List Entry
  dropped : Nat → NvU64

namespace BoundedFifo

/-- Offer a record to a FIFO holding at most `capacity` records: a full FIFO only counts
the drop against the record's event type. -/
def push (capacity : Nat) (entry : Entry) (fifo : BoundedFifo Entry) : BoundedFifo Entry :=
  if fifo.items.length < capacity then
    { fifo with items := fifo.items ++ [entry] }
  else
    let eventType := UvmEventEntry.eventType entry
    { fifo with dropped := Function.update fifo.dropped eventType (fifo.dropped eventType + 1) }

/-- One step of the abstract queue, under the events of a queue run. -/
inductive Step (capacity : Nat) :
    BoundedFifo Entry → QueueEvent Entry → BoundedFifo Entry → Prop where
  | push (entry : Entry) (wakeup : Option NvU32) (fifo : BoundedFifo Entry) :
      Step capacity fifo (.enqueued entry (decide (fifo.items.length < capacity)) wakeup)
        (fifo.push capacity entry)
  | pop {n : Nat} (fifo : BoundedFifo Entry) (enough : n ≤ fifo.items.length) :
      Step capacity fifo (.released (fifo.items.take n)) { fifo with items := fifo.items.drop n }
  | skip (n : Nat) (fifo : BoundedFifo Entry) : Step capacity fifo (.advancedGetAhead n) fifo

/-- Along an abstract run, what was released followed by what is left is what was there
followed by every record the FIFO accepted: nothing is lost, duplicated or reordered. -/
theorem Steps.released_append_items {capacity : Nat} {fifo fifo' : BoundedFifo Entry}
    {events : List (QueueEvent Entry)} (run : UvmTools.Steps (Step capacity) fifo events fifo') :
    releasedRecords events ++ fifo'.items = fifo.items ++ storedRecords events := by
  induction run with
  | refl => simp
  | step _ transition inductionHypothesis =>
      cases transition with
      | push entry wakeup middle =>
          unfold push
          split
          · simp only [releasedRecords_append_singleton, storedRecords_append_singleton,
              QueueEvent.releasedRecords, QueueEvent.storedRecord, decide_eq_true ‹_›,
              Option.toList_some, List.append_nil]
            rw [← List.append_assoc, inductionHypothesis, List.append_assoc]
          · simp [QueueEvent.releasedRecords, QueueEvent.storedRecord, *]
      | pop middle enough =>
          simp only [releasedRecords_append_singleton, storedRecords_append_singleton,
            QueueEvent.releasedRecords, QueueEvent.storedRecord, Option.toList_none,
            List.append_nil, List.append_assoc, List.take_append_drop]
          exact inductionHypothesis
      | skip n middle =>
          simpa [QueueEvent.releasedRecords, QueueEvent.storedRecord] using inductionHypothesis

end BoundedFifo

/-- The abstraction of a queue: its window and its drop counters. -/
def UvmToolsQueue.toFifo (queue : UvmToolsQueue Entry) : BoundedFifo Entry :=
  ⟨queue.window, queue.control.dropped⟩

/-- What one `enqueue_event` call on a queue may do: it overwrites no slot between
`get_behind` and `put_behind`; with `C - 1` records stored it changes nothing but
`dropped[eventType]`, by one; otherwise it writes only slot `put_behind` and publishes
`(put_behind + 1) mod C` as both put cursors. -/
def EnqueueLaw (entry : Entry) (queue next : UvmToolsQueue Entry) : Prop :=
  (∀ j < queue.stored, next.slot j = queue.slot j) ∧
  ((queue.stored = queue.capacity - 1 ∧
      next = { queue with control := queue.control.incDropped (UvmEventEntry.eventType entry) }) ∨
    (queue.stored < queue.capacity - 1 ∧
      next.queue = Function.update queue.queue queue.control.putBehind.toNat entry ∧
      ∃ published : NvU32,
        published.toNat = (queue.control.putBehind.toNat + 1) % queue.capacity ∧
        next.control = { queue.control with putAhead := published, putBehind := published }))

section Simulation

variable {queue next : UvmToolsQueue Entry} (hring : RingBound queue.capacity)
  (hq : CursorsInRange queue)
include hring hq

/-- The per-call law holds of every call on a queue whose cursors are in range. -/
theorem enqueueEvent_law (entry : Entry) : EnqueueLaw entry queue (enqueueEvent entry queue).1 := by
  have hlt := stored_lt_capacity hring
  cases hfull : queueIsFull queue
  · have hroom := mt (queueIsFull_iff hring hq).2 (by simp [hfull])
    refine ⟨fun j hj => slot_enqueueEvent hring hq hfull hj, .inr ⟨by omega, ?_, _,
      toNat_published_putBehind hring hq, enqueueEvent_control_of_not_full _ _ hfull⟩⟩
    rw [enqueueEvent_queue_of_not_full _ _ hfull, toNat_masked_putBehind hring hq]
  · rw [enqueueEvent_of_full _ _ hfull]
    exact ⟨fun _ _ => rfl, .inl ⟨(queueIsFull_iff hring hq).1 hfull, rfl⟩⟩

/-- One `enqueue_event` call is one push of the abstract FIFO of capacity `C - 1`. -/
theorem toFifo_enqueueEvent (entry : Entry) :
    (enqueueEvent entry queue).1.toFifo = queue.toFifo.push (queue.capacity - 1) entry := by
  have hlt := stored_lt_capacity hring
  cases hfull : queueIsFull queue
  · have := mt (queueIsFull_iff hring hq).2 (by simp [hfull])
    simp only [UvmToolsQueue.toFifo, BoundedFifo.push, UvmToolsQueue.length_window,
      if_pos (show queue.stored < queue.capacity - 1 by omega),
      window_enqueueEvent hring hq hfull, enqueueEvent_control_of_not_full _ _ hfull]
  · simp only [UvmToolsQueue.toFifo, BoundedFifo.push, UvmToolsQueue.length_window,
      (queueIsFull_iff hring hq).1 hfull, lt_irrefl, if_false, enqueueEvent_of_full _ _ hfull]
    rfl

/-- Every queue step is a step of the abstract FIFO of capacity `C - 1`. -/
theorem QueueStep.refines {event : QueueEvent Entry} (step : QueueStep queue event next) :
    BoundedFifo.Step (queue.capacity - 1) queue.toFifo event next.toFifo := by
  have hlt := stored_lt_capacity hring
  cases step with
  | enqueue entry =>
      have hstored : (!queueIsFull queue) = decide (queue.window.length < queue.capacity - 1) := by
        cases hfull : queueIsFull queue
        · have := mt (queueIsFull_iff hring hq).2 (by simp [hfull])
          simp; omega
        · simp [(queueIsFull_iff hring hq).1 hfull]
      rw [hstored, toFifo_enqueueEvent hring hq]
      exact BoundedFifo.Step.push entry _ queue.toFifo
  | @release n records _ _ consumer =>
      obtain ⟨hwindow, hlength⟩ := releaseRecords_window hring hq consumer
      obtain ⟨-, -, hnext⟩ := releaseRecords_eq_some consumer
      have hn : n ≤ queue.toFifo.items.length := by
        simp only [UvmToolsQueue.toFifo, hwindow, List.length_append, hlength]; omega
      have hfifo : next.toFifo = { queue.toFifo with items := queue.toFifo.items.drop n } := by
        simp only [UvmToolsQueue.toFifo, hwindow, List.drop_left' hlength, hnext]
      have hrecords : records = queue.toFifo.items.take n := by
        simp only [UvmToolsQueue.toFifo, hwindow, List.take_left' hlength]
      rw [hfifo, hrecords]
      exact BoundedFifo.Step.pop _ hn
  | advance consumer =>
      obtain ⟨-, rfl⟩ := advanceGetAhead_eq_some consumer
      exact BoundedFifo.Step.skip _ _

end Simulation

/-- A step from a queue of capacity `C` with cursors in range stays so, and is a FIFO step. -/
theorem QueueStep.matched {capacity : Nat} (hring : RingBound capacity)
    {queue next : UvmToolsQueue Entry} {event : QueueEvent Entry}
    (invariant : queue.capacity = capacity ∧ CursorsInRange queue)
    (step : QueueStep queue event next) :
    (next.capacity = capacity ∧ CursorsInRange next) ∧
      BoundedFifo.Step (capacity - 1) queue.toFifo event next.toFifo := by
  obtain ⟨rfl, hq⟩ := invariant
  have hnext := QueueStep.cursorsInRange hring hq step
  exact ⟨hnext, QueueStep.refines hring hq step⟩

/-- For a queue of capacity `C = 2 ^ k`, `k ≥ 1`, and any run interleaving
`enqueue_event` calls with a consumer that follows the cursor protocol: the run is a run
of the bounded FIFO of capacity `C - 1` on the windows (so the window always is the
abstract FIFO, and a call drops exactly when `C - 1` records are stored); the consumer
releases exactly the stored records, in enqueue order; and every call from the state
reached obeys `EnqueueLaw`. -/
theorem enqueueEvent_refines_boundedFifo {k : Nat} (hk : 1 ≤ k) {queue last : UvmToolsQueue Entry}
    {events : List (QueueEvent Entry)} (hsize : queue.queueBufferCount.toNat = 2 ^ k)
    (hq : CursorsInRange queue) (run : Steps QueueStep queue events last) :
    Steps (BoundedFifo.Step (2 ^ k - 1)) queue.toFifo events last.toFifo ∧
      releasedRecords events ++ last.window = queue.window ++ storedRecords events ∧
      ∀ entry, EnqueueLaw entry last (enqueueEvent entry last).1 := by
  have hring : RingBound (2 ^ k) := hsize ▸ ringBound_of_pow hk hsize
  obtain ⟨⟨hcap, hlast⟩, habstract⟩ := Steps.simulate (QueueStep.matched hring) ⟨hsize, hq⟩ run
  exact ⟨habstract, BoundedFifo.Steps.released_append_items habstract,
    enqueueEvent_law (hcap ▸ hring) hlast⟩

/-- The wrapping run, which drops a record against a full ring, releases four records and
takes both `put_behind` and `get_ahead` round the ring, is a run of the FIFO of three
records: the consumer gets `1, 2, 3, 5` in order, `6` is left stored, and the drop of `4`
is counted against its event type. -/
theorem enqueueEvent_refines_boundedFifo_wrapping :
    ∃ last : UvmToolsQueue Nat,
      runActions (freshQueue 4 1) wrappingRun = some (wrappingRunEvents, last) ∧
      (1 ≤ 2 ∧ (freshQueue 4 1 : UvmToolsQueue Nat).queueBufferCount.toNat = 2 ^ 2 ∧
        CursorsInRange (freshQueue 4 1 : UvmToolsQueue Nat) ∧
        Steps QueueStep (freshQueue 4 1) wrappingRunEvents last) ∧
      releasedRecords wrappingRunEvents = [1, 2, 3, 5] ∧ last.window = [6] ∧
      last.control.dropped 4 = 1 ∧
      (Steps (BoundedFifo.Step (2 ^ 2 - 1)) (freshQueue 4 1 : UvmToolsQueue Nat).toFifo
          wrappingRunEvents last.toFifo ∧
        releasedRecords wrappingRunEvents ++ last.window =
          (freshQueue 4 1 : UvmToolsQueue Nat).window ++ storedRecords wrappingRunEvents ∧
        ∀ entry : Nat, EnqueueLaw entry last (enqueueEvent entry last).1) :=
  have hq : CursorsInRange (freshQueue 4 1 : UvmToolsQueue Nat) := ⟨by decide, by decide, by decide⟩
  have hrun : runActions (freshQueue 4 1) wrappingRun = some (wrappingRunEvents, _) := rfl
  ⟨_, hrun, ⟨by decide, rfl, hq, runActions_steps hrun⟩, rfl, by decide, by decide,
    enqueueEvent_refines_boundedFifo (by decide) rfl hq (runActions_steps hrun)⟩

/-! ## Batches of calls -/

namespace BoundedFifo

/-- A batch offered in order to a FIFO with room for `room` more records: the first `room`
join it, in order. -/
theorem items_foldl_push {capacity : Nat} (entries : List Entry) {fifo : BoundedFifo Entry}
    (hlength : fifo.items.length ≤ capacity) :
    (entries.foldl (fun fifo entry => fifo.push capacity entry) fifo).items =
      fifo.items ++ entries.take (capacity - fifo.items.length) := by
  induction entries generalizing fifo with
  | nil => simp
  | cons entry entries ih =>
      rw [List.foldl_cons]
      by_cases hroom : fifo.items.length < capacity
      · have hpush : (fifo.push capacity entry).items = fifo.items ++ [entry] := by
          simp [push, hroom]
        rw [ih (by simp [hpush]; omega), hpush, List.length_append, List.length_singleton,
          show capacity - fifo.items.length = capacity - (fifo.items.length + 1) + 1 by omega,
          List.take_succ_cons, List.append_assoc, List.singleton_append]
      · have hpush : (fifo.push capacity entry).items = fifo.items := by simp [push, hroom]
        rw [ih (by rw [hpush]; exact hlength), hpush, show capacity - fifo.items.length = 0 by omega]
        rfl

/-- ... and the records past them are each counted as dropped against their event type. -/
theorem dropped_foldl_push {capacity : Nat} (entries : List Entry) {fifo : BoundedFifo Entry}
    (hlength : fifo.items.length ≤ capacity) (eventType : Nat) :
    (entries.foldl (fun fifo entry => fifo.push capacity entry) fifo).dropped eventType =
      fifo.dropped eventType + BitVec.ofNat 64 ((entries.drop (capacity - fifo.items.length)).countP
        fun entry => UvmEventEntry.eventType entry = eventType) := by
  induction entries generalizing fifo with
  | nil => simp
  | cons entry entries ih =>
      rw [List.foldl_cons]
      by_cases hroom : fifo.items.length < capacity
      · have hpush : (fifo.push capacity entry).items = fifo.items ++ [entry] := by
          simp [push, hroom]
        have hdropped : (fifo.push capacity entry).dropped = fifo.dropped := by simp [push, hroom]
        rw [ih (by simp [hpush]; omega), hpush, hdropped, List.length_append, List.length_singleton,
          show capacity - fifo.items.length = capacity - (fifo.items.length + 1) + 1 by omega,
          List.drop_succ_cons]
      · have hpush : (fifo.push capacity entry).items = fifo.items := by simp [push, hroom]
        rw [ih (by rw [hpush]; exact hlength), hpush, show capacity - fifo.items.length = 0 by omega]
        simp only [push, if_neg hroom, List.drop_zero, List.countP_cons]
        by_cases htype : UvmEventEntry.eventType entry = eventType
        · subst htype
          simp only [Function.update_same, decide_True, if_true, BitVec.ofNat_add, BitVec.add_assoc]
          rw [BitVec.add_comm (BitVec.ofNat 64 (List.countP _ _))]
          rfl
        · simp [Function.update_noteq (Ne.symm htype), htype]

end BoundedFifo

section Batches

/-- A batch of `enqueue_event` calls is the batch of pushes on the abstract FIFO. -/
theorem toFifo_foldl_enqueueEvent (entries : List Entry) :
    ∀ {queue : UvmToolsQueue Entry}, RingBound queue.capacity → CursorsInRange queue →
      (entries.foldl (fun queue entry => (enqueueEvent entry queue).1) queue).toFifo =
        entries.foldl (fun fifo entry => fifo.push (queue.capacity - 1) entry) queue.toFifo := by
  induction entries with
  | nil => intros; rfl
  | cons entry entries ih =>
      intro queue hring hq
      rw [List.foldl_cons, List.foldl_cons, ← toFifo_enqueueEvent hring hq,
        ih ((enqueueEvent_capacity entry queue).symm ▸ hring) (cursorsInRange_enqueueEvent hring hq),
        enqueueEvent_capacity]

/-- After a batch of `enqueue_event` calls, the window is the old window followed by the
records that fit in the `C - 1 - stored` free slots, in batch order. -/
theorem window_foldl_enqueueEvent {queue : UvmToolsQueue Entry} (hring : RingBound queue.capacity)
    (hq : CursorsInRange queue) (entries : List Entry) :
    (entries.foldl (fun queue entry => (enqueueEvent entry queue).1) queue).window =
      queue.window ++ entries.take (queue.capacity - 1 - queue.stored) := by
  have hfifo := congrArg BoundedFifo.items (toFifo_foldl_enqueueEvent entries hring hq)
  rw [BoundedFifo.items_foldl_push entries (by
    simpa [UvmToolsQueue.toFifo] using Nat.le_sub_one_of_lt (stored_lt_capacity hring))] at hfifo
  simpa only [UvmToolsQueue.toFifo, UvmToolsQueue.length_window] using hfifo

end Batches

end UvmTools
