import UvmTools.Basic

/-!
# The event queue and `enqueue_event`

A queue tracker owns a ring of `queue_buffer_count` records and a control block, both
mapped into the consumer. The producer owns `put_ahead`/`put_behind`, the consumer owns
`get_ahead`/`get_behind`, and `enqueue_event` masks every cursor it reads before use.

The second half gives the ring arithmetic in `Nat`: for a power-of-two capacity and
cursors below it, the masked 32-bit expressions of the source are plain residues
modulo the capacity.
-/

namespace UvmTools

/-- The control block, `UvmToolsEventControlData`: four cursors and the per-event-type
drop counters, all writable by the consumer. -/
structure UvmToolsEventControlData where
  getAhead : NvU32
  getBehind : NvU32
  putAhead : NvU32
  putBehind : NvU32
  dropped : Nat → NvU64

/-- `uvm_tools_queue_snapshot_t`: the producer's copy of the cursors. -/
structure UvmToolsQueueSnapshot where
  getAhead : NvU32
  getBehind : NvU32
  putAhead : NvU32
  putBehind : NvU32

/-- The fields of `uvm_tools_queue_t` that `enqueue_event` reads or writes. The ring
`queue` is indexed by slot; its first `queue_buffer_count` slots are the mapping. -/
structure UvmToolsQueue (Entry : Type) where
  queue : Nat → Entry
  queueBufferCount : NvU32
  notificationThreshold : NvU32
  control : UvmToolsEventControlData
  isWakeupGetValid : Bool
  wakeupGet : NvU32

variable {Entry : Type}

/-- `atomic64_inc(&ctrl->dropped[eventType])`. -/
def UvmToolsEventControlData.incDropped (ctrl : UvmToolsEventControlData) (eventType : Nat) :
    UvmToolsEventControlData :=
  { ctrl with dropped := Function.update ctrl.dropped eventType (ctrl.dropped eventType + 1) }

@[simp] theorem UvmToolsEventControlData.incDropped_getAhead (ctrl : UvmToolsEventControlData)
    (eventType : Nat) : (ctrl.incDropped eventType).getAhead = ctrl.getAhead := rfl

@[simp] theorem UvmToolsEventControlData.incDropped_getBehind (ctrl : UvmToolsEventControlData)
    (eventType : Nat) : (ctrl.incDropped eventType).getBehind = ctrl.getBehind := rfl

@[simp] theorem UvmToolsEventControlData.incDropped_putBehind (ctrl : UvmToolsEventControlData)
    (eventType : Nat) : (ctrl.incDropped eventType).putBehind = ctrl.putBehind := rfl

/-- `queue_needs_wakeup`: at least `notification_threshold` records lie between the
snapshot's `get_ahead` and `put_behind`. -/
def queueNeedsWakeup (queue : UvmToolsQueue Entry) (sn : UvmToolsQueueSnapshot) : Bool :=
  let queueMask := queue.queueBufferCount - 1
  decide (((queue.queueBufferCount + sn.putBehind - sn.getAhead) &&& queueMask) ≥
    queue.notificationThreshold)

/-- The full test of `enqueue_event` on the masked cursors: one free element means
that the queue is full. -/
def queueIsFull (queue : UvmToolsQueue Entry) : Bool :=
  let queueSize := queue.queueBufferCount
  let queueMask := queueSize - 1
  let getBehind := queue.control.getBehind &&& queueMask
  let putBehind := queue.control.putBehind &&& queueMask
  ((queueSize + getBehind - putBehind) &&& queueMask) == 1

/-- `enqueue_event`: the queue after one call, and whether the call released the
consumer's wait queue (`blockq_flush`). A full queue only counts the drop; otherwise
the record goes to slot `put_behind`, both put cursors are published, and the wait
queue is released once per value of `get_ahead`. -/
def enqueueEvent [UvmEventEntry Entry] (entry : Entry) (queue : UvmToolsQueue Entry) :
    UvmToolsQueue Entry × Bool :=
  let ctrl := queue.control
  let queueMask := queue.queueBufferCount - 1
  let getBehind := ctrl.getBehind &&& queueMask
  let putBehind := ctrl.putBehind &&& queueMask
  let putAhead := (putBehind + 1) &&& queueMask
  if queueIsFull queue then
    ({ queue with control := ctrl.incDropped (UvmEventEntry.eventType entry) }, false)
  else
    let published : UvmToolsQueue Entry :=
      { queue with
        queue := Function.update queue.queue putBehind.toNat entry
        control := { ctrl with putAhead := putAhead, putBehind := putAhead } }
    let sn : UvmToolsQueueSnapshot :=
      { getAhead := ctrl.getAhead, getBehind := getBehind,
        putAhead := putAhead, putBehind := putAhead }
    if queueNeedsWakeup published sn &&
        !(queue.isWakeupGetValid && queue.wakeupGet == sn.getAhead) then
      ({ published with isWakeupGetValid := true, wakeupGet := sn.getAhead }, true)
    else
      (published, false)

namespace UvmToolsQueue

/-- The capacity `C`, `queue_buffer_count`, as a number. -/
def capacity (queue : UvmToolsQueue Entry) : Nat := queue.queueBufferCount.toNat

/-- The records between `get_behind` and `put_behind`, `(put_behind - get_behind) mod C`. -/
def stored (queue : UvmToolsQueue Entry) : Nat :=
  (queue.capacity + queue.control.putBehind.toNat - queue.control.getBehind.toNat) %
    queue.capacity

/-- The records between `get_ahead` and `put_behind`, `(put_behind - get_ahead) mod C`. -/
def unread (queue : UvmToolsQueue Entry) : Nat :=
  (queue.capacity + queue.control.putBehind.toNat - queue.control.getAhead.toNat) %
    queue.capacity

/-- The slot `offset` records past `get_behind`. -/
def slot (queue : UvmToolsQueue Entry) (offset : Nat) : Entry :=
  queue.queue ((queue.control.getBehind.toNat + offset) % queue.capacity)

/-- The records the consumer has not released yet, oldest first. -/
def window (queue : UvmToolsQueue Entry) : List Entry :=
  (List.range queue.stored).map queue.slot

@[simp] theorem length_window (queue : UvmToolsQueue Entry) :
    queue.window.length = queue.stored := by
  simp [window]

end UvmToolsQueue

/-! ## Ring arithmetic -/

/-- What the ring arithmetic needs of a capacity `2 ^ k` with `k ≥ 1` held in an `NvU32`. -/
structure RingBound (capacity : Nat) : Prop where
  two_le : 2 ≤ capacity
  dvd : capacity ∣ 2 ^ 32
  double_le : 2 * capacity ≤ 2 ^ 32
  and_mask : ∀ x : Nat, x &&& (capacity - 1) = x % capacity

/-- A power-of-two `queue_buffer_count` of exponent at least one meets `RingBound`. -/
theorem ringBound_of_pow {k : Nat} {count : NvU32} (hk : 1 ≤ k) (hsize : count.toNat = 2 ^ k) :
    RingBound count.toNat := by
  have hlt : 2 ^ k < 2 ^ 32 := hsize ▸ count.isLt
  have hk32 : k < 32 := (Nat.pow_lt_pow_iff_right (by decide : 1 < 2)).mp hlt
  rw [hsize]
  refine ⟨?_, Nat.pow_dvd_pow 2 hk32.le, ?_, fun x => Nat.and_pow_two_sub_one_eq_mod x k⟩
  · calc 2 = 2 ^ 1 := rfl
      _ ≤ 2 ^ k := Nat.pow_le_pow_right (by decide) hk
  · calc 2 * 2 ^ k = 2 ^ (k + 1) := by rw [Nat.pow_succ, Nat.mul_comm]
      _ ≤ 2 ^ 32 := Nat.pow_le_pow_right (by decide) hk32

section Residues

variable {g p capacity : Nat}

/-- A sum of two residues wraps at most once. -/
theorem mod_of_lt_two_mul {x : Nat} (h : x < 2 * capacity) :
    x % capacity = if x < capacity then x else x - capacity := by
  split
  · exact Nat.mod_eq_of_lt ‹_›
  · rw [Nat.mod_eq_sub_mod (by omega), Nat.mod_eq_of_lt (by omega)]

/-- The ring distance from `g` to `p`. -/
theorem ring_distance (hg : g < capacity) (hp : p < capacity) :
    (capacity + p - g) % capacity = if g ≤ p then p - g else capacity + p - g := by
  rw [mod_of_lt_two_mul (by omega)]
  split <;> split <;> omega

/-- Walking the ring distance from `g` lands on `p`. -/
theorem add_ring_distance (hg : g < capacity) (hp : p < capacity) :
    (g + (capacity + p - g) % capacity) % capacity = p := by
  rw [ring_distance hg hp, mod_of_lt_two_mul (by split <;> omega)]
  split <;> split <;> omega

/-- No residue strictly inside the ring distance from `g` to `p` is `p`. -/
theorem add_ne_of_lt_ring_distance {j : Nat} (hg : g < capacity) (hp : p < capacity)
    (hj : j < (capacity + p - g) % capacity) : (g + j) % capacity ≠ p := by
  rw [ring_distance hg hp] at hj
  rw [mod_of_lt_two_mul (by split at hj <;> omega)]
  split <;> split at hj <;> omega

/-- Moving `p` one slot on lengthens the distance by one unless it reaches `g`. -/
theorem ring_distance_succ (hg : g < capacity) (hp : p < capacity)
    (hroom : (capacity + p - g) % capacity + 1 < capacity) :
    (capacity + (p + 1) % capacity - g) % capacity = (capacity + p - g) % capacity + 1 := by
  rw [ring_distance hg hp] at hroom ⊢
  by_cases hlast : p + 1 < capacity
  · rw [Nat.mod_eq_of_lt hlast, ring_distance hg hlast]
    split_ifs at hroom ⊢ <;> omega
  · rw [show (p + 1) % capacity = 0 by rw [show p + 1 = capacity by omega, Nat.mod_self],
      ring_distance hg (by omega)]
    split_ifs at hroom ⊢ <;> omega

/-- The complementary distance is one exactly when the distance is `capacity - 1`. -/
theorem ring_distance_comm_eq_one (htwo : 2 ≤ capacity) (hg : g < capacity) (hp : p < capacity) :
    (capacity + g - p) % capacity = 1 ↔ (capacity + p - g) % capacity = capacity - 1 := by
  rw [ring_distance hp hg, ring_distance hg hp]
  split <;> split <;> omega

/-- Moving `g` on by `n` within the distance shortens it by `n`. -/
theorem ring_distance_advance {n : Nat} (hg : g < capacity) (hp : p < capacity)
    (hn : n ≤ (capacity + p - g) % capacity) :
    (capacity + p - (g + n) % capacity) % capacity = (capacity + p - g) % capacity - n := by
  rw [ring_distance hg hp] at hn ⊢
  by_cases hgp : g ≤ p
  · rw [if_pos hgp] at hn ⊢
    rw [Nat.mod_eq_of_lt (show g + n < capacity by omega),
      ring_distance (show g + n < capacity by omega) hp, if_pos (by omega)]
    omega
  · rw [if_neg hgp] at hn ⊢
    by_cases hwrap : g + n < capacity
    · rw [Nat.mod_eq_of_lt hwrap, ring_distance hwrap hp, if_neg (by omega)]
      omega
    · rw [mod_of_lt_two_mul (show g + n < 2 * capacity by omega), if_neg hwrap,
        ring_distance (show g + n - capacity < capacity by omega) hp, if_pos (by omega)]
      omega

end Residues

section Masks

variable {count : NvU32}

/-- Masking with `capacity - 1` reduces modulo a power-of-two capacity. -/
theorem toNat_and_mask (hring : RingBound count.toNat) (x : NvU32) :
    (x &&& (count - 1)).toNat = x.toNat % count.toNat := by
  have hpos : 1 ≤ count.toNat := by have := hring.two_le; omega
  rw [BitVec.toNat_and, BitVec.toNat_sub_of_le (by simpa [BitVec.le_def] using hpos)]
  exact hring.and_mask x.toNat

/-- The masked successor of a slot index. -/
theorem toNat_and_mask_succ (hring : RingBound count.toNat) {x : NvU32}
    (hx : x.toNat < count.toNat) :
    ((x + 1) &&& (count - 1)).toNat = (x.toNat + 1) % count.toNat := by
  have := hring.double_le
  have hsmall : x.toNat + (1 : NvU32).toNat < 2 ^ 32 := by simp; omega
  rw [toNat_and_mask hring, BitVec.toNat_add, Nat.mod_eq_of_lt hsmall]
  simp

/-- The masked `(C + a - b) & (C - 1)` of two slot indices is the ring distance from `b` to `a`. -/
theorem toNat_and_mask_diff (hring : RingBound count.toNat) {a b : NvU32}
    (ha : a.toNat < count.toNat) (hb : b.toNat < count.toNat) :
    ((count + a - b) &&& (count - 1)).toNat =
      (count.toNat + a.toNat - b.toNat) % count.toNat := by
  have hdouble := hring.double_le
  obtain ⟨m, hm⟩ := hring.dvd
  have hsmall : count.toNat + a.toNat < 2 ^ 32 := by omega
  rw [toNat_and_mask hring, BitVec.toNat_sub, BitVec.toNat_add, Nat.mod_eq_of_lt hsmall, hm,
      Nat.mod_mod_of_dvd _ ⟨m, rfl⟩,
    show count.toNat * m - b.toNat + (count.toNat + a.toNat) =
      (count.toNat + a.toNat - b.toNat) + count.toNat * m by
        have : count.toNat ≤ count.toNat * m := Nat.le_mul_of_pos_right _ (by
          rcases m with _ | m <;> simp_all)
        omega,
    Nat.add_mul_mod_self_left]

end Masks

/-! ## `enqueue_event` on a queue whose cursors are slot indices -/

/-- The bounds a consumer that follows the cursor protocol keeps: every cursor the
producer reads is a slot index. -/
structure CursorsInRange (queue : UvmToolsQueue Entry) : Prop where
  getAhead : queue.control.getAhead.toNat < queue.capacity
  getBehind : queue.control.getBehind.toNat < queue.capacity
  putBehind : queue.control.putBehind.toNat < queue.capacity

section Honest

variable {queue : UvmToolsQueue Entry} (hring : RingBound queue.capacity)

include hring in
/-- Fewer than `C` records are ever stored. -/
theorem stored_lt_capacity : queue.stored < queue.capacity :=
  Nat.mod_lt _ (by have := hring.two_le; omega)

include hring in
/-- The wakeup test on two slot indices compares the ring distance with the threshold. -/
theorem queueNeedsWakeup_iff {sn : UvmToolsQueueSnapshot}
    (hput : sn.putBehind.toNat < queue.capacity) (hget : sn.getAhead.toNat < queue.capacity) :
    queueNeedsWakeup queue sn = true ↔ queue.notificationThreshold.toNat ≤
      (queue.capacity + sn.putBehind.toNat - sn.getAhead.toNat) % queue.capacity := by
  simp only [queueNeedsWakeup, decide_eq_true_eq, ge_iff_le, BitVec.le_def,
    toNat_and_mask_diff hring hput hget]
  rfl

variable (hq : CursorsInRange queue)
include hring hq

/-- The masked `put_behind` of a queue whose cursors are in range is `put_behind`. -/
theorem toNat_masked_putBehind :
    (queue.control.putBehind &&& (queue.queueBufferCount - 1)).toNat =
      queue.control.putBehind.toNat := by
  rw [toNat_and_mask hring]; exact Nat.mod_eq_of_lt hq.putBehind

/-- The put cursor a storing call publishes is `(put_behind + 1) mod C`. -/
theorem toNat_published_putBehind :
    (((queue.control.putBehind &&& (queue.queueBufferCount - 1)) + 1) &&&
      (queue.queueBufferCount - 1)).toNat =
          (queue.control.putBehind.toNat + 1) % queue.capacity := by
  have hpb := toNat_masked_putBehind hring hq
  rw [toNat_and_mask_succ hring (hpb ▸ hq.putBehind), hpb]; rfl

/-- The full test fires exactly when `C - 1` records are stored. -/
theorem queueIsFull_iff : queueIsFull queue = true ↔ queue.stored = queue.capacity - 1 := by
  have hgb : (queue.control.getBehind &&& (queue.queueBufferCount - 1)).toNat =
      queue.control.getBehind.toNat := by
    rw [toNat_and_mask hring]; exact Nat.mod_eq_of_lt hq.getBehind
  have hpb := toNat_masked_putBehind hring hq
  have hdiff := toNat_and_mask_diff hring (hgb ▸ hq.getBehind) (hpb ▸ hq.putBehind)
  rw [hgb, hpb] at hdiff
  simp only [queueIsFull, beq_iff_eq, BitVec.toNat_eq, hdiff, BitVec.toNat_ofNat]
  exact ring_distance_comm_eq_one hring.two_le hq.getBehind hq.putBehind

end Honest

section Enqueue

variable [UvmEventEntry Entry] (entry : Entry) (queue : UvmToolsQueue Entry)

@[simp] theorem enqueueEvent_queueBufferCount :
    (enqueueEvent entry queue).1.queueBufferCount = queue.queueBufferCount := by
  dsimp only [enqueueEvent]; split <;> (try split) <;> rfl

@[simp] theorem enqueueEvent_notificationThreshold :
    (enqueueEvent entry queue).1.notificationThreshold = queue.notificationThreshold := by
  dsimp only [enqueueEvent]; split <;> (try split) <;> rfl

@[simp] theorem enqueueEvent_capacity :
    (enqueueEvent entry queue).1.capacity = queue.capacity := by
  simp [UvmToolsQueue.capacity]

/-- A full queue only counts the drop, and releases nothing. -/
theorem enqueueEvent_of_full (hfull : queueIsFull queue = true) :
    enqueueEvent entry queue =
      ({ queue with control := queue.control.incDropped (UvmEventEntry.eventType entry) },
        false) := by
  simp [enqueueEvent, hfull]

/-- Otherwise the record is copied into the masked slot `put_behind`. -/
theorem enqueueEvent_queue_of_not_full (hfull : queueIsFull queue = false) :
    (enqueueEvent entry queue).1.queue = Function.update queue.queue
      (queue.control.putBehind &&& (queue.queueBufferCount - 1)).toNat entry := by
  dsimp only [enqueueEvent]; rw [if_neg (by simp [hfull])]; split <;> rfl

/-- ... and both put cursors are published with the masked successor of `put_behind`. -/
theorem enqueueEvent_control_of_not_full (hfull : queueIsFull queue = false) :
    (enqueueEvent entry queue).1.control =
      let next := ((queue.control.putBehind &&& (queue.queueBufferCount - 1)) + 1) &&&
        (queue.queueBufferCount - 1)
      { queue.control with putAhead := next, putBehind := next } := by
  dsimp only [enqueueEvent]; rw [if_neg (by simp [hfull])]; split <;> rfl

/-- The wakeup bookkeeping after a call: a release records the `get_ahead` it was made
for; otherwise nothing changes. -/
theorem enqueueEvent_wakeup :
    (enqueueEvent entry queue).1.isWakeupGetValid =
        (queue.isWakeupGetValid || (enqueueEvent entry queue).2) ∧
      (enqueueEvent entry queue).1.wakeupGet =
        if (enqueueEvent entry queue).2 then queue.control.getAhead else queue.wakeupGet := by
  dsimp only [enqueueEvent]
  split
  · simp
  · split <;> simp_all

/-- The dedup test: a call releases only for a `get_ahead` value other than the recorded
one. -/
theorem enqueueEvent_released_new (hreleased : (enqueueEvent entry queue).2 = true) :
    ¬(queue.isWakeupGetValid = true ∧ queue.wakeupGet = queue.control.getAhead) := by
  intro hsame
  revert hreleased
  dsimp only [enqueueEvent]
  split
  · simp
  · split <;> simp_all

/-- No call moves `get_ahead`. -/
@[simp] theorem enqueueEvent_getAhead :
    (enqueueEvent entry queue).1.control.getAhead = queue.control.getAhead := by
  dsimp only [enqueueEvent]; split <;> (try split) <;> rfl

/-- A storing call releases the wait queue when the wakeup test on the published cursors
passes and no release was recorded for the current `get_ahead`. -/
theorem enqueueEvent_snd_of_not_full (hfull : queueIsFull queue = false) :
    (enqueueEvent entry queue).2 =
      (queueNeedsWakeup queue
          { getAhead := queue.control.getAhead,
            getBehind := queue.control.getBehind &&& (queue.queueBufferCount - 1),
            putAhead := ((queue.control.putBehind &&& (queue.queueBufferCount - 1)) + 1) &&&
              (queue.queueBufferCount - 1),
            putBehind := ((queue.control.putBehind &&& (queue.queueBufferCount - 1)) + 1) &&&
              (queue.queueBufferCount - 1) } &&
        !(queue.isWakeupGetValid && queue.wakeupGet == queue.control.getAhead)) := by
  dsimp only [enqueueEvent]
  rw [if_neg (by simp [hfull])]
  split
  · rename_i hwake; exact hwake.symm
  · rename_i hwake; exact (eq_false_of_ne_true hwake).symm

variable {entry queue} (hring : RingBound queue.capacity) (hq : CursorsInRange queue)
include hring hq

/-- A storing call adds one record between `get_behind` and `put_behind`. -/
theorem stored_enqueueEvent (hfull : queueIsFull queue = false) :
    (enqueueEvent entry queue).1.stored = queue.stored + 1 := by
  have hroom : queue.stored + 1 < queue.capacity := by
    have := stored_lt_capacity hring
    have := mt (queueIsFull_iff hring hq).2 (by simp [hfull])
    omega
  simp only [UvmToolsQueue.stored, enqueueEvent_capacity,
    enqueueEvent_control_of_not_full _ _ hfull, toNat_published_putBehind hring hq]
  exact ring_distance_succ hq.getBehind hq.putBehind hroom

/-- A storing call overwrites no slot between `get_behind` and `put_behind`. -/
theorem slot_enqueueEvent (hfull : queueIsFull queue = false) {j : Nat}
    (hj : j < queue.stored) : (enqueueEvent entry queue).1.slot j = queue.slot j := by
  simp only [UvmToolsQueue.slot, enqueueEvent_queue_of_not_full _ _ hfull,
    enqueueEvent_control_of_not_full _ _ hfull, enqueueEvent_capacity]
  rw [toNat_masked_putBehind hring hq,
    Function.update_noteq (add_ne_of_lt_ring_distance hq.getBehind hq.putBehind hj)]

/-- A storing call appends its record to the window. -/
theorem window_enqueueEvent (hfull : queueIsFull queue = false) :
    (enqueueEvent entry queue).1.window = queue.window ++ [entry] := by
  rw [UvmToolsQueue.window, stored_enqueueEvent hring hq hfull, List.range_succ, List.map_append,
    UvmToolsQueue.window]
  congr 1
  · exact List.map_congr_left fun j hj =>
      slot_enqueueEvent hring hq hfull (List.mem_range.mp hj)
  · simp only [List.map_cons, List.map_nil, UvmToolsQueue.slot,
      enqueueEvent_queue_of_not_full _ _ hfull, enqueueEvent_control_of_not_full _ _ hfull,
      enqueueEvent_capacity]
    rw [toNat_masked_putBehind hring hq, UvmToolsQueue.stored,
      add_ring_distance hq.getBehind hq.putBehind, Function.update_same]

/-- Every call keeps the cursors in range. -/
theorem cursorsInRange_enqueueEvent : CursorsInRange (enqueueEvent entry queue).1 := by
  cases hfull : queueIsFull queue
  · have hnext := toNat_published_putBehind hring hq
    have := hring.two_le
    refine ⟨?_, ?_, ?_⟩ <;>
      simp only [enqueueEvent_control_of_not_full _ _ hfull, enqueueEvent_capacity, hnext]
    · exact hq.getAhead
    · exact hq.getBehind
    · exact Nat.mod_lt _ (by omega)
  · rw [enqueueEvent_of_full _ _ hfull]
    exact ⟨hq.getAhead, hq.getBehind, hq.putBehind⟩

/-- A call releases the wait queue exactly when it stores its record, leaves at least
`notification_threshold` records past `get_ahead`, and no release was recorded for this
value of `get_ahead`. -/
theorem enqueueEvent_released_iff :
    (enqueueEvent entry queue).2 = true ↔
      queueIsFull queue = false ∧
        queue.notificationThreshold.toNat ≤ (enqueueEvent entry queue).1.unread ∧
        ¬(queue.isWakeupGetValid = true ∧ queue.wakeupGet = queue.control.getAhead) := by
  cases hfull : queueIsFull queue
  · have hnext := toNat_published_putBehind hring hq
    have hlt := hnext ▸ Nat.mod_lt (queue.control.putBehind.toNat + 1)
      (show queue.capacity > 0 by have := hring.two_le; omega)
    have hunread : (enqueueEvent entry queue).1.unread = (queue.capacity +
        (queue.control.putBehind.toNat + 1) % queue.capacity - queue.control.getAhead.toNat) %
          queue.capacity := by
      simp only [UvmToolsQueue.unread, enqueueEvent_capacity,
        enqueueEvent_control_of_not_full _ _ hfull, hnext]
    rw [enqueueEvent_snd_of_not_full _ _ hfull, Bool.and_eq_true,
      queueNeedsWakeup_iff hring hlt hq.getAhead, hunread, hnext]
    cases queue.isWakeupGetValid <;> simp
  · simp [enqueueEvent_of_full _ _ hfull]

end Enqueue

/-! ## `enqueue_event` whatever the consumer wrote -/

@[simp] theorem UvmToolsEventControlData.incDropped_putAhead (ctrl : UvmToolsEventControlData)
    (eventType : Nat) : (ctrl.incDropped eventType).putAhead = ctrl.putAhead := rfl

/-- What calls of `enqueue_event` with records of type `eventType` may change in a queue,
whatever values the consumer wrote into its cursors: ring slots below the capacity,
`dropped[eventType]`, and the put cursors, which a call that stores publishes equal and below
the capacity. The ring's size and threshold, the other drop counters and the get cursors stay
as they were. -/
structure EnqueueFrame (eventType : Nat) (queue queue' : UvmToolsQueue Entry) : Prop where
  queueBufferCount : queue'.queueBufferCount = queue.queueBufferCount
  notificationThreshold : queue'.notificationThreshold = queue.notificationThreshold
  slots : ∀ slot, queue.capacity ≤ slot → queue'.queue slot = queue.queue slot
  dropped : ∀ e, e ≠ eventType → queue'.control.dropped e = queue.control.dropped e
  getAhead : queue'.control.getAhead = queue.control.getAhead
  getBehind : queue'.control.getBehind = queue.control.getBehind
  put : queue'.control.putAhead = queue.control.putAhead ∧
      queue'.control.putBehind = queue.control.putBehind ∨
    queue'.control.putAhead = queue'.control.putBehind ∧
      queue'.control.putBehind.toNat < queue.capacity

namespace EnqueueFrame

variable {eventType : Nat} {queue queue' queue'' : UvmToolsQueue Entry}

theorem refl (eventType : Nat) (queue : UvmToolsQueue Entry) : EnqueueFrame eventType queue queue :=
  ⟨rfl, rfl, fun _ _ => rfl, fun _ _ => rfl, rfl, rfl, .inl ⟨rfl, rfl⟩⟩

theorem capacity_eq (h : EnqueueFrame eventType queue queue') :
    queue'.capacity = queue.capacity := by
  rw [UvmToolsQueue.capacity, h.queueBufferCount]; rfl

theorem trans (h : EnqueueFrame eventType queue queue')
    (h' : EnqueueFrame eventType queue' queue'') : EnqueueFrame eventType queue queue'' where
  queueBufferCount := h'.queueBufferCount.trans h.queueBufferCount
  notificationThreshold := h'.notificationThreshold.trans h.notificationThreshold
  slots slot hslot := (h'.slots slot (h.capacity_eq ▸ hslot)).trans (h.slots slot hslot)
  dropped e he := (h'.dropped e he).trans (h.dropped e he)
  getAhead := h'.getAhead.trans h.getAhead
  getBehind := h'.getBehind.trans h.getBehind
  put := by
    rcases h'.put with ⟨hahead, hbehind⟩ | hpublished
    · rw [hahead, hbehind]
      exact h.put
    · exact .inr (h.capacity_eq ▸ hpublished)

end EnqueueFrame

end UvmTools
