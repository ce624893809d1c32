import UvmTools.Queue.Consumer

/-!
# The bytes producers enqueue

Every entry point of this file that reports an event builds its `UvmEventEntry` on the
stack, stores the event's fields, and hands it to `uvm_tools_record_event` or
`uvm_tools_broadcast_event`, whose `enqueue_event` copies all `sizeof(UvmEventEntry)`
bytes into a ring slot that the consumer reads. All of them clear the entry with `memset`
first, except `uvm_tools_test_hmm_split_invalidate`, which stores only the discriminant: the
rest of its slot is whatever its stack held.
-/

namespace UvmTools

/-- The `sizeof(UvmEventEntry)` bytes of an entry. The first is the discriminant
`eventType` that every variant starts with. -/
structure EntryBytes where
  bytes : List UInt8
  deriving DecidableEq, Repr, Inhabited

instance : UvmEventEntry EntryBytes := ⟨fun entry => (entry.bytes.headD 0).toNat⟩

/-- A store of `field` at byte `offset` of `entry`. -/
def storeBytes : List UInt8 → Nat → List UInt8 → List UInt8
  | entry, _, [] => entry
  | entry, offset, byte :: field => storeBytes (entry.set offset byte) (offset + 1) field

/-- The entry points that build a `UvmEventEntry` on their stack. -/
inductive UvmToolsProducer where
  | recordGpuFaultInstance
  | uvmToolsRecordFault
  | recordMigrationEvents
  | recordReplayEventHelper
  | uvmToolsBroadcastAccessCounter
  | uvmToolsTestHmmSplitInvalidate
  | uvmToolsRecordReadDuplicate
  | uvmToolsRecordReadDuplicateInvalidate
  | uvmToolsRecordCpuFatalFault
  | uvmToolsRecordGpuFatalFault
  | uvmToolsRecordThrashing
  | uvmToolsRecordThrottlingStart
  | uvmToolsRecordThrottlingEnd
  | recordMapRemoteEvents
  | uvmToolsRecordMapRemote
  deriving DecidableEq, Repr

namespace UvmToolsProducer

/-- Whether the producer calls `memset(&entry, 0, sizeof(entry))` before its first store. -/
def memsetsEntry : UvmToolsProducer → Bool
  | .uvmToolsTestHmmSplitInvalidate => false
  | _ => true

/-- The entry a producer hands on: the bytes its stack slot held, cleared first if it calls
`memset`, then its field stores, each an offset and the bytes the event's arguments give. -/
def entry (producer : UvmToolsProducer) (stack : List UInt8) (stores : List (Nat × List UInt8)) :
    EntryBytes :=
  ⟨stores.foldl (fun entry store => storeBytes entry store.1 store.2)
    (if producer.memsetsEntry then List.replicate stack.length 0 else stack)⟩

/-- Every producer but the HMM split-invalidate test clears its entry, so the bytes it hands
on depend only on the event's stores, not on what the stack held. -/
theorem entry_eq_of_memsets {producer : UvmToolsProducer}
    (hproducer : producer ≠ .uvmToolsTestHmmSplitInvalidate) {stack stack' : List UInt8}
    (hlength : stack.length = stack'.length) (stores : List (Nat × List UInt8)) :
    producer.entry stack stores = producer.entry stack' stores := by
  have hmemsets : producer.memsetsEntry = true := by
    cases producer <;> first | rfl | exact absurd rfl hproducer
  simp only [entry, hmemsets, if_true, hlength]

end UvmToolsProducer

/-- `uvm_tools_record_event`: `enqueue_event` of the entry on each queue of the collector's
list for its event type, in list order. -/
def uvmToolsRecordEvent (entry : EntryBytes) (queues : List (UvmToolsQueue EntryBytes)) :
    List (UvmToolsQueue EntryBytes) :=
  queues.map fun queue => (enqueueEvent entry queue).1

/-- `uvm_tools_test_hmm_split_invalidate` on a collector whose `tools.enabled` is `enabled`
and whose queues for `UvmEventTypeTestHmmSplitInvalidate` (the discriminant
`testHmmSplitInvalidate`) are `queues`. -/
def uvmToolsTestHmmSplitInvalidate (enabled : Bool) (testHmmSplitInvalidate : UInt8)
    (stack : List UInt8) (queues : List (UvmToolsQueue EntryBytes)) :
    List (UvmToolsQueue EntryBytes) :=
  if !enabled then queues
  else
    uvmToolsRecordEvent
      (UvmToolsProducer.uvmToolsTestHmmSplitInvalidate.entry stack [(0, [testHmmSplitInvalidate])])
      queues

/-- The HMM split-invalidate entry is the stack's bytes with the discriminant in front. -/
theorem hmmSplitInvalidate_entry (stack : List UInt8) (testHmmSplitInvalidate : UInt8) :
    (UvmToolsProducer.uvmToolsTestHmmSplitInvalidate.entry stack
        [(0, [testHmmSplitInvalidate])]).bytes = stack.set 0 testHmmSplitInvalidate := rfl

/-- A fresh four-slot queue holds exactly the one record enqueued into it. -/
theorem window_enqueueEvent_freshQueue (entry : EntryBytes) :
    (enqueueEvent entry (freshQueue 4 1)).1.window = [entry] := by
  have hring : RingBound (freshQueue 4 1 : UvmToolsQueue EntryBytes).capacity :=
    ringBound_of_pow (by decide : 1 ≤ 2) (show (4 : NvU32).toNat = 2 ^ 2 from rfl)
  have hq : CursorsInRange (freshQueue 4 1 : UvmToolsQueue EntryBytes) :=
    ⟨by decide, by decide, by decide⟩
  rw [window_enqueueEvent hring hq (by decide)]
  rfl

/-- Two runs of `uvm_tools_test_hmm_split_invalidate` that differ only in what the stack held
(all zero bytes, or all `0xff`) store different records in a subscribed queue, for any
`sizeof(UvmEventEntry)` of two bytes or more. -/
theorem hmmSplitInvalidate_enqueues_stack_bytes (n : Nat) (testHmmSplitInvalidate : UInt8) :
    (uvmToolsTestHmmSplitInvalidate true testHmmSplitInvalidate (List.replicate (n + 2) 0)
        [freshQueue 4 1]).map UvmToolsQueue.window ≠
      (uvmToolsTestHmmSplitInvalidate true testHmmSplitInvalidate (List.replicate (n + 2) 255)
        [freshQueue 4 1]).map UvmToolsQueue.window := by
  simp only [uvmToolsTestHmmSplitInvalidate, uvmToolsRecordEvent, Bool.not_true,
    Bool.false_eq_true, if_false, List.map_cons, List.map_nil, window_enqueueEvent_freshQueue,
    ne_eq, List.cons.injEq, and_true]
  intro hsame
  have hbyte := congrArg (fun entry : EntryBytes => entry.bytes[1]?) hsame
  simp only [hmmSplitInvalidate_entry, List.getElem?_set_ne (by decide : 0 ≠ 1),
    List.getElem?_replicate] at hbyte
  simp at hbyte

end UvmTools
