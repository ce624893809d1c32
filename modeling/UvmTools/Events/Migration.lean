import UvmTools.Deferred.Submit
import UvmTools.Tracker.Counters

/-!
# Migration counters

`uvm_tools_record_migration` is the other perf callback of this file. Its event part appends
a detail to the migration record the push holds (`uvmToolsRecordMigration`); then it adds the
migration's bytes to `UvmCounterNameBytesXferHtD` for a migration from the CPU, on behalf of
the destination GPU, and to `UvmCounterNameBytesXferDtH` for a migration to the CPU, on behalf
of the source GPU.

The two parts are not independent. When the detail cannot be allocated, the event part leaves
with `goto done_unlock`, and the jump lands past the counter increments: a migration whose
event record is lost is missing from the byte counters too, although the counters need no
allocation (`Registry.Consistent.uvmToolsRecordMigration_eq`).
-/

namespace UvmTools

open ToolsVaSpace

/-- The call as it reads the collector: `tools.enabled`, `tools_is_migration_callback_needed`
and `tools_is_event_enabled(va_space, UvmEventTypeMigration)`. -/
def RecordMigration.withCollector (call : RecordMigration) (ids : ToolsIds)
    (vaSpace : ToolsVaSpace) : RecordMigration :=
  { call with
    toolsEnabled := vaSpace.enabled
    callbackNeeded := toolsIsMigrationCallbackNeeded ids vaSpace
    migrationEnabled := vaSpace.toolsIsEventEnabled ids.migration }

/-- `UVM_ID_IS_CPU`. -/
@[simp] theorem UvmProcessorId.not_isGpu_iff (id : UvmProcessorId) : (!id.isGpu) = true ↔ id = .cpu := by
  cases id <;> simp [UvmProcessorId.isGpu]

namespace Registry

/-- The counter increments of `uvm_tools_record_migration` on collector `v`. `uuidOf id` is
`uvm_gpu_uuid(uvm_va_space_get_gpu(va_space, id))`, which this file does not define. -/
def recordMigrationCounters (ids : ToolsIds) (cpuDefault : NvProcessorUuid) (state : Registry)
    (v : Nat) (trackerCounters : Nat → UvmToolsCounter) (bytes : NvU64)
    (src dst : UvmProcessorId) (uuidOf : UvmProcessorId → NvProcessorUuid)
    (values : Nat → Nat → NvU64) : Except Fault (Nat → Nat → NvU64) :=
  (if !src.isGpu && (state.vaSpaces v).toolsIsCounterEnabled ids.bytesXferHtD then
      state.uvmToolsIncCounter ids cpuDefault v trackerCounters ids.bytesXferHtD bytes
        (uuidOf dst) values
    else .ok values) >>= fun values =>
  if !dst.isGpu && (state.vaSpaces v).toolsIsCounterEnabled ids.bytesXferDtH then
    state.uvmToolsIncCounter ids cpuDefault v trackerCounters ids.bytesXferDtH bytes
      (uuidOf src) values
  else .ok values

/-- `uvm_tools_record_migration` on collector `v`, for a migration of `call.bytes` from `src`
to `dst`: the event part on the call as it reads the collector, then the counters. A failed
detail allocation on a push with a callback jumps to `done_unlock`, past the counters. -/
def uvmToolsRecordMigration (ids : ToolsIds) (cpuDefault : NvProcessorUuid) (state : Registry)
    (v : Nat) (trackerCounters : Nat → UvmToolsCounter) (call : RecordMigration)
    (src dst : UvmProcessorId) (uuidOf : UvmProcessorId → NvProcessorUuid)
    (channels : ToolsChannels) (push : UvmPush) (values : Nat → Nat → NvU64) :
    Except Fault (ToolsChannels × UvmPush × (Nat → Nat → NvU64)) := do
  let call := call.withCollector ids (state.vaSpaces v)
  let (channels, push') ← UvmTools.uvmToolsRecordMigration call channels push
  if call.migrationEnabled && push.onComplete.isSome && !call.allocated then
    .ok (channels, push', values)
  else
    let values ← state.recordMigrationCounters ids cpuDefault v trackerCounters call.bytes src dst
      uuidOf values
    .ok (channels, push', values)

variable {ids : ToolsIds} {state : Registry}

/-- Whether tracker `t` is a counter tracker of collector `v` subscribed to counter `c`. -/
abbrev SubscribedCounter (ids : ToolsIds) (state : Registry) (v c t : Nat) : Prop :=
  ∃ tracker, state.trackers t = some tracker ∧ tracker.vaSpace = v ∧
    tracker.Subscribes ids false c

/-- Over a consistent registry, an `uvm_tools_inc_counter` guarded by `guard` and
`tools_is_counter_enabled` adds the amount once to the counter of each of the collector's
trackers subscribed to it whose test passes, when the guard holds, and changes nothing else. -/
theorem Consistent.incCounterIfEnabled_eq (hc : state.Consistent ids)
    (cpuDefault : NvProcessorUuid) (v : Nat) (trackerCounters : Nat → UvmToolsCounter)
    (guard : Bool) (counter : Nat) (amount : NvU64) (processor : NvProcessorUuid)
    (values : Nat → Nat → NvU64) :
    (if guard && (state.vaSpaces v).toolsIsCounterEnabled counter then
        state.uvmToolsIncCounter ids cpuDefault v trackerCounters counter amount processor values
      else .ok values) =
      .ok fun t c => values t c + if guard = true ∧ c = counter ∧
          SubscribedCounter ids state v counter t ∧
          (trackerCounters t).counts ids cpuDefault counter processor = true
        then amount else 0 := by
  by_cases hcall : guard = true ∧ (state.vaSpaces v).toolsIsCounterEnabled counter = true
  · rw [if_pos (by simp [hcall.1, hcall.2]),
      hc.uvmToolsIncCounter_eq cpuDefault v trackerCounters (hc.lt_totalCounters hcall.2)]
    congr 1
    funext t c
    by_cases hadd : c = counter ∧ SubscribedCounter ids state v counter t ∧
        (trackerCounters t).counts ids cpuDefault counter processor = true
    · rw [if_pos hadd, if_pos ⟨hcall.1, hadd⟩]
    · rw [if_neg hadd, if_neg fun h => hadd h.2]
      exact (BitVec.add_zero _).symm
  · rw [if_neg (by simpa using hcall)]
    congr 1
    funext t c
    have hskip : ¬(guard = true ∧ c = counter ∧ SubscribedCounter ids state v counter t ∧
        (trackerCounters t).counts ids cpuDefault counter processor = true) := by
      rintro ⟨hguard, -, hsub, -⟩
      have hmem : t ∈ (state.vaSpaces v).counters counter := (hc.mem_lists v false counter t).mpr hsub
      exact hcall ⟨hguard, by simpa [toolsIsCounterEnabled] using List.ne_nil_of_mem hmem⟩
    rw [if_neg hskip]
    exact (BitVec.add_zero _).symm

/-- Over a consistent registry, the counter half of `uvm_tools_record_migration` adds the
migration's bytes to the `BytesXferHtD` of each tracker of the collector subscribed to it whose
test passes for the destination, if the source is the CPU, and to the `BytesXferDtH` of each
one subscribed to it whose test passes for the source, if the destination is the CPU. -/
theorem Consistent.recordMigrationCounters_eq (hc : state.Consistent ids)
    (cpuDefault : NvProcessorUuid) (v : Nat) (trackerCounters : Nat → UvmToolsCounter)
    (bytes : NvU64) (src dst : UvmProcessorId) (uuidOf : UvmProcessorId → NvProcessorUuid)
    (values : Nat → Nat → NvU64) :
    state.recordMigrationCounters ids cpuDefault v trackerCounters bytes src dst uuidOf values =
      .ok fun t c => values t c +
        (if src = .cpu ∧ c = ids.bytesXferHtD ∧ SubscribedCounter ids state v ids.bytesXferHtD t ∧
            (trackerCounters t).counts ids cpuDefault ids.bytesXferHtD (uuidOf dst) = true
          then bytes else 0) +
        (if dst = .cpu ∧ c = ids.bytesXferDtH ∧ SubscribedCounter ids state v ids.bytesXferDtH t ∧
            (trackerCounters t).counts ids cpuDefault ids.bytesXferDtH (uuidOf src) = true
          then bytes else 0) := by
  rw [recordMigrationCounters, hc.incCounterIfEnabled_eq]
  dsimp only [bind, Except.bind]
  rw [hc.incCounterIfEnabled_eq]
  simp only [UvmProcessorId.not_isGpu_iff]

/-- Over a consistent registry, `uvm_tools_record_migration` is its event part followed by
the byte counts of its counter half, except when the Migration event is enabled, the push has
a callback and the detail cannot be allocated: the counters then change nothing, whatever the
migration moved. -/
theorem Consistent.uvmToolsRecordMigration_eq (hc : state.Consistent ids)
    (cpuDefault : NvProcessorUuid) (v : Nat) (trackerCounters : Nat → UvmToolsCounter)
    (call : RecordMigration) (src dst : UvmProcessorId)
    (uuidOf : UvmProcessorId → NvProcessorUuid) (channels : ToolsChannels) (push : UvmPush)
    (values : Nat → Nat → NvU64) :
    state.uvmToolsRecordMigration ids cpuDefault v trackerCounters call src dst uuidOf channels
        push values =
      (UvmTools.uvmToolsRecordMigration (call.withCollector ids (state.vaSpaces v)) channels
        push).map fun (channels', push') => (channels', push',
          if (state.vaSpaces v).toolsIsEventEnabled ids.migration = true ∧
              push.onComplete.isSome = true ∧ call.allocated = false then values
          else fun t c => values t c +
            (if src = .cpu ∧ c = ids.bytesXferHtD ∧
                SubscribedCounter ids state v ids.bytesXferHtD t ∧
                (trackerCounters t).counts ids cpuDefault ids.bytesXferHtD (uuidOf dst) = true
              then call.bytes else 0) +
            (if dst = .cpu ∧ c = ids.bytesXferDtH ∧
                SubscribedCounter ids state v ids.bytesXferDtH t ∧
                (trackerCounters t).counts ids cpuDefault ids.bytesXferDtH (uuidOf src) = true
              then call.bytes else 0)) := by
  unfold uvmToolsRecordMigration
  dsimp only
  rcases UvmTools.uvmToolsRecordMigration (call.withCollector ids (state.vaSpaces v)) channels
    push with fault | ⟨channels', push'⟩
  · rfl
  · dsimp only [bind, Except.bind, Except.map, RecordMigration.withCollector]
    by_cases hskip : (state.vaSpaces v).toolsIsEventEnabled ids.migration = true ∧
        push.onComplete.isSome = true ∧ call.allocated = false
    · rw [if_pos (by simp [hskip.1, hskip.2.1, hskip.2.2]), if_pos hskip]
    · rw [if_neg (by simpa [and_assoc] using hskip), if_neg hskip,
        hc.recordMigrationCounters_eq]

end Registry

/-- A queue tracker of collector 0 attached to `UvmEventTypeMigration`, then a counter
tracker of collector 0 attached to `UvmCounterNameBytesXferHtD`, every registration
succeeding. -/
def migrationCountedEvents : List RegistryEvent :=
  [.created 0 true, .attached 0 (BitVec.twoPow 64 sampleIds.migration) .ok .ok .ok,
    .created 0 false, .attached 1 (BitVec.twoPow 64 sampleIds.bytesXferHtD) .ok .ok .ok]

/-- The registry after the first two of `migrationCountedEvents`. -/
def migrationSubscribed : Registry :=
  let created := initialRegistry.create 0 true
  let inserted := created.insertion sampleIds 0 ⟨0, true, 0⟩
    (BitVec.twoPow 64 sampleIds.migration)
  created.resubscribed sampleIds 0 0 (some ⟨0, true, inserted.subscribed⟩) true inserted.lists
    inserted.counts

/-- The registry after `migrationCountedEvents`. -/
def migrationCounted : Registry :=
  let created := migrationSubscribed.create 0 false
  let inserted := created.insertion sampleIds 1 ⟨0, false, 0⟩
    (BitVec.twoPow 64 sampleIds.bytesXferHtD)
  created.resubscribed sampleIds 0 1 (some ⟨0, false, inserted.subscribed⟩) false inserted.lists
    inserted.counts

theorem migrationSubscribed_run :
    Steps (RegistryStep sampleIds) initialRegistry (migrationCountedEvents.take 2)
      migrationSubscribed :=
  (Steps.single (RegistryStep.create initialRegistry 0 true (by decide))).step
    (RegistryStep.attach rfl (Registry.attach_of_callbacks_ok
      (toolsUpdatePerfEventsCallbacks_eq_ok (fun _ => .inr rfl) (fun _ => .inr rfl))))

theorem migrationCounted_run :
    Steps (RegistryStep sampleIds) initialRegistry migrationCountedEvents migrationCounted :=
  (migrationSubscribed_run.step (RegistryStep.create migrationSubscribed 0 false (by decide))).step
    (RegistryStep.attach (rfl : (migrationSubscribed.create 0 false).trackers 1 = some ⟨0, false, 0⟩)
      (Registry.attach_of_callbacks_ok
        (toolsUpdatePerfEventsCallbacks_eq_ok (fun _ => .inr rfl) (fun _ => .inr rfl))))

/-- A page migrated from the CPU to GPU 1 whose detail cannot be allocated. -/
def lostMigration : RecordMigration :=
  ⟨0x1000, 4096, .prefetch, true, true, true, false, 0⟩

/-- A push on channel 0 holding the record `uvm_tools_record_block_migration_begin` attached. -/
def migrationPush : UvmPush :=
  ⟨0, some .onBlockMigrationComplete,
    some (.blockMigration ⟨.gpu 1, .cpu, 0, 0, [], 0, 0, 0, 0, 0⟩), false⟩

/-- The counter tracker of `migrationCounted` counts all processors and subscribes to
`BytesXferHtD`, and the Migration event is enabled; a page migrated from the CPU whose detail
cannot be allocated leaves its `BytesXferHtD` at 0. -/
theorem lost_migration_detail_uncounted :
    ∃ channels' push' values', migrationCounted.uvmToolsRecordMigration sampleIds 0 0
        (fun _ => ⟨true, 0⟩) lostMigration .cpu (.gpu 1) (fun _ => 0) ⟨fun _ => 1, [0]⟩
        migrationPush (fun _ _ => 0) = .ok (channels', push', values') ∧
      values' 1 sampleIds.bytesXferHtD = 0 :=
  ⟨_, _, _, (Registry.Consistent.uvmToolsRecordMigration_eq
    (reachable_consistent migrationCounted_run) _ _ _ _ _ _ _ _ _ _).trans rfl, by decide⟩

end UvmTools
