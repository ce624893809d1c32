import UvmTools.Events.Fault
import UvmTools.Deferred.Dispatch
import UvmTools.Tracker.UserPages

/-!
# Events reported at once

Besides faults and migrations, the file reports events in two shapes.

Five producers record one entry on one collector as soon as the event happens:
`uvm_tools_record_cpu_fatal_fault`, `uvm_tools_record_gpu_fatal_fault`,
`uvm_tools_record_thrashing`, `uvm_tools_record_throttling_start` and
`uvm_tools_record_throttling_end`. They share one body (`Registry.recordReport`): their
argument assertions, then nothing while `tools.enabled` is clear, and `uvm_tools_record_event`
of a cleared entry with their fields while the collector has their event type enabled. The CPU
branch of `uvm_tools_record_map_remote` records at once in the same way, where a GPU mapping
goes through a push record and the worker.

Two producers broadcast to every collector, each with its own order of test and assertion:
`uvm_tools_broadcast_replay_sync` asserts before its test, `uvm_tools_broadcast_access_counter`
after it.

Over a consistent registry:

- a single-collector report fails exactly on its own argument assertions. The thrashing and
  throttling reports make them before they look at the collector, so a bad argument fails
  even where nobody listens. Otherwise the report enqueues its entry once on each queue
  tracker of the collector subscribed to its type and changes no other queue
  (`Registry.Consistent.reportCall_run_eq`);
- the access-counter broadcast fails on a physical address with no valid resident processor
  only while some collector has a tracker, of either kind, on the list of its event type
  (`Registry.Consistent.uvmToolsBroadcastAccessCounter_eq`);
- a CPU remote mapping records at once the event that the worker reports for a GPU one once
  its push completes, with no GPU time where the push wrote one
  (`Registry.Consistent.uvmToolsRecordMapRemote_cpu`,
  `Registry.Consistent.uvmToolsRecordMapRemote_gpu`).
-/

namespace UvmTools

open ToolsVaSpace

/-! ## The event types and the entries -/

/-- The event types of `uvm_types.h` the reports of this module carry, each below
`UvmEventNumTypesAll`; the header is not part of the file. -/
structure ReportIds (ids : ToolsIds) where
  /-- `UvmEventTypeFatalFault`. -/
  fatalFault : Fin ids.eventNumTypesAll
  /-- `UvmEventTypeThrashingDetected`. -/
  thrashingDetected : Fin ids.eventNumTypesAll
  /-- `UvmEventTypeThrottlingStart`. -/
  throttlingStart : Fin ids.eventNumTypesAll
  /-- `UvmEventTypeThrottlingEnd`. -/
  throttlingEnd : Fin ids.eventNumTypesAll
  /-- `UvmEventTypeMapRemote`. -/
  mapRemote : Fin ids.eventNumTypesAll
  /-- `UvmEventTypeGpuFaultReplay`. -/
  gpuFaultReplay : Fin ids.eventNumTypesAll
  /-- `UvmEventTypeTestAccessCounter`. -/
  testAccessCounter : Fin ids.eventNumTypesAll

/-- `uvm_aperture_t`, the apertures `g_hal_to_tools_aperture_table` maps: the eight peers,
system memory and video memory. -/
inductive UvmAperture where
  | peer (index : Fin 8)
  | sys
  | vid
  deriving DecidableEq, Repr

/-- `UvmEventApertureType`. -/
inductive UvmEventApertureType where
  | peer (index : Fin 8)
  | sys
  | vid
  deriving DecidableEq, Repr

/-- `g_hal_to_tools_aperture_table`: `UVM_APERTURE_PEER_i` to `UvmEventAperturePeeri`, and
system and video memory to their own. -/
def gHalToToolsApertureTable : UvmAperture → UvmEventApertureType
  | .peer index => .peer index
  | .sys => .sys
  | .vid => .vid

/-- `uvm_access_counter_type_t`. -/
inductive UvmAccessCounterType where
  | mimc
  | momc
  deriving DecidableEq, Repr

/-- The fields of a `uvm_access_counter_buffer_entry_t` that
`uvm_tools_broadcast_access_counter` reads. -/
structure UvmAccessCounterBufferEntry where
  /-- `address.address`. -/
  address : NvU64
  /-- `address.is_virtual`. -/
  isVirtual : Bool
  /-- `address.aperture`. -/
  aperture : UvmAperture
  /-- `virtual_info.instance_ptr.address`. -/
  instancePtr : NvU64
  /-- `virtual_info.instance_ptr.aperture`. -/
  instancePtrAperture : UvmAperture
  /-- `virtual_info.ve_id`. -/
  veId : Nat
  /-- `UVM_ID_IS_VALID(physical_info.resident_id)`. -/
  residentIdValid : Bool
  counterType : UvmAccessCounterType
  counterValue : Nat
  subGranularity : Nat
  bank : Nat
  tag : Nat
  deriving DecidableEq, Repr

/-- The fields of `UvmEventFatalFaultInfo` the fatal-fault reports store; `faultType` is
`none` where the `memset` left it cleared. -/
structure UvmEventFatalFaultInfo where
  processorIndex : Nat
  timeStamp : NvU64
  address : NvU64
  accessType : UvmEventMemoryAccessType
  faultType : Option UvmEventFaultType
  reason : Nat
  deriving DecidableEq, Repr, Inhabited

/-- The fields of `UvmEventThrashingDetectedInfo`; `processors` is the word of the processor
mask that `bitmap_copy` copies. -/
structure UvmEventThrashingDetectedInfo where
  address : NvU64
  size : NvU64
  timeStamp : NvU64
  processors : NvU64
  deriving DecidableEq, Repr

/-- The fields of `UvmEventThrottlingStartInfo` and of `UvmEventThrottlingEndInfo`, which
are the same. -/
structure UvmEventThrottlingInfo where
  processorIndex : Nat
  address : NvU64
  timeStamp : NvU64
  deriving DecidableEq, Repr

/-- The fields of `UvmEventTestAccessCounterInfo`; an aperture is `none` where the `memset`
left it cleared. -/
structure UvmEventTestAccessCounterInfo where
  srcIndex : Nat
  address : NvU64
  isVirtual : Bool
  instancePtr : NvU64
  instancePtrAperture : Option UvmEventApertureType
  veId : Nat
  aperture : Option UvmEventApertureType
  isFromCpu : Bool
  onManaged : Bool
  value : Nat
  subGranularity : Nat
  bank : Nat
  tag : Nat
  deriving DecidableEq, Repr

/-- The member of `eventData` a report writes, or of `testEventData` for the access
counter. -/
inductive ReportData where
  | fatalFault (info : UvmEventFatalFaultInfo)
  | thrashing (info : UvmEventThrashingDetectedInfo)
  | throttlingStart (info : UvmEventThrottlingInfo)
  | throttlingEnd (info : UvmEventThrottlingInfo)
  | mapRemote (info : UvmEventMapRemoteInfo)
  | gpuFaultReplay (info : UvmEventGpuFaultReplayInfo)
  | accessCounter (info : UvmEventTestAccessCounterInfo)
  deriving DecidableEq, Repr, Inhabited

/-- A report's `UvmEventEntry`: the `eventType` every member starts with, and the rest of
the member. -/
structure ReportEntry where
  eventType : Nat
  data : ReportData
  deriving DecidableEq, Repr, Inhabited

instance : UvmEventEntry ReportEntry := ⟨ReportEntry.eventType⟩

/-- The entry of `uvm_tools_record_cpu_fatal_fault`: the CPU's index `UVM_ID_CPU_VALUE` (0),
the access type from `is_write`, and no fault type, which is not valid for CPU faults. -/
def cpuFatalFaultEntry (fatalFault : Nat) (address : NvU64) (isWrite : Bool) (reason : Nat)
    (now : NvU64) : ReportEntry :=
  ⟨fatalFault, .fatalFault
    { processorIndex := 0
      timeStamp := now
      address := address
      accessType := if isWrite then .write else .read
      faultType := none
      reason := reason }⟩

/-- The entry of `uvm_tools_record_gpu_fatal_fault`: the GPU, and the table images of the
fault buffer entry's types. -/
def gpuFatalFaultEntry (fatalFault gpuId : Nat) (bufferEntry : UvmFaultBufferEntry)
    (reason : Nat) (now : NvU64) : ReportEntry :=
  ⟨fatalFault, .fatalFault
    { processorIndex := gpuId
      timeStamp := now
      address := bufferEntry.faultAddress
      accessType := gHalToToolsFaultAccessTypeTable bufferEntry.faultAccessType
      faultType := some (gHalToToolsFaultTypeTable bufferEntry.faultType)
      reason := reason }⟩

/-- The entry of `uvm_tools_record_thrashing`. -/
def thrashingEntry (thrashingDetected : Nat) (address regionSize processors now : NvU64) :
    ReportEntry :=
  ⟨thrashingDetected, .thrashing
    { address := address, size := regionSize, timeStamp := now, processors := processors }⟩

/-- The entry of a throttling report, in the member `variant` of its event type. -/
def throttlingEntry (event : Nat) (variant : UvmEventThrottlingInfo → ReportData)
    (address : NvU64) (processor : Nat) (now : NvU64) : ReportEntry :=
  ⟨event, variant { processorIndex := processor, address := address, timeStamp := now }⟩

/-- The entry `record_replay_event_helper` broadcasts. -/
def recordReplayEventHelper (gpuId : Nat) (batchId : NvU32) (clientType : UvmFaultClientType)
    (timestamp timestampGpu : NvU64) : UvmEventGpuFaultReplayInfo :=
  { gpuIndex := gpuId
    batchId := batchId
    clientType := gHalToToolsFaultClientTypeTable clientType
    timeStamp := timestamp
    timeStampGpu := timestampGpu }

/-- The worker's `record_replay_events` broadcasts the helper's entry for its record. -/
theorem recordReplayEvents_eq_helper (replay : ReplayData) :
    recordReplayEvents replay = [.broadcastEvent (.gpuFaultReplay (recordReplayEventHelper
      replay.gpuId replay.batchId replay.clientType replay.timestamp replay.timestampGpu)),
      .freeReplayData] := rfl

/-- The entry of `uvm_tools_broadcast_access_counter`: after the `memset`, the instance
pointer, its aperture and the VEID of a virtual address, or the aperture of a physical one. -/
def accessCounterEntry (testAccessCounter gpuId : Nat) (bufferEntry : UvmAccessCounterBufferEntry)
    (onManaged : Bool) : ReportEntry :=
  ⟨testAccessCounter, .accessCounter
    { srcIndex := gpuId
      address := bufferEntry.address
      isVirtual := bufferEntry.isVirtual
      instancePtr := if bufferEntry.isVirtual then bufferEntry.instancePtr else 0
      instancePtrAperture := if bufferEntry.isVirtual then
        some (gHalToToolsApertureTable bufferEntry.instancePtrAperture) else none
      veId := if bufferEntry.isVirtual then bufferEntry.veId else 0
      aperture := if bufferEntry.isVirtual then none
        else some (gHalToToolsApertureTable bufferEntry.aperture)
      isFromCpu := bufferEntry.counterType == .momc
      onManaged := onManaged
      value := bufferEntry.counterValue
      subGranularity := bufferEntry.subGranularity
      bank := bufferEntry.bank
      tag := bufferEntry.tag }⟩

/-- The event the CPU branch of `uvm_tools_record_map_remote` records: the call's processors,
cause and range, `NV_GETTIME()`, and no GPU time. -/
def RecordMapRemote.cpuEvent (call : RecordMapRemote) : UvmEventMapRemoteInfo :=
  { srcIndex := call.processor
    dstIndex := call.residency
    mapRemoteCause := call.cause
    timeStamp := call.now
    address := call.address
    size := call.regionSize
    timeStampGpu := 0 }

/-- The call as it reads the collector: `tools.enabled` and
`tools_is_event_enabled(va_space, UvmEventTypeMapRemote)`. -/
def RecordMapRemote.withCollector (call : RecordMapRemote) (mapRemote : Nat)
    (vaSpace : ToolsVaSpace) : RecordMapRemote :=
  { call with
    toolsEnabled := vaSpace.enabled
    mapRemoteEnabled := vaSpace.toolsIsEventEnabled mapRemote }

@[simp] theorem RecordMapRemote.cpuEvent_withCollector (call : RecordMapRemote) (mapRemote : Nat)
    (vaSpace : ToolsVaSpace) : (call.withCollector mapRemote vaSpace).cpuEvent = call.cpuEvent :=
  rfl

/-! ## The producers -/

/-- `PAGE_ALIGNED(address)`. -/
def pageAligned (address : NvU64) : Bool :=
  address.toNat % pageSize == 0

/-- The argument assertions of `uvm_tools_record_thrashing`: the address is set and page
aligned, and the region is not empty. -/
def thrashingAsserts (address regionSize : NvU64) : Bool :=
  address != 0 && pageAligned address && regionSize != 0

/-- The argument assertions of the throttling reports: the address is set and page aligned,
and `UVM_ID_IS_VALID(processor)`. -/
def throttlingAsserts (address : NvU64) (processorValid : Bool) : Bool :=
  address != 0 && pageAligned address && processorValid

namespace Registry

/-- The body the single-collector reports share: their argument assertions, which come before
anything else, then the tests of `recordIfEventEnabled` for `event` in front of
`uvm_tools_record_event` of the entry. -/
def recordReport (ids : ToolsIds) (state : Registry) (asserts : Bool) (v event : Nat)
    (entry : ReportEntry) (queues : Nat → UvmToolsQueue ReportEntry) :
    Except Fault (Nat → UvmToolsQueue ReportEntry) :=
  if asserts then state.recordIfEventEnabled ids v event entry queues else .error .assertion

/-- `uvm_tools_record_cpu_fatal_fault`, which asserts nothing of its arguments. -/
def uvmToolsRecordCpuFatalFault (ids : ToolsIds) (rids : ReportIds ids) (state : Registry)
    (v : Nat) (address : NvU64) (isWrite : Bool) (reason : Nat) (now : NvU64) :
    (Nat → UvmToolsQueue ReportEntry) → Except Fault (Nat → UvmToolsQueue ReportEntry) :=
  state.recordReport ids true v rids.fatalFault
    (cpuFatalFaultEntry rids.fatalFault address isWrite reason now)

/-- `uvm_tools_record_gpu_fatal_fault`, which asserts nothing of its arguments. -/
def uvmToolsRecordGpuFatalFault (ids : ToolsIds) (rids : ReportIds ids) (state : Registry)
    (gpuId v : Nat) (bufferEntry : UvmFaultBufferEntry) (reason : Nat) (now : NvU64) :
    (Nat → UvmToolsQueue ReportEntry) → Except Fault (Nat → UvmToolsQueue ReportEntry) :=
  state.recordReport ids true v rids.fatalFault
    (gpuFatalFaultEntry rids.fatalFault gpuId bufferEntry reason now)

/-- `uvm_tools_record_thrashing`. -/
def uvmToolsRecordThrashing (ids : ToolsIds) (rids : ReportIds ids) (state : Registry)
    (v : Nat) (address regionSize processors now : NvU64) :
    (Nat → UvmToolsQueue ReportEntry) → Except Fault (Nat → UvmToolsQueue ReportEntry) :=
  state.recordReport ids (thrashingAsserts address regionSize) v rids.thrashingDetected
    (thrashingEntry rids.thrashingDetected address regionSize processors now)

/-- The two throttling reports, which differ only in their event type and its member. -/
def recordThrottling (ids : ToolsIds) (state : Registry) (event : Nat)
    (variant : UvmEventThrottlingInfo → ReportData) (v : Nat) (address : NvU64)
    (processor : Nat) (processorValid : Bool) (now : NvU64) :
    (Nat → UvmToolsQueue ReportEntry) → Except Fault (Nat → UvmToolsQueue ReportEntry) :=
  state.recordReport ids (throttlingAsserts address processorValid) v event
    (throttlingEntry event variant address processor now)

/-- `uvm_tools_record_throttling_start`. -/
def uvmToolsRecordThrottlingStart (ids : ToolsIds) (rids : ReportIds ids) (state : Registry) :
    Nat → NvU64 → Nat → Bool → NvU64 →
      (Nat → UvmToolsQueue ReportEntry) → Except Fault (Nat → UvmToolsQueue ReportEntry) :=
  state.recordThrottling ids rids.throttlingStart .throttlingStart

/-- `uvm_tools_record_throttling_end`. -/
def uvmToolsRecordThrottlingEnd (ids : ToolsIds) (rids : ReportIds ids) (state : Registry) :
    Nat → NvU64 → Nat → Bool → NvU64 →
      (Nat → UvmToolsQueue ReportEntry) → Except Fault (Nat → UvmToolsQueue ReportEntry) :=
  state.recordThrottling ids rids.throttlingEnd .throttlingEnd

/-- `uvm_tools_broadcast_replay_sync`: the assertion that the GPU has no clear-faulted-channel
method comes before the test, and the helper's entry carries the GPU time read at once. -/
def uvmToolsBroadcastReplaySync (ids : ToolsIds) (rids : ReportIds ids) (state : Registry)
    (hasClearFaultedChannelMethod : Bool) (gpuId : Nat) (batchId : NvU32)
    (clientType : UvmFaultClientType) (now gpuTime : NvU64)
    (queues : Nat → UvmToolsQueue ReportEntry) :
    Except Fault (Nat → UvmToolsQueue ReportEntry) :=
  if hasClearFaultedChannelMethod then .error .assertion
  else state.broadcastIfEventEnabled ids rids.gpuFaultReplay
    ⟨rids.gpuFaultReplay,
      .gpuFaultReplay (recordReplayEventHelper gpuId batchId clientType now gpuTime)⟩ queues

/-- `uvm_tools_broadcast_replay` on the registry: its test reads
`g_tools_enabled_event_count[UvmEventTypeGpuFaultReplay]`. -/
def uvmToolsBroadcastReplay (ids : ToolsIds) (rids : ReportIds ids) (state : Registry)
    (gpuId : Nat) (batchId : NvU32) (clientType : UvmFaultClientType) (allocated : Bool)
    (now timestampAddr : NvU64) (channels : ToolsChannels) (push : UvmPush) :
    Except Fault (ToolsChannels × UvmPush) :=
  UvmTools.uvmToolsBroadcastReplay
    ⟨gpuId, batchId, clientType, state.toolsIsEventEnabledInAnyVaSpace rids.gpuFaultReplay,
      allocated, now, timestampAddr⟩ channels push

/-- `uvm_tools_broadcast_access_counter`: the test comes first, and only then the assertion
that a physical address names a valid resident processor. -/
def uvmToolsBroadcastAccessCounter (ids : ToolsIds) (rids : ReportIds ids) (state : Registry)
    (gpuId : Nat) (bufferEntry : UvmAccessCounterBufferEntry) (onManaged : Bool)
    (queues : Nat → UvmToolsQueue ReportEntry) :
    Except Fault (Nat → UvmToolsQueue ReportEntry) :=
  if !state.toolsIsEventEnabledInAnyVaSpace rids.testAccessCounter then .ok queues
  else if !bufferEntry.isVirtual && !bufferEntry.residentIdValid then .error .assertion
  else state.uvmToolsBroadcastEvent ids
    (accessCounterEntry rids.testAccessCounter gpuId bufferEntry onManaged) queues

/-- `uvm_tools_record_map_remote` on its collector: the part through the push
(`UvmTools.uvmToolsRecordMapRemote`), on the call as it reads the collector, then for a CPU
mapping that passes the tests the record of its event. The CPU branch asserts the cause
again, which the first assertion already checked. -/
def uvmToolsRecordMapRemote (ids : ToolsIds) (rids : ReportIds ids) (state : Registry)
    (call : RecordMapRemote) (channels : ToolsChannels) (push : UvmPush)
    (queues : Nat → UvmToolsQueue ReportEntry) :
    Except Fault (ToolsChannels × UvmPush × (Nat → UvmToolsQueue ReportEntry)) := do
  let call := call.withCollector rids.mapRemote (state.vaSpaces call.vaSpace)
  let (channels, push) ← UvmTools.uvmToolsRecordMapRemote call channels push
  if call.toolsEnabled && call.mapRemoteEnabled && !call.processor.isGpu then
    let queues ← state.uvmToolsRecordEvent ids call.vaSpace
      ⟨rids.mapRemote, .mapRemote call.cpuEvent⟩ queues
    .ok (channels, push, queues)
  else .ok (channels, push, queues)

end Registry

/-! ## The single-collector reports as one family -/

/-- One call of a single-collector report, with its arguments. -/
inductive ReportCall where
  | cpuFatalFault (v : Nat) (address : NvU64) (isWrite : Bool) (reason : Nat) (now : NvU64)
  | gpuFatalFault (gpuId v : Nat) (bufferEntry : UvmFaultBufferEntry) (reason : Nat)
      (now : NvU64)
  | thrashing (v : Nat) (address regionSize processors now : NvU64)
  | throttlingStart (v : Nat) (address : NvU64) (processor : Nat) (processorValid : Bool)
      (now : NvU64)
  | throttlingEnd (v : Nat) (address : NvU64) (processor : Nat) (processorValid : Bool)
      (now : NvU64)
  deriving DecidableEq, Repr

namespace ReportCall

variable {ids : ToolsIds}

/-- The producer the call runs. -/
def run (ids : ToolsIds) (rids : ReportIds ids) (state : Registry) :
    ReportCall → (Nat → UvmToolsQueue ReportEntry) →
      Except Fault (Nat → UvmToolsQueue ReportEntry)
  | cpuFatalFault v address isWrite reason now =>
      state.uvmToolsRecordCpuFatalFault ids rids v address isWrite reason now
  | gpuFatalFault gpuId v bufferEntry reason now =>
      state.uvmToolsRecordGpuFatalFault ids rids gpuId v bufferEntry reason now
  | thrashing v address regionSize processors now =>
      state.uvmToolsRecordThrashing ids rids v address regionSize processors now
  | throttlingStart v address processor processorValid now =>
      state.uvmToolsRecordThrottlingStart ids rids v address processor processorValid now
  | throttlingEnd v address processor processorValid now =>
      state.uvmToolsRecordThrottlingEnd ids rids v address processor processorValid now

/-- The collector the call reports on. -/
def vaSpace : ReportCall → Nat
  | cpuFatalFault v .. | gpuFatalFault _ v .. | thrashing v .. | throttlingStart v ..
  | throttlingEnd v .. => v

/-- Whether the call passes its argument assertions. -/
def asserts : ReportCall → Bool
  | cpuFatalFault .. | gpuFatalFault .. => true
  | thrashing _ address regionSize _ _ => thrashingAsserts address regionSize
  | throttlingStart _ address _ processorValid _ | throttlingEnd _ address _ processorValid _ =>
      throttlingAsserts address processorValid

/-- The entry the call builds. -/
def entry (rids : ReportIds ids) : ReportCall → ReportEntry
  | cpuFatalFault _ address isWrite reason now =>
      cpuFatalFaultEntry rids.fatalFault address isWrite reason now
  | gpuFatalFault gpuId _ bufferEntry reason now =>
      gpuFatalFaultEntry rids.fatalFault gpuId bufferEntry reason now
  | thrashing _ address regionSize processors now =>
      thrashingEntry rids.thrashingDetected address regionSize processors now
  | throttlingStart _ address processor _ now =>
      throttlingEntry rids.throttlingStart .throttlingStart address processor now
  | throttlingEnd _ address processor _ now =>
      throttlingEntry rids.throttlingEnd .throttlingEnd address processor now

/-- Every producer of the family is the shared body on its own assertions and entry, tested
for the type its entry carries. -/
theorem run_eq_recordReport (rids : ReportIds ids) (state : Registry) (call : ReportCall)
    (queues : Nat → UvmToolsQueue ReportEntry) :
    call.run ids rids state queues = state.recordReport ids call.asserts call.vaSpace
      (call.entry rids).eventType (call.entry rids) queues := by
  cases call <;> rfl

theorem eventType_entry_lt (rids : ReportIds ids) (call : ReportCall) :
    (call.entry rids).eventType < ids.eventNumTypesAll := by
  cases call <;> exact Fin.isLt _

end ReportCall

/-! ## Sample runs -/

/-- `sampleIds` with sixteen event types, the reports' types after the others. -/
def reportSampleIds : ToolsIds :=
  { sampleIds with
    eventNumTypesAll := 16
    totalCounters := 16
    cpuFault_lt := by decide
    migration_lt := by decide
    cpuPageFaultCount_lt := by decide
    eventNumTypesAll_le := by decide }

/-- The reports' event types among `reportSampleIds`. -/
def sampleReportIds : ReportIds reportSampleIds :=
  ⟨⟨5, by decide⟩, ⟨6, by decide⟩, ⟨7, by decide⟩, ⟨8, by decide⟩, ⟨9, by decide⟩,
    ⟨10, by decide⟩, ⟨11, by decide⟩⟩

/-- A thrashing report on collector 0 of a page-aligned range. -/
def sampleThrashing : ReportCall := .thrashing 0 0x1000 0x2000 1 7

/-- A mapping of one page from the CPU to GPU 1's memory, for a cause other than the invalid
one; the tests are read from the collector. -/
def sampleMapRemote : RecordMapRemote :=
  { processor := .cpu, residency := .gpu 1, processorValid := true, residencyValid := true
    address := 0x1000, regionSize := 0x1000, cause := 1
    vaSpace := 0, toolsEnabled := false, mapRemoteEnabled := false, recordAllocated := true
    detailAllocated := true, now := 7, timestampAddr := 64 }

/-- A physical address whose resident processor is not a valid one. -/
def sampleAccessCounterEntry : UvmAccessCounterBufferEntry :=
  { address := 0x1000, isVirtual := false, aperture := .vid, instancePtr := 0
    instancePtrAperture := .sys, veId := 0, residentIdValid := false, counterType := .mimc
    counterValue := 1, subGranularity := 0, bank := 0, tag := 0 }

/-- A registry whose one queue tracker listens to access counters. -/
def accessCounterSubscribed : Registry := queueSubscribed reportSampleIds (BitVec.twoPow 64 11)

/-- A registry whose one queue tracker listens to remote mappings. -/
def mapRemoteSubscribed : Registry := queueSubscribed reportSampleIds (BitVec.twoPow 64 9)

/-! ## What the reports record -/

namespace Registry

variable {ids : ToolsIds} {state : Registry}

/-- Over a consistent registry, an event type is enabled in some VA space exactly when some
collector has a tracker, of either kind, on its list. -/
theorem Consistent.toolsIsEventEnabledInAnyVaSpace_iff (hc : state.Consistent ids) (e : Nat) :
    state.toolsIsEventEnabledInAnyVaSpace e = true ↔
      ∃ v isQueue, (state.vaSpaces v).lists isQueue e ≠ [] := by
  have hqueues := hc.linked_pos_iff true e
  have hcounters := hc.linked_pos_iff false e
  rw [toolsIsEventEnabledInAnyVaSpace, bne_iff_ne, ne_eq, hc.enabledEventCount_eq_zero_iff]
  constructor
  · intro hne
    rcases Nat.eq_zero_or_pos (state.linked true e) with hzero | hpos
    · obtain ⟨v, hv⟩ := hcounters.mp (by omega)
      exact ⟨v, false, hv⟩
    · obtain ⟨v, hv⟩ := hqueues.mp hpos
      exact ⟨v, true, hv⟩
  · rintro ⟨v, isQueue, hv⟩
    cases isQueue
    · have := hcounters.mpr ⟨v, hv⟩
      omega
    · have := hqueues.mpr ⟨v, hv⟩
      omega

/-- Over a consistent registry, no queue tracker of a collector that does not listen to an
event type, because its tools are off or the type is not enabled, is subscribed to it. -/
theorem Consistent.not_subscribed_of_not_listening (hc : state.Consistent ids) {v e : Nat}
    (he : e < ids.eventNumTypesAll)
    (hquiet : ((state.vaSpaces v).enabled && (state.vaSpaces v).toolsIsEventEnabled e) = false)
    (t : Nat) : ¬SubscribedQueue ids state v e t := by
  cases henabled : (state.vaSpaces v).toolsIsEventEnabled e
  · exact hc.not_subscribed_of_disabled (by simp [henabled]) t
  · have hne : (state.vaSpaces v).queues e ≠ [] := by
      simpa [toolsIsEventEnabled] using henabled
    rw [henabled, hc.enabled, toolsAreEnabled_of_queues_ne_nil he hne] at hquiet
    cases hquiet

end Registry

/-! ## What the reports record -/

namespace Registry

variable {ids : ToolsIds} {state : Registry}

/-- Over a consistent registry, the shared body fails exactly on its assertions, and otherwise
enqueues the entry once on each queue tracker of the collector subscribed to its type. -/
theorem Consistent.recordReport_eq (hc : state.Consistent ids) (asserts : Bool) (v : Nat)
    (entry : ReportEntry) (hevent : entry.eventType < ids.eventNumTypesAll)
    (queues : Nat → UvmToolsQueue ReportEntry) :
    state.recordReport ids asserts v entry.eventType entry queues =
      if asserts then .ok fun t => if SubscribedQueue ids state v entry.eventType t then
        (enqueueEvent entry (queues t)).1 else queues t
      else .error .assertion := by
  cases asserts
  · rfl
  · exact (hc.recordIfEventEnabled_eq v entry hevent queues).trans
      (hc.uvmToolsRecordEvent_eq v entry hevent queues)

/-- Over a consistent registry, each single-collector report fails exactly on its own
argument assertions, whether or not anyone listens to the collector, and otherwise enqueues
its entry once on each queue tracker of the collector subscribed to the entry's type, and
changes no other queue. -/
theorem Consistent.reportCall_run_eq (hc : state.Consistent ids) (rids : ReportIds ids)
    (call : ReportCall) (queues : Nat → UvmToolsQueue ReportEntry) :
    call.run ids rids state queues =
      if call.asserts then .ok fun t =>
        if SubscribedQueue ids state call.vaSpace (call.entry rids).eventType t then
          (enqueueEvent (call.entry rids) (queues t)).1 else queues t
      else .error .assertion := by
  rw [call.run_eq_recordReport]
  exact hc.recordReport_eq _ _ _ (call.eventType_entry_lt rids) queues

/-- A thrashing report on the collector of a queue tracker subscribed to thrashing, through a
fresh ring of four slots. -/
theorem reportCall_run_sampleThrashing :
    sampleThrashing.run reportSampleIds sampleReportIds
        (queueSubscribed reportSampleIds (BitVec.twoPow 64 6)) (fun _ => freshQueue 4 1) =
      if sampleThrashing.asserts then .ok fun t =>
        if SubscribedQueue reportSampleIds (queueSubscribed reportSampleIds (BitVec.twoPow 64 6))
            sampleThrashing.vaSpace (sampleThrashing.entry sampleReportIds).eventType t then
          (enqueueEvent (sampleThrashing.entry sampleReportIds) (freshQueue 4 1)).1
        else freshQueue 4 1
      else .error .assertion :=
  Consistent.reportCall_run_eq (reachable_consistent (queueSubscribed_run _ _)) _ _ _

/-- Over a consistent registry, `uvm_tools_broadcast_replay_sync` fails exactly when the GPU
has the clear-faulted-channel method, whoever listens, and otherwise enqueues the helper's
entry once on each queue tracker subscribed to `UvmEventTypeGpuFaultReplay`, in whichever
collector, and changes no other queue. -/
theorem Consistent.uvmToolsBroadcastReplaySync_eq (hc : state.Consistent ids)
    (rids : ReportIds ids) (hasClearFaultedChannelMethod : Bool) (gpuId : Nat) (batchId : NvU32)
    (clientType : UvmFaultClientType) (now gpuTime : NvU64)
    (queues : Nat → UvmToolsQueue ReportEntry) :
    state.uvmToolsBroadcastReplaySync ids rids hasClearFaultedChannelMethod gpuId batchId
        clientType now gpuTime queues =
      if hasClearFaultedChannelMethod then .error .assertion
      else .ok fun t =>
        if (state.trackers t).any
          (fun tracker => decide (tracker.Subscribes ids true rids.gpuFaultReplay)) then
          (enqueueEvent ⟨rids.gpuFaultReplay, .gpuFaultReplay
            (recordReplayEventHelper gpuId batchId clientType now gpuTime)⟩ (queues t)).1
        else queues t := by
  have hevent : UvmEventEntry.eventType (⟨rids.gpuFaultReplay, .gpuFaultReplay
      (recordReplayEventHelper gpuId batchId clientType now gpuTime)⟩ : ReportEntry) <
        ids.eventNumTypesAll := rids.gpuFaultReplay.isLt
  cases hasClearFaultedChannelMethod
  · exact (hc.broadcastIfEventEnabled_eq _ hevent queues).trans
      (hc.uvmToolsBroadcastEvent_eq _ hevent queues)
  · rfl

/-- A replay of batch 3 on GPU 1, broadcast at once to a registry with a queue tracker on
the replay events. -/
theorem uvmToolsBroadcastReplaySync_sample :
    (queueSubscribed reportSampleIds (BitVec.twoPow 64 10)).uvmToolsBroadcastReplaySync
        reportSampleIds sampleReportIds false 1 3 .gpc 7 9 (fun _ => freshQueue 4 1) =
      .ok fun t =>
        if ((queueSubscribed reportSampleIds (BitVec.twoPow 64 10)).trackers t).any
          (fun tracker => decide (tracker.Subscribes reportSampleIds true
            sampleReportIds.gpuFaultReplay)) then
          (enqueueEvent ⟨sampleReportIds.gpuFaultReplay, .gpuFaultReplay
            (recordReplayEventHelper 1 3 .gpc 7 9)⟩ (freshQueue 4 1)).1
        else freshQueue 4 1 :=
  Consistent.uvmToolsBroadcastReplaySync_eq (reachable_consistent (queueSubscribed_run _ _)) _
    false _ _ _ _ _ _

open Classical in
/-- Over a consistent registry, `uvm_tools_broadcast_replay`, once its allocation succeeds,
attaches a replay record to the push and counts it on the push's channel exactly while some
collector has a tracker, of either kind, on the list of `UvmEventTypeGpuFaultReplay`: a
counter tracker on the counter of the same index is enough, though no queue can then receive
the event. It asserts that the push holds no callback yet. -/
theorem Consistent.uvmToolsBroadcastReplay_eq (hc : state.Consistent ids) (rids : ReportIds ids)
    (gpuId : Nat) (batchId : NvU32) (clientType : UvmFaultClientType) (allocated : Bool)
    (now timestampAddr : NvU64) (channels : ToolsChannels) (push : UvmPush) :
    state.uvmToolsBroadcastReplay ids rids gpuId batchId clientType allocated now timestampAddr
        channels push =
      if (∃ v isQueue, (state.vaSpaces v).lists isQueue rids.gpuFaultReplay ≠ []) ∧
          allocated = true then
        if push.onComplete.isSome || push.onCompleteData.isSome then .error .assertion
        else .ok (channels.addPendingEventForChannel push.channel,
          { push with
            onComplete := some .onReplayComplete
            onCompleteData := some (.replay
              { channel := push.channel, gpuId := gpuId, batchId := batchId
                clientType := clientType, timestamp := now, timestampGpu := 0
                timestampGpuAddr := timestampAddr }) })
      else .ok (channels, push) := by
  unfold uvmToolsBroadcastReplay UvmTools.uvmToolsBroadcastReplay
  by_cases hlisted : ∃ v isQueue, (state.vaSpaces v).lists isQueue rids.gpuFaultReplay ≠ []
  · rw [(hc.toolsIsEventEnabledInAnyVaSpace_iff _).mpr hlisted]
    cases allocated
    · exact (if_neg fun h : _ ∧ false = true => Bool.false_ne_true h.2).symm
    · exact (if_pos (⟨hlisted, rfl⟩ : _ ∧ true = true)).symm
  · have hoff : state.toolsIsEventEnabledInAnyVaSpace rids.gpuFaultReplay = false := by
      simpa using mt (hc.toolsIsEventEnabledInAnyVaSpace_iff _).mp hlisted
    rw [hoff]
    exact (if_neg fun h : _ ∧ allocated = true => hlisted h.1).symm

/-- A counter tracker of collector 0 on the counter whose index is `UvmEventTypeGpuFaultReplay`,
and no queue tracker. -/
def replayCounterSubscribed : Registry :=
  let created := initialRegistry.create 0 false
  let inserted := created.insertion reportSampleIds 0 ⟨0, false, 0⟩ (BitVec.twoPow 64 10)
  created.resubscribed reportSampleIds 0 0 (some ⟨0, false, inserted.subscribed⟩) false
    inserted.lists inserted.counts

theorem replayCounterSubscribed_run :
    Steps (RegistryStep reportSampleIds) initialRegistry
      [.created 0 false, .attached 0 (BitVec.twoPow 64 10) .ok .ok .ok] replayCounterSubscribed :=
  (Steps.single (RegistryStep.create initialRegistry 0 false (by decide))).step
    (RegistryStep.attach rfl (Registry.attach_of_callbacks_ok
      (toolsUpdatePerfEventsCallbacks_eq_ok (fun _ => .inr rfl) (fun _ => .inr rfl))))

/-- With only the counter tracker on index 10, no collector has a queue on the replay
events, yet `uvm_tools_broadcast_replay` attaches a replay record to a fresh push and counts
it on channel 0. -/
theorem uvmToolsBroadcastReplay_counterSubscribed :
    (∀ v, (replayCounterSubscribed.vaSpaces v).toolsIsEventEnabled sampleReportIds.gpuFaultReplay =
      false) ∧
    replayCounterSubscribed.uvmToolsBroadcastReplay reportSampleIds sampleReportIds 1 3 .gpc true 7
        64 ⟨fun _ => 0, []⟩ (UvmPush.fresh 0) =
      .ok ((⟨fun _ => 0, []⟩ : ToolsChannels).addPendingEventForChannel 0,
        { UvmPush.fresh 0 with
          onComplete := some .onReplayComplete
          onCompleteData := some (.replay
            { channel := 0, gpuId := 1, batchId := 3, clientType := .gpc, timestamp := 7
              timestampGpu := 0, timestampGpuAddr := 64 }) }) := by
  refine ⟨fun v => ?_, ?_⟩
  · simp only [replayCounterSubscribed, vaSpaces_resubscribed, Function.update_apply]
    split_ifs <;> rfl
  · rw [Consistent.uvmToolsBroadcastReplay_eq (reachable_consistent replayCounterSubscribed_run),
      if_pos ⟨⟨0, false, by decide⟩, rfl⟩]
    rfl

open Classical in
/-- Over a consistent registry, `uvm_tools_broadcast_access_counter` fails on a physical
address with no valid resident processor, but only while some collector has a tracker, of
either kind, on the list of `UvmEventTypeTestAccessCounter`: a counter tracker on the counter
of the same index is enough. Otherwise it enqueues its entry once on each queue tracker
subscribed to the type, in whichever collector, and changes no other queue. -/
theorem Consistent.uvmToolsBroadcastAccessCounter_eq (hc : state.Consistent ids)
    (rids : ReportIds ids) (gpuId : Nat) (bufferEntry : UvmAccessCounterBufferEntry)
    (onManaged : Bool) (queues : Nat → UvmToolsQueue ReportEntry) :
    state.uvmToolsBroadcastAccessCounter ids rids gpuId bufferEntry onManaged queues =
      if bufferEntry.isVirtual = false ∧ bufferEntry.residentIdValid = false ∧
          ∃ v isQueue, (state.vaSpaces v).lists isQueue rids.testAccessCounter ≠ []
      then .error .assertion
      else .ok fun t =>
        if (state.trackers t).any
          (fun tracker => decide (tracker.Subscribes ids true rids.testAccessCounter)) then
          (enqueueEvent (accessCounterEntry rids.testAccessCounter gpuId bufferEntry onManaged)
            (queues t)).1
        else queues t := by
  have hbroadcast := hc.uvmToolsBroadcastEvent_eq
    (accessCounterEntry rids.testAccessCounter gpuId bufferEntry onManaged)
    rids.testAccessCounter.isLt queues
  by_cases hlisted : ∃ v isQueue, (state.vaSpaces v).lists isQueue rids.testAccessCounter ≠ []
  · have hon := (hc.toolsIsEventEnabledInAnyVaSpace_iff _).mpr hlisted
    by_cases hassert : bufferEntry.isVirtual = false ∧ bufferEntry.residentIdValid = false
    · rw [if_pos ⟨hassert.1, hassert.2, hlisted⟩]
      simp [uvmToolsBroadcastAccessCounter, hon, hassert]
    · rw [if_neg fun h => hassert ⟨h.1, h.2.1⟩]
      simp only [uvmToolsBroadcastAccessCounter, hon, Bool.not_true, Bool.false_eq_true, if_false]
      rw [if_neg (by simpa [Bool.not_eq_true] using hassert)]
      exact hbroadcast
  · have hoff : state.toolsIsEventEnabledInAnyVaSpace rids.testAccessCounter = false := by
      simpa using mt (hc.toolsIsEventEnabledInAnyVaSpace_iff _).mp hlisted
    have hquiet : state.broadcastIfEventEnabled ids rids.testAccessCounter
        (accessCounterEntry rids.testAccessCounter gpuId bufferEntry onManaged) queues =
          .ok queues := by
      simp [broadcastIfEventEnabled, hoff]
    rw [if_neg fun h => hlisted h.2.2]
    simp only [uvmToolsBroadcastAccessCounter, hoff, Bool.not_false, if_true]
    exact hquiet.symm.trans ((hc.broadcastIfEventEnabled_eq _ rids.testAccessCounter.isLt
      queues).trans hbroadcast)

open Classical in
/-- The physical address with no valid resident processor, reported to a registry that
listens to access counters: the assertion is reached. -/
theorem uvmToolsBroadcastAccessCounter_sample :
    accessCounterSubscribed.uvmToolsBroadcastAccessCounter reportSampleIds sampleReportIds 1
        sampleAccessCounterEntry false (fun _ => freshQueue 4 1) =
      if sampleAccessCounterEntry.isVirtual = false ∧
          sampleAccessCounterEntry.residentIdValid = false ∧
          ∃ v isQueue, (accessCounterSubscribed.vaSpaces v).lists isQueue
            sampleReportIds.testAccessCounter ≠ []
      then .error .assertion
      else .ok fun t =>
        if (accessCounterSubscribed.trackers t).any (fun tracker => decide
          (tracker.Subscribes reportSampleIds true sampleReportIds.testAccessCounter)) then
          (enqueueEvent (accessCounterEntry sampleReportIds.testAccessCounter 1
            sampleAccessCounterEntry false) (freshQueue 4 1)).1
        else freshQueue 4 1 :=
  Consistent.uvmToolsBroadcastAccessCounter_eq (reachable_consistent (queueSubscribed_run _ _))
    _ _ _ _ _

/-- `uvm_tools_record_map_remote` fails its assertions on a processor or residency that is not
a valid id, or on the invalid cause, before it reads anything else. -/
theorem uvmToolsRecordMapRemote_of_invalid {call : RecordMapRemote}
    (hinvalid : call.processorValid = false ∨ call.residencyValid = false ∨
      call.cause = uvmEventMapRemoteCauseInvalid) (channels : ToolsChannels) (push : UvmPush) :
    UvmTools.uvmToolsRecordMapRemote call channels push = .error .assertion := by
  unfold UvmTools.uvmToolsRecordMapRemote
  rcases hinvalid with hinvalid | hinvalid | hinvalid <;> simp [hinvalid]

/-- The part of `uvm_tools_record_map_remote` through the push does nothing to a CPU mapping
that passes its assertions. -/
theorem uvmToolsRecordMapRemote_of_cpu {call : RecordMapRemote} (hcpu : call.processor = .cpu)
    (hprocessor : call.processorValid = true) (hresidency : call.residencyValid = true)
    (hcause : call.cause ≠ uvmEventMapRemoteCauseInvalid) (channels : ToolsChannels)
    (push : UvmPush) :
    UvmTools.uvmToolsRecordMapRemote call channels push = .ok (channels, push) := by
  unfold UvmTools.uvmToolsRecordMapRemote
  rw [hprocessor, hresidency, if_neg (by decide), if_neg hcause, hcpu]
  split_ifs <;> rfl

/-- Over a consistent registry, a CPU remote mapping fails exactly when its processor or its
residency is not a valid id or its cause is the invalid one, whether or not anyone listens,
and otherwise leaves the push and the channels as they were and records its event at once:
once on each queue tracker of its collector subscribed to `UvmEventTypeMapRemote`, with no
GPU time, changing no other queue. -/
theorem Consistent.uvmToolsRecordMapRemote_cpu (hc : state.Consistent ids) (rids : ReportIds ids)
    {call : RecordMapRemote} (hcpu : call.processor = .cpu) (channels : ToolsChannels)
    (push : UvmPush) (queues : Nat → UvmToolsQueue ReportEntry) :
    state.uvmToolsRecordMapRemote ids rids call channels push queues =
      if call.processorValid = false ∨ call.residencyValid = false ∨
          call.cause = uvmEventMapRemoteCauseInvalid then .error .assertion
      else .ok (channels, push, fun t =>
        if SubscribedQueue ids state call.vaSpace rids.mapRemote t then
          (enqueueEvent ⟨rids.mapRemote, .mapRemote call.cpuEvent⟩ (queues t)).1
        else queues t) := by
  by_cases hinvalid : call.processorValid = false ∨ call.residencyValid = false ∨
      call.cause = uvmEventMapRemoteCauseInvalid
  · rw [if_pos hinvalid, uvmToolsRecordMapRemote,
      uvmToolsRecordMapRemote_of_invalid (by simpa [RecordMapRemote.withCollector] using hinvalid)]
    rfl
  have hprocessor : call.processorValid = true := by simpa using (not_or.mp hinvalid).1
  have hresidency : call.residencyValid = true := by
    simpa using (not_or.mp (not_or.mp hinvalid).2).1
  have hcause := (not_or.mp (not_or.mp hinvalid).2).2
  have hevent : UvmEventEntry.eventType (⟨rids.mapRemote, .mapRemote call.cpuEvent⟩ :
      ReportEntry) < ids.eventNumTypesAll := rids.mapRemote.isLt
  rw [if_neg hinvalid, uvmToolsRecordMapRemote,
    @uvmToolsRecordMapRemote_of_cpu (call.withCollector _ _) hcpu hprocessor hresidency hcause,
    RecordMapRemote.cpuEvent_withCollector]
  dsimp only [bind, Except.bind, RecordMapRemote.withCollector]
  simp only [hcpu, UvmProcessorId.isGpu, Bool.not_false, Bool.and_true]
  cases hlistens : ((state.vaSpaces call.vaSpace).enabled &&
      (state.vaSpaces call.vaSpace).toolsIsEventEnabled rids.mapRemote)
  · refine congrArg (fun queues => Except.ok (channels, push, queues)) (funext fun t => ?_)
    rw [if_neg (hc.not_subscribed_of_not_listening rids.mapRemote.isLt hlistens t)]
  · rw [if_pos rfl, hc.uvmToolsRecordEvent_eq _ _ hevent]
    rfl

/-- The CPU mapping of `sampleMapRemote`, on a registry whose queue tracker listens to remote
mappings. -/
theorem uvmToolsRecordMapRemote_cpu_sample :
    sampleMapRemote.processor = .cpu ∧
      mapRemoteSubscribed.uvmToolsRecordMapRemote reportSampleIds sampleReportIds sampleMapRemote
          ⟨fun _ => 0, []⟩ (UvmPush.fresh 0) (fun _ => freshQueue 4 1) =
        if sampleMapRemote.processorValid = false ∨ sampleMapRemote.residencyValid = false ∨
            sampleMapRemote.cause = uvmEventMapRemoteCauseInvalid then .error .assertion
        else .ok (⟨fun _ => 0, []⟩, UvmPush.fresh 0, fun t =>
          if SubscribedQueue reportSampleIds mapRemoteSubscribed sampleMapRemote.vaSpace
              sampleReportIds.mapRemote t then
            (enqueueEvent ⟨sampleReportIds.mapRemote, .mapRemote sampleMapRemote.cpuEvent⟩
              (freshQueue 4 1)).1
          else freshQueue 4 1) :=
  ⟨rfl, Consistent.uvmToolsRecordMapRemote_cpu (reachable_consistent (queueSubscribed_run _ _)) _
    rfl _ _ _⟩

end Registry

end UvmTools
