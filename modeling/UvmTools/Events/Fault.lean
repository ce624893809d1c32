import UvmTools.Tracker.Counters
import UvmTools.Queue.Refinement
import UvmTools.Deferred.Records

/-!
# Fault events

`uvm_tools_record_fault` is the perf callback a collector registers for
`UVM_PERF_EVENT_FAULT`. After its assertions it reports the fault twice over: as events, on
the queue trackers subscribed to `UvmEventTypeCpuFault` or `UvmEventTypeGpuFault`, and as
counts, on the counter trackers of the two page-fault counters (`Registry.recordFaultCounters`).
A CPU fault is one event. A GPU fault is one event per fault buffer entry: the entry the fault
was raised on, then each instance merged into it, each built by `record_gpu_fault_instance`
with the batch's id and one CPU timestamp.

Over a consistent registry whose collector needs the callback, the call passes its
assertions and returns (`Registry.Consistent.uvmToolsRecordFault_delivers`): the counters
change as the counter half says, and every subscribed queue takes the fault's events in the
order they were built, as many as it has room for; the rest are counted as dropped, so a full
queue loses the tail of a batch of merged instances, never an instance in its middle.
-/

namespace UvmTools

open ToolsVaSpace

/-! ## The fault tables -/

/-- `uvm_fault_type_t`, the fault types `g_hal_to_tools_fault_type_table` maps. -/
inductive UvmFaultType where
  | invalidPde
  | invalidPte
  | atomic
  | write
  | pdeSize
  | vaLimitViolation
  | unboundInstBlock
  | privViolation
  | pitchMaskViolation
  | workCreation
  | unsupportedAperture
  | compressionFailure
  | unsupportedKind
  | regionViolation
  | poisoned
  deriving DecidableEq, Repr, Inhabited

/-- `UvmEventFaultType`, the types the table produces. -/
inductive UvmEventFaultType where
  | invalidPde
  | invalidPte
  | atomic
  | write
  | invalidPdeSize
  | limitViolation
  | unboundInstBlock
  | privViolation
  | pitchMaskViolation
  | workCreation
  | unsupportedAperture
  | compressionFailure
  | unsupportedKind
  | regionViolation
  | poison
  deriving DecidableEq, Repr, Inhabited

/-- `g_hal_to_tools_fault_type_table`. -/
def gHalToToolsFaultTypeTable : UvmFaultType → UvmEventFaultType
  | .invalidPde => .invalidPde
  | .invalidPte => .invalidPte
  | .atomic => .atomic
  | .write => .write
  | .pdeSize => .invalidPdeSize
  | .vaLimitViolation => .limitViolation
  | .unboundInstBlock => .unboundInstBlock
  | .privViolation => .privViolation
  | .pitchMaskViolation => .pitchMaskViolation
  | .workCreation => .workCreation
  | .unsupportedAperture => .unsupportedAperture
  | .compressionFailure => .compressionFailure
  | .unsupportedKind => .unsupportedKind
  | .regionViolation => .regionViolation
  | .poisoned => .poison

/-- `uvm_fault_access_type_t`. -/
inductive UvmFaultAccessType where
  | atomicStrong
  | atomicWeak
  | write
  | read
  | prefetch
  deriving DecidableEq, Repr, Inhabited

/-- `UvmEventMemoryAccessType`, the access types the fault events report. -/
inductive UvmEventMemoryAccessType where
  | atomic
  | write
  | read
  | prefetch
  deriving DecidableEq, Repr, Inhabited

/-- `g_hal_to_tools_fault_access_type_table`: strong and weak atomics both report as
`UvmEventMemoryAccessTypeAtomic`. -/
def gHalToToolsFaultAccessTypeTable : UvmFaultAccessType → UvmEventMemoryAccessType
  | .atomicStrong => .atomic
  | .atomicWeak => .atomic
  | .write => .write
  | .read => .read
  | .prefetch => .prefetch

/-! ## The entries -/

/-- The fields of a `uvm_fault_buffer_entry_t` that `record_gpu_fault_instance` reads. -/
structure UvmFaultBufferEntry where
  faultType : UvmFaultType
  faultAccessType : UvmFaultAccessType
  /-- `fault_source.client_type`. -/
  clientType : UvmFaultClientType
  isReplayable : Bool
  /-- `fault_source.gpc_id`. -/
  gpcId : Nat
  /-- `fault_source.channel_id`. -/
  channelId : Nat
  /-- `fault_source.client_id`. -/
  clientId : Nat
  faultAddress : NvU64
  timestamp : NvU64
  deriving DecidableEq, Repr

/-- The fields of `UvmEventCpuFaultInfo` that `uvm_tools_record_fault` stores. -/
structure UvmEventCpuFaultInfo where
  eventType : Nat
  accessType : UvmEventMemoryAccessType
  address : NvU64
  timeStamp : NvU64
  pid : Nat
  threadId : Nat
  pc : NvU64
  deriving DecidableEq, Repr, Inhabited

/-- The fields of `UvmEventGpuFaultInfo` that `record_gpu_fault_instance` stores. -/
structure UvmEventGpuFaultInfo where
  eventType : Nat
  gpuIndex : Nat
  faultType : UvmEventFaultType
  accessType : UvmEventMemoryAccessType
  clientType : UvmEventFaultClientType
  gpcId : Nat
  channelId : Nat
  clientId : Nat
  address : NvU64
  timeStamp : NvU64
  timeStampGpu : NvU64
  batchId : NvU64
  deriving DecidableEq, Repr

/-- A fault entry, `UvmEventEntry` with its `eventData.cpuFault` or `eventData.gpuFault`
variant. -/
inductive FaultEntry where
  | cpuFault (info : UvmEventCpuFaultInfo)
  | gpuFault (info : UvmEventGpuFaultInfo)
  deriving DecidableEq, Repr, Inhabited

instance : UvmEventEntry FaultEntry where
  eventType
    | .cpuFault info => info.eventType
    | .gpuFault info => info.eventType

/-- The entry of the CPU branch of `uvm_tools_record_fault`: after the `memset`, the access
type from `is_write`, the faulting address and `pc`, `NV_GETTIME()` and the ids of the
current process and thread. -/
def cpuFaultEntry (ids : ToolsIds) (isWrite : Bool) (faultVa pc now : NvU64)
    (pid threadId : Nat) : FaultEntry :=
  .cpuFault
    { eventType := ids.cpuFault
      accessType := if isWrite then .write else .read
      address := faultVa
      timeStamp := now
      pid := pid
      threadId := threadId
      pc := pc }

/-- The entry `record_gpu_fault_instance` builds: after the `memset`, the table images of the
entry's types, `gpcId` for a replayable fault and `channelId` otherwise (the other stays 0),
and the GPU, batch and timestamps. -/
def recordGpuFaultInstanceEntry (ids : ToolsIds) (gpuIndex : Nat)
    (faultEntry : UvmFaultBufferEntry) (batchId timestamp : NvU64) : FaultEntry :=
  .gpuFault
    { eventType := ids.gpuFault
      gpuIndex := gpuIndex
      faultType := gHalToToolsFaultTypeTable faultEntry.faultType
      accessType := gHalToToolsFaultAccessTypeTable faultEntry.faultAccessType
      clientType := gHalToToolsFaultClientTypeTable faultEntry.clientType
      gpcId := if faultEntry.isReplayable then faultEntry.gpcId else 0
      channelId := if faultEntry.isReplayable then 0 else faultEntry.channelId
      clientId := faultEntry.clientId
      address := faultEntry.faultAddress
      timeStamp := timestamp
      timeStampGpu := faultEntry.timestamp
      batchId := batchId }

/-- The fields of `event_data->fault` that `uvm_tools_record_fault` reads: a CPU fault, with
its access, address, `pc` and the UUID of its preferred location's GPU, if it is one; or a GPU
fault, with the GPU's `uvm_id_value` and UUID, the fault buffer entry and its
`merged_instances_list`, and the batch id. -/
inductive UvmPerfFaultData where
  | cpu (isWrite : Bool) (faultVa pc : NvU64) (preferredGpu : Option NvProcessorUuid)
  | gpu (gpuIndex : Nat) (gpuUuid : NvProcessorUuid) (bufferEntry : UvmFaultBufferEntry)
      (mergedInstances : List UvmFaultBufferEntry) (batchId : NvU64)

/-- The processor the counter half reads off a fault. -/
def UvmPerfFaultData.processor : UvmPerfFaultData → FaultProcessor
  | .cpu _ _ _ preferredGpu => .cpu preferredGpu
  | .gpu _ gpuUuid _ _ _ => .gpu gpuUuid

namespace Registry

/-- `record_gpu_fault_instance`: its entry, recorded on the collector. -/
def recordGpuFaultInstance (ids : ToolsIds) (state : Registry) (v gpuIndex : Nat)
    (faultEntry : UvmFaultBufferEntry) (batchId timestamp : NvU64)
    (queues : Nat → UvmToolsQueue FaultEntry) : Except Fault (Nat → UvmToolsQueue FaultEntry) :=
  state.uvmToolsRecordEvent ids v (recordGpuFaultInstanceEntry ids gpuIndex faultEntry batchId
    timestamp) queues

/-- The events of `uvm_tools_record_fault` on collector `v`, after its assertions: a CPU
fault's entry if `UvmEventTypeCpuFault` is enabled; for a GPU fault, if `UvmEventTypeGpuFault`
is enabled, `record_gpu_fault_instance` of the buffer entry and then of each merged instance,
all with the batch id and one `NV_GETTIME()`. -/
def recordFaultEvents (ids : ToolsIds) (state : Registry) (v : Nat) (fault : UvmPerfFaultData)
    (now : NvU64) (pid threadId : Nat) (queues : Nat → UvmToolsQueue FaultEntry) :
    Except Fault (Nat → UvmToolsQueue FaultEntry) :=
  match fault with
  | .cpu isWrite faultVa pc _ =>
      if (state.vaSpaces v).toolsIsEventEnabled ids.cpuFault then
        state.uvmToolsRecordEvent ids v (cpuFaultEntry ids isWrite faultVa pc now pid threadId)
          queues
      else .ok queues
  | .gpu gpuIndex _ bufferEntry mergedInstances batchId =>
      if (state.vaSpaces v).toolsIsEventEnabled ids.gpuFault then do
        let queues ← state.recordGpuFaultInstance ids v gpuIndex bufferEntry batchId now queues
        mergedInstances.foldlM (fun queues faultInstance =>
          state.recordGpuFaultInstance ids v gpuIndex faultInstance batchId now queues) queues
      else .ok queues

/-- `uvm_tools_record_fault` on collector `v`: its assertions, the events, then the counters.
The counter half is `recordFaultCounters`, whose assertions are the ones already passed. -/
def uvmToolsRecordFault (ids : ToolsIds) (cpuDefault : NvProcessorUuid) (state : Registry)
    (v : Nat) (trackerCounters : Nat → UvmToolsCounter) (fault : UvmPerfFaultData)
    (now : NvU64) (pid threadId : Nat) (queues : Nat → UvmToolsQueue FaultEntry)
    (values : Nat → Nat → NvU64) :
    Except Fault ((Nat → UvmToolsQueue FaultEntry) × (Nat → Nat → NvU64)) := do
  uvmToolsRecordFaultAsserts ids (state.vaSpaces v)
  let queues ← state.recordFaultEvents ids v fault now pid threadId queues
  let values ← state.recordFaultCounters ids cpuDefault v trackerCounters fault.processor values
  return (queues, values)

end Registry

/-! ## What the call delivers -/

/-- The event type a fault is reported under. -/
def UvmPerfFaultData.eventType (ids : ToolsIds) : UvmPerfFaultData → Nat
  | .cpu .. => ids.cpuFault
  | .gpu .. => ids.gpuFault

/-- The entries `uvm_tools_record_fault` builds for a fault, in the order it records them. -/
def UvmPerfFaultData.entries (ids : ToolsIds) (now : NvU64) (pid threadId : Nat) :
    UvmPerfFaultData → List FaultEntry
  | .cpu isWrite faultVa pc _ => [cpuFaultEntry ids isWrite faultVa pc now pid threadId]
  | .gpu gpuIndex _ bufferEntry mergedInstances batchId =>
      (bufferEntry :: mergedInstances).map fun faultInstance =>
        recordGpuFaultInstanceEntry ids gpuIndex faultInstance batchId now

/-- Every entry of a fault has the fault's event type. -/
theorem UvmPerfFaultData.eventType_of_mem_entries {ids : ToolsIds} {now : NvU64}
    {pid threadId : Nat} {fault : UvmPerfFaultData} {entry : FaultEntry}
    (hentry : entry ∈ fault.entries ids now pid threadId) :
    UvmEventEntry.eventType entry = fault.eventType ids := by
  cases fault with
  | cpu => rw [entries, List.mem_singleton] at hentry; subst hentry; rfl
  | gpu =>
      obtain ⟨faultInstance, -, rfl⟩ := List.mem_map.mp hentry
      rfl

namespace Registry

variable {ids : ToolsIds} {state : Registry}

/-- Whether tracker `t` is a queue tracker of collector `v` subscribed to event type `e`. -/
abbrev SubscribedQueue (ids : ToolsIds) (state : Registry) (v e t : Nat) : Prop :=
  ∃ tracker, state.trackers t = some tracker ∧ tracker.vaSpace = v ∧
    tracker.Subscribes ids true e

/-- Over a consistent registry, recording entries of one event type one after another
enqueues them, in order, on the queue of each tracker subscribed to it, and changes no other
queue. -/
theorem Consistent.foldlM_uvmToolsRecordEvent_eq {Entry : Type} [UvmEventEntry Entry]
    (hc : state.Consistent ids) (v e : Nat) (he : e < ids.eventNumTypesAll) :
    ∀ (entries : List Entry), (∀ entry ∈ entries, UvmEventEntry.eventType entry = e) →
      ∀ queues : Nat → UvmToolsQueue Entry,
      entries.foldlM (fun queues entry => state.uvmToolsRecordEvent ids v entry queues) queues =
        .ok fun t => if SubscribedQueue ids state v e t then
          entries.foldl (fun queue entry => (enqueueEvent entry queue).1) (queues t) else queues t
  | [], _, queues => congrArg Except.ok (funext fun t => by split_ifs <;> rfl)
  | entry :: entries, htype, queues => by
      have hentry := htype entry (.head _)
      rw [List.foldlM_cons, hc.uvmToolsRecordEvent_eq v entry (hentry ▸ he), hentry]
      refine (hc.foldlM_uvmToolsRecordEvent_eq v e he entries
        (fun entry hentry => htype entry (.tail _ hentry)) _).trans ?_
      congr 1
      funext t
      by_cases hsub : SubscribedQueue ids state v e t <;> simp [hsub]

/-- Over a consistent registry, a collector's event list is empty exactly when none of its
trackers subscribes to the event. -/
theorem Consistent.not_subscribed_of_disabled (hc : state.Consistent ids) {v e : Nat}
    (hdisabled : ¬(state.vaSpaces v).toolsIsEventEnabled e = true) (t : Nat) :
    ¬SubscribedQueue ids state v e t := fun hsub => by
  have hmem : t ∈ (state.vaSpaces v).queues e := (hc.mem_lists v true e t).mpr hsub
  exact hdisabled (by simpa [toolsIsEventEnabled] using List.ne_nil_of_mem hmem)

/-- Over a consistent registry, an enabled event type is below `UvmEventNumTypesAll`. -/
theorem Consistent.lt_eventNumTypesAll (hc : state.Consistent ids) {v e : Nat}
    (henabled : (state.vaSpaces v).toolsIsEventEnabled e = true) : e < ids.eventNumTypesAll := by
  obtain ⟨t, ht⟩ := List.exists_mem_of_ne_nil _
    (by simpa [ToolsVaSpace.toolsIsEventEnabled] using henabled : (state.vaSpaces v).queues e ≠ [])
  obtain ⟨_, -, -, -, hlt, -⟩ := (hc.mem_lists v true e t).mp ht
  exact hlt

/-- Over a consistent registry, the events half of `uvm_tools_record_fault` enqueues the
fault's entries, in order, on the queue of each tracker of the collector subscribed to the
fault's event type, and changes no other queue. -/
theorem Consistent.recordFaultEvents_eq (hc : state.Consistent ids) (v : Nat)
    (fault : UvmPerfFaultData) (now : NvU64) (pid threadId : Nat)
    (queues : Nat → UvmToolsQueue FaultEntry) :
    state.recordFaultEvents ids v fault now pid threadId queues =
      .ok fun t => if SubscribedQueue ids state v (fault.eventType ids) t then
        (fault.entries ids now pid threadId).foldl
          (fun queue entry => (enqueueEvent entry queue).1) (queues t) else queues t := by
  by_cases henabled : (state.vaSpaces v).toolsIsEventEnabled (fault.eventType ids) = true
  · have hlist := hc.foldlM_uvmToolsRecordEvent_eq v _ (hc.lt_eventNumTypesAll henabled)
      (fault.entries ids now pid threadId)
      (fun _ hentry => UvmPerfFaultData.eventType_of_mem_entries hentry) queues
    cases fault with
    | cpu =>
        refine (if_pos henabled).trans (Eq.trans ?_ hlist)
        simp only [UvmPerfFaultData.entries, List.foldlM_cons, List.foldlM_nil, bind_pure]
    | gpu =>
        refine (if_pos henabled).trans (Eq.trans ?_ hlist)
        simp only [recordGpuFaultInstance, UvmPerfFaultData.entries, List.map_cons,
          List.foldlM_cons, List.foldlM_map]
  · have hsame : (fun t => if SubscribedQueue ids state v (fault.eventType ids) t then
          (fault.entries ids now pid threadId).foldl
            (fun queue entry => (enqueueEvent entry queue).1) (queues t) else queues t) = queues :=
      funext fun t => if_neg (hc.not_subscribed_of_disabled henabled t)
    rw [hsame]
    cases fault <;> exact if_neg henabled

/-- Over a consistent registry, a collector whose fault callback is needed is enabled and
passes the assertions of `uvm_tools_record_fault`. -/
theorem Consistent.uvmToolsRecordFaultAsserts_of_needed (hc : state.Consistent ids) {v : Nat}
    (hneeded : toolsIsFaultCallbackNeeded ids (state.vaSpaces v) = true) :
    uvmToolsRecordFaultAsserts ids (state.vaSpaces v) = .ok () := by
  have htools : toolsAreEnabled ids (state.vaSpaces v) = true := by
    rw [toolsAreEnabled, Bool.or_eq_true, List.any_eq_true, List.any_eq_true]
    simp only [toolsIsFaultCallbackNeeded, callbackNeeded, Bool.or_eq_true] at hneeded
    rcases hneeded with ((hcpu | hgpu) | hcpuCount) | hgpuCount
    · exact .inr ⟨_, List.mem_range.mpr (hc.lt_eventNumTypesAll hcpu), hcpu⟩
    · exact .inr ⟨_, List.mem_range.mpr (hc.lt_eventNumTypesAll hgpu), hgpu⟩
    · exact .inl ⟨_, List.mem_range.mpr (hc.lt_totalCounters hcpuCount), hcpuCount⟩
    · exact .inl ⟨_, List.mem_range.mpr (hc.lt_totalCounters hgpuCount), hgpuCount⟩
  simp [uvmToolsRecordFaultAsserts, callbackAsserts, hc.enabled, htools, hneeded]

/-- Over a consistent registry, the counter half of `uvm_tools_record_fault` returns on a
collector that passes its assertions: each counter it increments has a tracker, so is below
`UVM_TOTAL_COUNTERS`. -/
theorem Consistent.recordFaultCounters_ok (hc : state.Consistent ids) {v : Nat}
    (hasserts : uvmToolsRecordFaultAsserts ids (state.vaSpaces v) = .ok ())
    (cpuDefault : NvProcessorUuid) (trackerCounters : Nat → UvmToolsCounter)
    (fault : FaultProcessor) (values : Nat → Nat → NvU64) :
    ∃ values', state.recordFaultCounters ids cpuDefault v trackerCounters fault values =
      .ok values' := by
  cases fault with
  | cpu preferredGpu =>
      rw [recordFaultCounters, hasserts]
      dsimp only [bind, Except.bind]
      split_ifs
      · rw [hc.uvmToolsIncCounter_eq cpuDefault v trackerCounters ids.cpuPageFaultCount_lt]
        cases preferredGpu
        · exact ⟨_, rfl⟩
        · exact ⟨_, hc.uvmToolsIncCounter_eq cpuDefault v trackerCounters
            ids.cpuPageFaultCount_lt _ _ _⟩
      · exact ⟨_, rfl⟩
  | gpu gpuUuid =>
      rw [recordFaultCounters, hasserts]
      dsimp only [bind, Except.bind]
      split_ifs with henabled
      · exact ⟨_, hc.uvmToolsIncCounter_eq cpuDefault v trackerCounters
          (hc.lt_totalCounters henabled) _ _ _⟩
      · exact ⟨_, rfl⟩

/-- Over a consistent registry, `uvm_tools_record_fault` on a collector that needs it passes
its assertions and returns. The counters change as its counter half says. Each queue of a
tracker of the collector subscribed to the fault's event type, with its cursors in range,
takes the fault's entries in the order they were built, as many as its `C - 1 - stored` free
slots hold, and counts each of the others as dropped; every other queue is unchanged. -/
theorem Consistent.uvmToolsRecordFault_delivers (hc : state.Consistent ids) {v : Nat}
    (hneeded : toolsIsFaultCallbackNeeded ids (state.vaSpaces v) = true)
    (cpuDefault : NvProcessorUuid) (trackerCounters : Nat → UvmToolsCounter)
    (fault : UvmPerfFaultData) (now : NvU64) (pid threadId : Nat)
    (queues : Nat → UvmToolsQueue FaultEntry) (values : Nat → Nat → NvU64) :
    ∃ queues' values', state.uvmToolsRecordFault ids cpuDefault v trackerCounters fault now pid
        threadId queues values = .ok (queues', values') ∧
      state.recordFaultCounters ids cpuDefault v trackerCounters fault.processor values =
        .ok values' ∧
      ∀ t, (SubscribedQueue ids state v (fault.eventType ids) t →
          RingBound (queues t).capacity → CursorsInRange (queues t) →
          (queues' t).window = (queues t).window ++ (fault.entries ids now pid threadId).take
            ((queues t).capacity - 1 - (queues t).stored) ∧
          (queues' t).control.dropped (fault.eventType ids) =
            (queues t).control.dropped (fault.eventType ids) + BitVec.ofNat 64
              ((fault.entries ids now pid threadId).length -
                ((queues t).capacity - 1 - (queues t).stored))) ∧
        (¬SubscribedQueue ids state v (fault.eventType ids) t → queues' t = queues t) := by
  have hasserts := hc.uvmToolsRecordFaultAsserts_of_needed hneeded
  obtain ⟨values', hvalues⟩ := hc.recordFaultCounters_ok hasserts cpuDefault trackerCounters
    fault.processor values
  refine ⟨fun t => if SubscribedQueue ids state v (fault.eventType ids) t then
      (fault.entries ids now pid threadId).foldl (fun queue entry => (enqueueEvent entry queue).1)
        (queues t) else queues t, values', ?_, hvalues,
    fun t => ⟨fun hsub hring hq => ?_, fun hsub => if_neg hsub⟩⟩
  · rw [uvmToolsRecordFault, hasserts]
    simp only [bind, Except.bind, hc.recordFaultEvents_eq, hvalues]
    rfl
  · simp only [if_pos hsub]
    refine ⟨window_foldl_enqueueEvent hring hq _, ?_⟩
    have hdropped := congrArg (fun fifo => fifo.dropped (fault.eventType ids))
      (toFifo_foldl_enqueueEvent (fault.entries ids now pid threadId) hring hq)
    have hlength : (queues t).toFifo.items.length = (queues t).stored :=
      UvmToolsQueue.length_window _
    have hcount : ((fault.entries ids now pid threadId).drop
        ((queues t).capacity - 1 - (queues t).stored)).countP
          (fun entry => UvmEventEntry.eventType entry = fault.eventType ids) =
        (fault.entries ids now pid threadId).length -
          ((queues t).capacity - 1 - (queues t).stored) := by
      rw [List.countP_eq_length.mpr fun entry hentry => decide_eq_true
        (UvmPerfFaultData.eventType_of_mem_entries (List.mem_of_mem_drop hentry)),
        List.length_drop]
    dsimp only at hdropped
    rw [BoundedFifo.dropped_foldl_push _
      (hlength ▸ Nat.le_sub_one_of_lt (stored_lt_capacity hring)), hlength, hcount] at hdropped
    exact hdropped

end Registry

/-- A queue tracker of collector 0 is created and attached to `UvmEventTypeGpuFault`, every
registration succeeding. -/
def gpuFaultSubscribedEvents : List RegistryEvent :=
  [.created 0 true, .attached 0 (BitVec.twoPow 64 sampleIds.gpuFault) .ok .ok .ok]

/-- The registry after `gpuFaultSubscribedEvents`. -/
def gpuFaultSubscribed : Registry :=
  let created := initialRegistry.create 0 true
  let inserted := created.insertion sampleIds 0 ⟨0, true, 0⟩ (BitVec.twoPow 64 sampleIds.gpuFault)
  created.resubscribed sampleIds 0 0 (some ⟨0, true, inserted.subscribed⟩) true inserted.lists
    inserted.counts

theorem gpuFaultSubscribed_run :
    Steps (RegistryStep sampleIds) initialRegistry gpuFaultSubscribedEvents gpuFaultSubscribed :=
  (Steps.single (RegistryStep.create initialRegistry 0 true (by decide))).step
    (RegistryStep.attach rfl (Registry.attach_of_callbacks_ok
      (toolsUpdatePerfEventsCallbacks_eq_ok (fun _ => .inr rfl) (fun _ => .inr rfl))))

/-- A replayable write fault raised on a GPC. -/
def sampleFaultEntry : UvmFaultBufferEntry :=
  ⟨.write, .write, .gpc, true, 3, 0, 5, 0x1000, 9⟩

/-- A GPU fault with one merged instance, reported to the queue tracker of
`gpuFaultSubscribed` through a fresh ring of four slots. -/
theorem uvmToolsRecordFault_delivers_merged_instance :
    toolsIsFaultCallbackNeeded sampleIds (gpuFaultSubscribed.vaSpaces 0) = true ∧
    ∃ queues' values', gpuFaultSubscribed.uvmToolsRecordFault sampleIds 0 0 (fun _ => ⟨true, 0⟩)
        (.gpu 1 1 sampleFaultEntry [sampleFaultEntry] 7) 0 0 0 (fun _ => freshQueue 4 1)
        (fun _ _ => 0) = .ok (queues', values') ∧
      gpuFaultSubscribed.recordFaultCounters sampleIds 0 0 (fun _ => ⟨true, 0⟩)
        (UvmPerfFaultData.gpu 1 1 sampleFaultEntry [sampleFaultEntry] 7).processor
        (fun _ _ => 0) = .ok values' ∧
      ∀ t, (Registry.SubscribedQueue sampleIds gpuFaultSubscribed 0
            ((UvmPerfFaultData.gpu 1 1 sampleFaultEntry [sampleFaultEntry] 7).eventType sampleIds) t →
          RingBound (freshQueue 4 1 : UvmToolsQueue FaultEntry).capacity →
          CursorsInRange (freshQueue 4 1 : UvmToolsQueue FaultEntry) →
          (queues' t).window = (freshQueue 4 1 : UvmToolsQueue FaultEntry).window ++
            ((UvmPerfFaultData.gpu 1 1 sampleFaultEntry [sampleFaultEntry] 7).entries sampleIds 0 0
              0).take ((freshQueue 4 1 : UvmToolsQueue FaultEntry).capacity - 1 -
                (freshQueue 4 1 : UvmToolsQueue FaultEntry).stored) ∧
          (queues' t).control.dropped
              ((UvmPerfFaultData.gpu 1 1 sampleFaultEntry [sampleFaultEntry] 7).eventType
                sampleIds) =
            (freshQueue 4 1 : UvmToolsQueue FaultEntry).control.dropped
                ((UvmPerfFaultData.gpu 1 1 sampleFaultEntry [sampleFaultEntry] 7).eventType
                  sampleIds) +
              BitVec.ofNat 64
                (((UvmPerfFaultData.gpu 1 1 sampleFaultEntry [sampleFaultEntry] 7).entries
                    sampleIds 0 0 0).length -
                  ((freshQueue 4 1 : UvmToolsQueue FaultEntry).capacity - 1 -
                    (freshQueue 4 1 : UvmToolsQueue FaultEntry).stored))) ∧
        (¬Registry.SubscribedQueue sampleIds gpuFaultSubscribed 0
            ((UvmPerfFaultData.gpu 1 1 sampleFaultEntry [sampleFaultEntry] 7).eventType sampleIds) t →
          queues' t = freshQueue 4 1) :=
  ⟨by decide, Registry.Consistent.uvmToolsRecordFault_delivers
    (reachable_consistent gpuFaultSubscribed_run) (by decide) _ _ _ _ _ _ _ _⟩

end UvmTools
