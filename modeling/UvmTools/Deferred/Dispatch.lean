import UvmTools.Deferred.Submit

/-!
# Completing and dispatching deferred records

When the channel code sees a push complete, it calls the push's callback on its record.
The callback reads the GPU timestamps the push wrote, drops the record's reference on its
channel and schedules the record on `g_tools_queue`. The queue's one worker then turns
the record into events, one per detail in append order, and frees the details and the
record. `record_migration_events` asserts that every detail moved a positive number of
bytes, so a batch holding a zero-byte detail stops the worker.
-/

namespace UvmTools

/-- The fields of `UvmEventMigrationInfo` the worker writes; the indices are the
`uvm_id_value` of the processor ids, kept as ids. -/
structure UvmEventMigrationInfo where
  srcIndex : UvmProcessorId
  dstIndex : UvmProcessorId
  address : NvU64
  migratedBytes : NvU64
  beginTimeStamp : NvU64
  endTimeStamp : NvU64
  rangeGroupId : NvU64
  beginTimeStampGpu : NvU64
  endTimeStampGpu : NvU64
  migrationCause : UvmEventMigrationCause
  deriving DecidableEq, Repr

/-- The fields of `UvmEventMapRemoteInfo` the worker writes. -/
structure UvmEventMapRemoteInfo where
  srcIndex : UvmProcessorId
  dstIndex : UvmProcessorId
  mapRemoteCause : Nat
  timeStamp : NvU64
  address : NvU64
  size : NvU64
  timeStampGpu : NvU64
  deriving DecidableEq, Repr

/-- The fields of `UvmEventGpuFaultReplayInfo` the worker writes. -/
structure UvmEventGpuFaultReplayInfo where
  gpuIndex : Nat
  batchId : NvU32
  clientType : UvmEventFaultClientType
  timeStamp : NvU64
  timeStampGpu : NvU64
  deriving DecidableEq, Repr

/-- The `eventData` of an entry the worker builds, one variant per event type. -/
inductive UvmEventData where
  | migration (info : UvmEventMigrationInfo)
  | mapRemote (info : UvmEventMapRemoteInfo)
  | gpuFaultReplay (info : UvmEventGpuFaultReplayInfo)
  deriving DecidableEq, Repr

/-- What the worker does that others can observe: the events it hands to
`uvm_tools_record_event` or `uvm_tools_broadcast_event`, and the memory it frees. -/
inductive WorkerAction where
  | recordEvent (vaSpace : Nat) (event : UvmEventData)
  | broadcastEvent (event : UvmEventData)
  | freeMigrationData (mig : MigrationData)
  | freeBlockMigrationData
  | freeReplayData
  | freeMapRemoteData (mapRemote : MapRemoteData)
  | freeBlockMapRemoteData
  deriving DecidableEq, Repr

/-! ## Completion -/

/-- What `on_block_migration_complete` writes into its record: the CPU end time, and the
GPU times read at the addresses the push wrote them to (`memory` is the GPU-written
memory at completion). -/
def BlockMigrationData.complete (now : NvU64) (memory : NvU64 → NvU64)
    (blockMig : BlockMigrationData) : BlockMigrationData :=
  { blockMig with
    endTimestampCpu := now
    startTimestampGpu := memory blockMig.startTimestampGpuAddr
    events := blockMig.events.map fun mig =>
      { mig with endTimestampGpu := memory mig.endTimestampGpuAddr } }

/-- What `on_replay_complete` writes into its record. -/
def ReplayData.complete (memory : NvU64 → NvU64) (replay : ReplayData) : ReplayData :=
  { replay with timestampGpu := memory replay.timestampGpuAddr }

/-- What `on_map_remote_complete` writes into its record. -/
def BlockMapRemoteData.complete (memory : NvU64 → NvU64)
    (blockMapRemote : BlockMapRemoteData) : BlockMapRemoteData :=
  { blockMapRemote with
    events := blockMapRemote.events.map fun mapRemote =>
      { mapRemote with timestampGpu := memory mapRemote.timestampGpuAddr } }

/-- The common end of the three callbacks, under `g_tools_channel_list_lock`: drop the
record's reference on its channel and schedule the record on `g_tools_queue`. -/
def scheduleCompleted (record : OnCompleteData) (channels : ToolsChannels)
    (queue : List OnCompleteData) : Except Fault (ToolsChannels × List OnCompleteData) :=
  match channels.removePendingEventForChannel record.channel with
  | .ok channels => .ok (channels, queue ++ [record])
  | .error fault => .error fault

/-- `on_block_migration_complete`. -/
def onBlockMigrationComplete (now : NvU64) (memory : NvU64 → NvU64)
    (blockMig : BlockMigrationData) (channels : ToolsChannels) (queue : List OnCompleteData) :
    Except Fault (ToolsChannels × List OnCompleteData) :=
  scheduleCompleted (.blockMigration (blockMig.complete now memory)) channels queue

/-- `on_replay_complete`. -/
def onReplayComplete (memory : NvU64 → NvU64) (replay : ReplayData) (channels : ToolsChannels)
    (queue : List OnCompleteData) : Except Fault (ToolsChannels × List OnCompleteData) :=
  scheduleCompleted (.replay (replay.complete memory)) channels queue

/-- `on_map_remote_complete`: only GPU mappings use the deferred path, which it asserts. -/
def onMapRemoteComplete (memory : NvU64 → NvU64) (blockMapRemote : BlockMapRemoteData)
    (channels : ToolsChannels) (queue : List OnCompleteData) :
    Except Fault (ToolsChannels × List OnCompleteData) :=
  if blockMapRemote.src.isGpu then
    scheduleCompleted (.blockMapRemote (blockMapRemote.complete memory)) channels queue
  else .error .assertion

/-- Modelled from the spec: the completion signal calls the push's `on_complete` on its
`on_complete_data`, which the callback casts to its own record type. -/
def completePush (now : NvU64) (memory : NvU64 → NvU64) (push : UvmPush)
    (channels : ToolsChannels) (queue : List OnCompleteData) :
    Except Fault (ToolsChannels × List OnCompleteData) :=
  match push.onComplete, push.onCompleteData with
  | none, _ => .ok (channels, queue)
  | some _, none => .error .nullRecord
  | some .onBlockMigrationComplete, some (.blockMigration blockMig) =>
      onBlockMigrationComplete now memory blockMig channels queue
  | some .onReplayComplete, some (.replay replay) => onReplayComplete memory replay channels queue
  | some .onMapRemoteComplete, some (.blockMapRemote blockMapRemote) =>
      onMapRemoteComplete memory blockMapRemote channels queue
  | some _, some _ => .error .reinterpretedRecord

/-- What the callback of a record's kind writes into it at completion. -/
def OnCompleteData.complete (now : NvU64) (memory : NvU64 → NvU64) :
    OnCompleteData → OnCompleteData
  | .blockMigration data => .blockMigration (data.complete now memory)
  | .replay data => .replay (data.complete memory)
  | .blockMapRemote data => .blockMapRemote (data.complete memory)

@[simp] theorem OnCompleteData.channel_complete (now : NvU64) (memory : NvU64 → NvU64)
    (data : OnCompleteData) : (data.complete now memory).channel = data.channel := by
  cases data <;> rfl

/-- On a well-formed push, completion schedules the push's record, if it holds one. -/
theorem completePush_eq {push : UvmPush} (hwf : push.WellFormed) (now : NvU64)
    (memory : NvU64 → NvU64) (channels : ToolsChannels) (queue : List OnCompleteData) :
    completePush now memory push channels queue =
      match push.onCompleteData with
      | none => .ok (channels, queue)
      | some data => scheduleCompleted (data.complete now memory) channels queue := by
  obtain ⟨hcallback, hcompletable⟩ := hwf
  cases hdata : push.onCompleteData with
  | none => simp [completePush, hcallback, hdata]
  | some data =>
      have hgpu := hcompletable data hdata
      cases data <;>
        simp_all [completePush, OnCompleteData.callback, OnCompleteData.complete,
          OnCompleteData.Completable, onBlockMigrationComplete, onReplayComplete,
              onMapRemoteComplete]

/-! ## The worker -/

/-- The fields `record_migration_events` sets for each detail, over the entry it reuses. -/
def UvmEventMigrationInfo.withDetail (info : UvmEventMigrationInfo) (mig : MigrationData)
    (gpuTimestamp : NvU64) : UvmEventMigrationInfo :=
  { info with
    address := mig.address
    migratedBytes := mig.bytes
    beginTimeStampGpu := gpuTimestamp
    endTimeStampGpu := mig.endTimestampGpu
    migrationCause := mig.cause }

/-- The loop of `record_migration_events` over the details: `info` is the entry as the
previous iteration left it, `gpuTimestamp` the GPU time the next detail begins at. Each
detail is unlinked as it is read, so the loop consumes the list and the
`list_empty` assertion after it always holds. -/
def recordMigrationEventsLoop (vaSpace : Nat) :
    UvmEventMigrationInfo → NvU64 → List MigrationData → Except Fault (List WorkerAction)
  | _, _, [] => .ok []
  | info, gpuTimestamp, mig :: rest =>
      if 0 < mig.bytes then
        let info := info.withDetail mig gpuTimestamp
        match recordMigrationEventsLoop vaSpace info mig.endTimestampGpu rest with
        | .ok actions =>
            .ok (.freeMigrationData mig :: .recordEvent vaSpace (.migration info) :: actions)
        | .error fault => .error fault
      else .error .assertion

/-- `record_migration_events`: the entry is zeroed, given the batch's constant fields, and
reused for every detail; the record is freed last. -/
def recordMigrationEvents (blockMig : BlockMigrationData) : Except Fault (List WorkerAction) :=
  let info : UvmEventMigrationInfo :=
    { srcIndex := blockMig.src
      dstIndex := blockMig.dst
      beginTimeStamp := blockMig.startTimestampCpu
      endTimeStamp := blockMig.endTimestampCpu
      rangeGroupId := blockMig.rangeGroupId
      address := 0
      migratedBytes := 0
      beginTimeStampGpu := 0
      endTimeStampGpu := 0
      migrationCause := .invalid }
  match recordMigrationEventsLoop blockMig.vaSpace info blockMig.startTimestampGpu
      blockMig.events with
  | .ok actions => .ok (actions ++ [.freeBlockMigrationData])
  | .error fault => .error fault

/-- `record_replay_events`, through `record_replay_event_helper`. -/
def recordReplayEvents (replay : ReplayData) : List WorkerAction :=
  [.broadcastEvent (.gpuFaultReplay
      { gpuIndex := replay.gpuId
        batchId := replay.batchId
        clientType := gHalToToolsFaultClientTypeTable replay.clientType
        timeStamp := replay.timestamp
        timeStampGpu := replay.timestampGpu }),
    .freeReplayData]

/-- The loop of `record_map_remote_events` over the details, over the entry it reuses. -/
def recordMapRemoteEventsLoop (vaSpace : Nat) :
    UvmEventMapRemoteInfo → List MapRemoteData → List WorkerAction
  | _, [] => []
  | info, mapRemote :: rest =>
      let info := { info with
        address := mapRemote.address
        size := mapRemote.size
        timeStampGpu := mapRemote.timestampGpu }
      .freeMapRemoteData mapRemote :: .recordEvent vaSpace (.mapRemote info) ::
        recordMapRemoteEventsLoop vaSpace info rest

/-- `record_map_remote_events`. -/
def recordMapRemoteEvents (blockMapRemote : BlockMapRemoteData) : List WorkerAction :=
  let info : UvmEventMapRemoteInfo :=
    { srcIndex := blockMapRemote.src
      dstIndex := blockMapRemote.dst
      mapRemoteCause := blockMapRemote.cause
      timeStamp := blockMapRemote.timestamp
      address := 0
      size := 0
      timeStampGpu := 0 }
  recordMapRemoteEventsLoop blockMapRemote.vaSpace info blockMapRemote.events ++
    [.freeBlockMapRemoteData]

/-- The function a scheduled record was queued with, as the worker runs it. -/
def runQueueItem : OnCompleteData → Except Fault (List WorkerAction)
  | .blockMigration blockMig => recordMigrationEvents blockMig
  | .replay replay => .ok (recordReplayEvents replay)
  | .blockMapRemote blockMapRemote => .ok (recordMapRemoteEvents blockMapRemote)

/-! ## What completion and dispatch do -/

/-- A completed record is scheduled whenever its channel still counts it. -/
theorem scheduleCompleted_eq_ok (record : OnCompleteData) (channels : ToolsChannels)
    (queue : List OnCompleteData) (hpos : 0 < channels.pendingEventCount record.channel) :
    ∃ channels', scheduleCompleted record channels queue = .ok (channels', queue ++ [record]) := by
  simp [scheduleCompleted, ToolsChannels.removePendingEventForChannel_eq_ok _ _ hpos]

@[simp] theorem withDetail_withDetail (info : UvmEventMigrationInfo) (mig mig' : MigrationData)
    (gpuTimestamp gpuTimestamp' : NvU64) :
    (info.withDetail mig gpuTimestamp).withDetail mig' gpuTimestamp' =
      info.withDetail mig' gpuTimestamp' := rfl

/-- When every detail moved bytes, the migration loop frees each detail and records its
event, in order, each event beginning at the GPU end time of the detail before it. -/
theorem recordMigrationEventsLoop_eq (vaSpace : Nat) {events : List MigrationData}
    (hbytes : ∀ mig ∈ events, 0 < mig.bytes) (info : UvmEventMigrationInfo) (gpuTimestamp : NvU64) :
    recordMigrationEventsLoop vaSpace info gpuTimestamp events =
      .ok ((events.zip (gpuTimestamp :: events.map (·.endTimestampGpu))).flatMap
        fun (mig, gpuBegin) =>
          [.freeMigrationData mig, .recordEvent vaSpace
              (.migration (info.withDetail mig gpuBegin))]) := by
  induction events generalizing info gpuTimestamp with
  | nil => rfl
  | cons mig rest inductionHypothesis =>
      simp only [List.mem_cons, forall_eq_or_imp] at hbytes
      rw [recordMigrationEventsLoop, if_pos hbytes.1]
      simp [inductionHypothesis hbytes.2]

/-- The map-remote loop frees each detail and records its event, in order. -/
theorem recordMapRemoteEventsLoop_eq (vaSpace : Nat) (info : UvmEventMapRemoteInfo)
    (events : List MapRemoteData) :
    recordMapRemoteEventsLoop vaSpace info events = events.flatMap fun mapRemote =>
      [.freeMapRemoteData mapRemote, .recordEvent vaSpace (.mapRemote { info with
        address := mapRemote.address, size := mapRemote.size,
            timeStampGpu := mapRemote.timestampGpu })] := by
  induction events generalizing info with
  | nil => rfl
  | cons mapRemote rest inductionHypothesis =>
      simp [recordMapRemoteEventsLoop, inductionHypothesis]

/-! ## The deferred round trip -/

/-- What a completed migration batch should give: for each detail in append order, the
detail freed and an event with the detail's address, byte count and cause, the batch's
CPU begin and end times, as GPU end time the value read at the detail's timestamp address,
and as GPU begin time the GPU end time of the detail before it (the batch's GPU start time
for the first); then the record freed. -/
def promisedMigrationActions (now : NvU64) (memory : NvU64 → NvU64)
    (blockMig : BlockMigrationData) : List WorkerAction :=
  let gpuEnd (mig : MigrationData) := memory mig.endTimestampGpuAddr
  let gpuBegins := memory blockMig.startTimestampGpuAddr :: blockMig.events.map gpuEnd
  ((blockMig.events.zip gpuBegins).flatMap fun (mig, gpuBegin) =>
    [.freeMigrationData { mig with endTimestampGpu := gpuEnd mig },
      .recordEvent blockMig.vaSpace (.migration
        { srcIndex := blockMig.src
          dstIndex := blockMig.dst
          address := mig.address
          migratedBytes := mig.bytes
          beginTimeStamp := blockMig.startTimestampCpu
          endTimeStamp := now
          rangeGroupId := blockMig.rangeGroupId
          beginTimeStampGpu := gpuBegin
          endTimeStampGpu := gpuEnd mig
          migrationCause := mig.cause })]) ++
  [.freeBlockMigrationData]

/-- What a completed map-remote batch should give: for each detail in append order, the
detail freed and an event with the detail's address and size, the GPU time read at its
timestamp address, and the batch's processors, cause and CPU time; then the record freed. -/
def promisedMapRemoteActions (memory : NvU64 → NvU64) (blockMapRemote : BlockMapRemoteData) :
    List WorkerAction :=
  (blockMapRemote.events.flatMap fun mapRemote =>
    [.freeMapRemoteData { mapRemote with timestampGpu := memory mapRemote.timestampGpuAddr },
      .recordEvent blockMapRemote.vaSpace (.mapRemote
        { srcIndex := blockMapRemote.src
          dstIndex := blockMapRemote.dst
          mapRemoteCause := blockMapRemote.cause
          timeStamp := blockMapRemote.timestamp
          address := mapRemote.address
          size := mapRemote.size
          timeStampGpu := memory mapRemote.timestampGpuAddr })]) ++
  [.freeBlockMapRemoteData]

theorem recordMigrationEvents_complete (now : NvU64) (memory : NvU64 → NvU64)
    {blockMig : BlockMigrationData} (hbytes : ∀ mig ∈ blockMig.events, 0 < mig.bytes) :
    recordMigrationEvents (blockMig.complete now memory) =
      .ok (promisedMigrationActions now memory blockMig) := by
  have hcompleted : ∀ mig ∈ (blockMig.complete now memory).events, 0 < mig.bytes := by
    simpa [BlockMigrationData.complete] using hbytes
  simp only [recordMigrationEvents, recordMigrationEventsLoop_eq _ hcompleted]
  simp [promisedMigrationActions, BlockMigrationData.complete, List.zip_map_left,
    List.flatMap_map, UvmEventMigrationInfo.withDetail, Function.comp_def]

theorem recordMapRemoteEvents_complete (memory : NvU64 → NvU64)
    (blockMapRemote : BlockMapRemoteData) :
    recordMapRemoteEvents (blockMapRemote.complete memory) =
      promisedMapRemoteActions memory blockMapRemote := by
  simp [recordMapRemoteEvents, recordMapRemoteEventsLoop_eq, promisedMapRemoteActions,
    BlockMapRemoteData.complete, List.flatMap_map]

/-- The round trip of a migration batch whose details pass `admissible`: a record attached
by `uvm_tools_record_block_migration_begin` on push `p`, details appended by
`uvm_tools_record_migration` calls on `p`, the push's completion at `now` with GPU memory
`memory`, and the worker's run on the scheduled record give exactly the promised actions. -/
def MigrationRoundTrip (admissible : RecordMigration → Prop) : Prop :=
  ∀ (table : PushTable) (p : Nat) (push : UvmPush) (begin : BlockMigrationBegin)
    (migrations : List RecordMigration) (now : NvU64) (memory : NvU64 → NvU64)
    (queue : List OnCompleteData),
    table.pushes[p]? = some push → push.onComplete = none → push.onCompleteData = none →
    begin.Attaches → (∀ call ∈ migrations, call.Appends ∧ admissible call) →
    let blockMig := { begin.blockMigration push.channel with
      events := migrations.map RecordMigration.detail }
    let held := { push with onComplete := some .onBlockMigrationComplete
                            onCompleteData := some (.blockMigration blockMig) }
    ∃ final channels,
      runCalls (.blockMigrationBegin p begin :: migrations.map (.recordMigration p)) table =
        .ok final ∧ final.pushes[p]? = some held ∧
      completePush now memory held final.channels queue =
        .ok (channels, queue ++ [.blockMigration (blockMig.complete now memory)]) ∧
      runQueueItem (.blockMigration (blockMig.complete now memory)) =
        .ok (promisedMigrationActions now memory blockMig)

/-- The round trip of a map-remote batch: a record attached by the first GPU-side
`uvm_tools_record_map_remote` call on push `p`, the detail of every call whose detail
allocation succeeds appended (none at all if every one fails), the push's completion with GPU
memory `memory`, and the worker's run on the scheduled record give exactly the promised
actions. -/
def MapRemoteRoundTrip : Prop :=
  ∀ (table : PushTable) (p : Nat) (push : UvmPush) (first : RecordMapRemote)
    (more : List RecordMapRemote) (now : NvU64) (memory : NvU64 → NvU64)
    (queue : List OnCompleteData),
    table.pushes[p]? = some push → push.onComplete = none → push.onCompleteData = none →
    first.recordAllocated = true → (∀ call ∈ first :: more, call.ReachesAppend) →
    let blockMapRemote := { first.blockMapRemote push.channel with
      events := (first :: more).flatMap RecordMapRemote.appended }
    let held := { push with onComplete := some .onMapRemoteComplete
                            onCompleteData := some (.blockMapRemote blockMapRemote) }
    ∃ final channels,
      runCalls ((first :: more).map (.recordMapRemote p)) table = .ok final ∧
      final.pushes[p]? = some held ∧
      completePush now memory held final.channels queue =
        .ok (channels, queue ++ [.blockMapRemote (blockMapRemote.complete memory)]) ∧
      runQueueItem (.blockMapRemote (blockMapRemote.complete memory)) =
        .ok (promisedMapRemoteActions memory blockMapRemote)

/-- Both deferred round trips, for migration details that pass `admissible`. -/
def DeferredRoundTrip (admissible : RecordMigration → Prop) : Prop :=
  MigrationRoundTrip admissible ∧ MapRemoteRoundTrip

/-- A migration appended with a byte count of zero. -/
def zeroByteMigration : RecordMigration :=
  { address := 0, bytes := 0, cause := .apiMigrate, toolsEnabled := true, callbackNeeded := true
    migrationEnabled := true, allocated := true, timestampAddr := 72 }

/-- A batch holding one zero-byte migration: completion schedules it, and the worker's
`UVM_ASSERT(mig->bytes > 0)` fails before any event is recorded. -/
theorem zero_byte_migration_fails_worker : ¬ DeferredRoundTrip fun _ => True := by
  rintro ⟨migration, -⟩
  obtain ⟨-, -, -, -, -, hworker⟩ := migration onePushTable 0 (UvmPush.fresh 0)
    sampleBlockMigrationBegin [zeroByteMigration] 0 (fun _ => 0) [] rfl rfl rfl
    ⟨by decide, rfl, rfl, rfl⟩ (by simp [RecordMigration.Appends, zeroByteMigration])
  change Except.error Fault.assertion = _ at hworker
  cases hworker

theorem migrationRoundTrip_of_bytes : MigrationRoundTrip fun call => 0 < call.bytes := by
  intro table p push begin migrations now memory queue hpush hnone hdata hbegin hcalls blockMig held
  have hlength := (List.getElem?_eq_some_iff.mp hpush).1
  let attached : UvmPush :=
    { push with
      onComplete := some .onBlockMigrationComplete
      onCompleteData := some (.blockMigration (begin.blockMigration push.channel)) }
  have happly : (SubmitCall.blockMigrationBegin p begin).apply table =
      .ok ⟨table.channels.addPendingEventForChannel push.channel, table.pushes.set p attached⟩ := by
    simp [SubmitCall.apply, SubmitCall.run, SubmitCall.push, hpush,
      uvmToolsRecordBlockMigrationBegin_attaches hbegin hnone hdata, attached]
  have hdetails := @runCalls_recordMigration attached
    ⟨table.channels.addPendingEventForChannel push.channel, table.pushes.set p attached⟩ p
    _ (List.getElem?_set_self hlength) rfl rfl migrations fun call hcall => (hcalls call hcall).1
  obtain ⟨channels, hscheduled⟩ := scheduleCompleted_eq_ok
    (.blockMigration (blockMig.complete now memory))
    (table.channels.addPendingEventForChannel push.channel) queue
    (by simp [OnCompleteData.channel, BlockMigrationData.complete, blockMig])
  refine ⟨_, channels, by simp only [runCalls, happly]; exact hdetails,
    by simp [attached, held, blockMig, hlength], ?_, ?_⟩
  · simpa [completePush, onBlockMigrationComplete, scheduleCompleted, BlockMigrationData.complete,
      BlockMigrationBegin.blockMigration] using hscheduled
  · refine recordMigrationEvents_complete now memory fun mig hmig => ?_
    obtain ⟨call, hcall, rfl⟩ := List.mem_map.mp hmig
    exact (hcalls call hcall).2

theorem mapRemoteRoundTrip : MapRemoteRoundTrip := by
  intro table p push first more now memory queue hpush hnone hdata hallocated hcalls blockMapRemote
    held
  have hlength := (List.getElem?_eq_some_iff.mp hpush).1
  simp only [List.mem_cons, forall_eq_or_imp] at hcalls
  let created : UvmPush :=
    { push with
      onComplete := some .onMapRemoteComplete
      onCompleteData := some (.blockMapRemote
        { first.blockMapRemote push.channel with events := first.appended }) }
  have happly : (SubmitCall.recordMapRemote p first).apply table =
      .ok ⟨table.channels.addPendingEventForChannel push.channel, table.pushes.set p created⟩ := by
    simp [SubmitCall.apply, SubmitCall.run, SubmitCall.push, hpush,
      uvmToolsRecordMapRemote_creates hcalls.1 hallocated hnone hdata, created]
  have hdetails := @runCalls_recordMapRemote created
    ⟨table.channels.addPendingEventForChannel push.channel, table.pushes.set p created⟩ p
    _ (List.getElem?_set_self hlength) rfl rfl more hcalls.2
  obtain ⟨channels, hscheduled⟩ := scheduleCompleted_eq_ok
    (.blockMapRemote (blockMapRemote.complete memory))
    (table.channels.addPendingEventForChannel push.channel) queue
    (by simp [OnCompleteData.channel, BlockMapRemoteData.complete, blockMapRemote])
  have hgpu : first.processor.isGpu = true := hcalls.1.2.2.2.2.2
  refine ⟨_, channels, by simp only [List.map_cons, runCalls, happly]; exact hdetails,
    by simp [created, held, blockMapRemote, hlength], ?_, congrArg Except.ok
        (recordMapRemoteEvents_complete memory _)⟩
  simpa [completePush, onMapRemoteComplete, scheduleCompleted, BlockMapRemoteData.complete,
    RecordMapRemote.blockMapRemote, hgpu] using hscheduled

/-- Every migration batch whose details each moved bytes, and every map-remote batch, goes
through completion and the worker exactly as promised: one event per detail in append
order with the detail's own fields, the batch's fields and chained GPU times, each detail
and the record freed once, after it was last read. -/
theorem deferred_batches_round_trip : DeferredRoundTrip fun call => 0 < call.bytes :=
  ⟨migrationRoundTrip_of_bytes, mapRemoteRoundTrip⟩

end UvmTools
