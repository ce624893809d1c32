import UvmTools.Deferred.Records

/-!
# Submitting deferred records

Four calls attach records to a push or append details to the record it holds:
`uvm_tools_record_block_migration_begin` and `uvm_tools_broadcast_replay` assert that the
push holds no record and attach one; `uvm_tools_record_map_remote` on a GPU attaches one
on its first call and appends a detail on every call; `uvm_tools_record_migration`
appends a detail. The appending calls test only `on_complete != NULL`, never which
callback it is: a call of one kind on a push that holds a record of another writes its
detail through a cast into that record.
-/

namespace UvmTools

/-- The arguments of `uvm_tools_record_block_migration_begin`, with what the call reads
from its VA space, the allocator and the clock. `start` is represented by the range group
`uvm_range_group_range_find` finds for it. -/
structure BlockMigrationBegin where
  dstId : UvmProcessorId
  srcId : UvmProcessorId
  cause : UvmMakeResidentCause
  vaSpace : Nat
  /-- `va_space->tools.enabled`. -/
  toolsEnabled : Bool
  /-- `tools_is_event_enabled(va_space, UvmEventTypeMigration)`. -/
  migrationEnabled : Bool
  /-- The record allocation succeeds. -/
  allocated : Bool
  /-- `NV_GETTIME()`. -/
  now : NvU64
  /-- `uvm_push_timestamp(push)`. -/
  timestampAddr : NvU64
  /-- The id of the range group containing `start`, if one does. -/
  rangeGroup : Option NvU64
  deriving DecidableEq, Repr

/-- The arguments of `uvm_tools_record_migration` and what it reads. -/
structure RecordMigration where
  address : NvU64
  bytes : NvU64
  cause : UvmMakeResidentCause
  /-- `va_space->tools.enabled`, asserted. -/
  toolsEnabled : Bool
  /-- `tools_is_migration_callback_needed(va_space)`, asserted. -/
  callbackNeeded : Bool
  /-- `tools_is_event_enabled(va_space, UvmEventTypeMigration)`. -/
  migrationEnabled : Bool
  /-- The detail allocation succeeds. -/
  allocated : Bool
  /-- `uvm_push_timestamp(push)`. -/
  timestampAddr : NvU64
  deriving DecidableEq, Repr

/-- The arguments of `uvm_tools_broadcast_replay` and what it reads. -/
structure BroadcastReplay where
  gpuId : Nat
  batchId : NvU32
  clientType : UvmFaultClientType
  /-- `tools_is_event_enabled_in_any_va_space(UvmEventTypeGpuFaultReplay)`. -/
  replayEnabled : Bool
  /-- The record allocation succeeds. -/
  allocated : Bool
  /-- `NV_GETTIME()`. -/
  now : NvU64
  /-- `uvm_push_timestamp(push)`. -/
  timestampAddr : NvU64
  deriving DecidableEq, Repr

/-- The arguments of `uvm_tools_record_map_remote` and what it reads. -/
structure RecordMapRemote where
  processor : UvmProcessorId
  residency : UvmProcessorId
  /-- `UVM_ID_IS_VALID(processor)`. -/
  processorValid : Bool
  /-- `UVM_ID_IS_VALID(residency)`. -/
  residencyValid : Bool
  address : NvU64
  regionSize : NvU64
  cause : Nat
  vaSpace : Nat
  /-- `va_space->tools.enabled`. -/
  toolsEnabled : Bool
  /-- `tools_is_event_enabled(va_space, UvmEventTypeMapRemote)`. -/
  mapRemoteEnabled : Bool
  /-- The record allocation of a first call succeeds. -/
  recordAllocated : Bool
  /-- The detail allocation succeeds. -/
  detailAllocated : Bool
  /-- `NV_GETTIME()`. -/
  now : NvU64
  /-- `uvm_push_timestamp(push)`. -/
  timestampAddr : NvU64
  deriving DecidableEq, Repr

/-- The range group id a migration records: the one containing `start`, except during an
eviction, when the VA space lock is not held and no lookup is made. -/
def BlockMigrationBegin.rangeGroupId (call : BlockMigrationBegin) : NvU64 :=
  if call.cause ≠ .eviction then call.rangeGroup.getD uvmRangeGroupIdNone else uvmRangeGroupIdNone

/-- The record `uvm_tools_record_block_migration_begin` fills in for a push on `channel`.
The fields the allocation leaves unset (`end_timestamp_cpu`, `start_timestamp_gpu`) are
written by the completion before any read; the model starts them at 0. -/
def BlockMigrationBegin.blockMigration (call : BlockMigrationBegin) (channel : Nat) :
    BlockMigrationData where
  startTimestampGpuAddr := call.timestampAddr
  channel := channel
  startTimestampCpu := call.now
  dst := call.dstId
  src := call.srcId
  rangeGroupId := call.rangeGroupId
  vaSpace := call.vaSpace
  events := []
  endTimestampCpu := 0
  startTimestampGpu := 0

@[simp] theorem BlockMigrationBegin.events_blockMigration (call : BlockMigrationBegin)
    (channel : Nat) : (call.blockMigration channel).events = [] := rfl

@[simp] theorem BlockMigrationBegin.channel_blockMigration (call : BlockMigrationBegin)
    (channel : Nat) : (call.blockMigration channel).channel = channel := rfl

/-- `uvm_tools_record_block_migration_begin`. -/
def uvmToolsRecordBlockMigrationBegin (call : BlockMigrationBegin) (channels : ToolsChannels)
    (push : UvmPush) : Except Fault (ToolsChannels × UvmPush) :=
  if call.cause = .apiTools then .error .assertion
  else if !call.toolsEnabled || !call.migrationEnabled then .ok (channels, push)
  else if push.onComplete.isSome || push.onCompleteData.isSome then .error .assertion
  else if !call.allocated then .ok (channels, push)
  else
    let blockMig := call.blockMigration push.channel
    .ok (channels.addPendingEventForChannel blockMig.channel,
      { push with onComplete := some .onBlockMigrationComplete
                  onCompleteData := some (.blockMigration blockMig) })

/-- The detail `uvm_tools_record_migration` fills in. `end_timestamp_gpu` is written by
the completion; the model starts it at 0. -/
def RecordMigration.detail (call : RecordMigration) : MigrationData where
  address := call.address
  bytes := call.bytes
  endTimestampGpuAddr := call.timestampAddr
  cause := gMakeResidentToToolsMigrationCause call.cause
  endTimestampGpu := 0

/-- The tools-event part of `uvm_tools_record_migration`: a detail appended to the record
the push holds. The counter increments that follow it are left to the counter model. -/
def uvmToolsRecordMigration (call : RecordMigration) (channels : ToolsChannels) (push : UvmPush) :
    Except Fault (ToolsChannels × UvmPush) :=
  if !call.toolsEnabled || !call.callbackNeeded then .error .assertion
  else if !call.migrationEnabled || push.onComplete.isNone || !call.allocated then
    .ok (channels, push)
  else
    match push.onCompleteData with
    | some (.blockMigration blockMig) =>
        let blockMig := { blockMig with events := blockMig.events ++ [call.detail] }
        .ok (channels, { push with onCompleteData := some (.blockMigration blockMig) })
    | some _ => .error .reinterpretedRecord
    | none => .error .nullRecord

/-- The record `uvm_tools_broadcast_replay` fills in for a push on `channel`;
`timestamp_gpu` is written by the completion, and the model starts it at 0. -/
def BroadcastReplay.replay (call : BroadcastReplay) (channel : Nat) : ReplayData where
  timestampGpuAddr := call.timestampAddr
  gpuId := call.gpuId
  batchId := call.batchId
  clientType := call.clientType
  timestamp := call.now
  channel := channel
  timestampGpu := 0

/-- `uvm_tools_broadcast_replay`: the allocation comes before the assertion. -/
def uvmToolsBroadcastReplay (call : BroadcastReplay) (channels : ToolsChannels) (push : UvmPush) :
    Except Fault (ToolsChannels × UvmPush) :=
  if !call.replayEnabled || !call.allocated then .ok (channels, push)
  else if push.onComplete.isSome || push.onCompleteData.isSome then .error .assertion
  else
    let replay := call.replay push.channel
    .ok (channels.addPendingEventForChannel replay.channel,
      { push with onComplete := some .onReplayComplete, onCompleteData := some (.replay replay) })

/-- The detail a `uvm_tools_record_map_remote` call appends; `timestamp_gpu` is written by
the completion, and the model starts it at 0. -/
def RecordMapRemote.detail (call : RecordMapRemote) : MapRemoteData where
  address := call.address
  size := call.regionSize
  timestampGpuAddr := call.timestampAddr
  timestampGpu := 0

/-- The record the first GPU-side `uvm_tools_record_map_remote` call on a push on
`channel` fills in. -/
def RecordMapRemote.blockMapRemote (call : RecordMapRemote)
    (channel : Nat) : BlockMapRemoteData where
  src := call.processor
  dst := call.residency
  cause := call.cause
  timestamp := call.now
  vaSpace := call.vaSpace
  channel := channel
  events := []

@[simp] theorem RecordMapRemote.channel_blockMapRemote (call : RecordMapRemote) (channel : Nat) :
    (call.blockMapRemote channel).channel = channel := rfl

/-- The end of the GPU branch of `uvm_tools_record_map_remote`: append the call's detail
to the record the push holds, through a cast to `block_map_remote_data_t`. -/
def appendMapRemote (call : RecordMapRemote) (channels : ToolsChannels) (push : UvmPush) :
    Except Fault (ToolsChannels × UvmPush) :=
  match push.onCompleteData with
  | none => .error .assertion
  | some data =>
      if !call.detailAllocated then .ok (channels, push)
      else match data with
        | .blockMapRemote blockMapRemote =>
            .ok (channels, { push with onCompleteData := some (.blockMapRemote
              { blockMapRemote with events := blockMapRemote.events ++ [call.detail] }) })
        | _ => .error .reinterpretedRecord

/-- `uvm_tools_record_map_remote`. A CPU mapping records its event at once, which the
deferred model leaves out; a GPU mapping creates the push's record on the first call and
appends a detail on every call. -/
def uvmToolsRecordMapRemote (call : RecordMapRemote) (channels : ToolsChannels) (push : UvmPush) :
    Except Fault (ToolsChannels × UvmPush) :=
  if !call.processorValid || !call.residencyValid then .error .assertion
  else if call.cause = uvmEventMapRemoteCauseInvalid then .error .assertion
  else if !call.toolsEnabled || !call.mapRemoteEnabled then .ok (channels, push)
  else match call.processor with
    | .cpu => .ok (channels, push)
    | .gpu _ =>
        match push.onComplete with
        | none =>
            if push.onCompleteData.isSome then .error .assertion
            else if !call.recordAllocated then .ok (channels, push)
            else
              let blockMapRemote := call.blockMapRemote push.channel
              appendMapRemote call (channels.addPendingEventForChannel blockMapRemote.channel)
                { push with onComplete := some .onMapRemoteComplete
                            onCompleteData := some (.blockMapRemote blockMapRemote) }
        | some _ => appendMapRemote call channels push

/-- One submission call, naming its push by index. -/
inductive SubmitCall where
  | blockMigrationBegin (push : Nat) (call : BlockMigrationBegin)
  | recordMigration (push : Nat) (call : RecordMigration)
  | broadcastReplay (push : Nat) (call : BroadcastReplay)
  | recordMapRemote (push : Nat) (call : RecordMapRemote)
  deriving DecidableEq, Repr

namespace SubmitCall

/-- The push a call names. -/
def push : SubmitCall → Nat
  | .blockMigrationBegin push _ | .recordMigration push _ | .broadcastReplay push _
  | .recordMapRemote push _ => push

/-- The kind of record a call attaches or appends to, named by its callback. -/
def kind : SubmitCall → OnComplete
  | .blockMigrationBegin .. | .recordMigration .. => .onBlockMigrationComplete
  | .broadcastReplay .. => .onReplayComplete
  | .recordMapRemote .. => .onMapRemoteComplete

/-- Run a call on its push. -/
def run : SubmitCall → ToolsChannels → UvmPush → Except Fault (ToolsChannels × UvmPush)
  | .blockMigrationBegin _ call => uvmToolsRecordBlockMigrationBegin call
  | .recordMigration _ call => uvmToolsRecordMigration call
  | .broadcastReplay _ call => uvmToolsBroadcastReplay call
  | .recordMapRemote _ call => uvmToolsRecordMapRemote call

end SubmitCall

/-- What a successful submission call of a kind can do: nothing; attach a record of its
kind, which passes its callback's assertions, to a push that held none, and count it on
the record's channel; or append a detail to the push's record of its kind, which changes
nothing but the record's details. -/
inductive Submitted (kind : OnComplete) (channels : ToolsChannels) (push : UvmPush) :
    ToolsChannels × UvmPush → Prop where
  | unchanged : Submitted kind channels push (channels, push)
  | attached (data : OnCompleteData) (empty : push.onComplete = none ∧ push.onCompleteData = none)
      (ofKind : data.callback = kind) (completable : data.Completable) :
      Submitted kind channels push (channels.addPendingEventForChannel data.channel,
        { push with onComplete := some kind, onCompleteData := some data })
  | appended (data data' : OnCompleteData) (held : push.onCompleteData = some data)
      (ofKind : data.callback = kind) (same : data'.withoutEvents = data.withoutEvents) :
      Submitted kind channels push (channels, { push with onCompleteData := some data' })

section Outcomes

variable {channels : ToolsChannels} {push : UvmPush} {result : ToolsChannels × UvmPush}
  {fault : Fault}

/-- A push holds no record of a kind other than `kind`. -/
def UvmPush.NoOtherKind (kind : OnComplete) (push : UvmPush) : Prop :=
  push.onComplete = none ∨ push.onComplete = some kind

theorem uvmToolsRecordBlockMigrationBegin_ok {call : BlockMigrationBegin}
    (hrun : uvmToolsRecordBlockMigrationBegin call channels push = .ok result) :
    Submitted .onBlockMigrationComplete channels push result := by
  unfold uvmToolsRecordBlockMigrationBegin at hrun
  split_ifs at hrun with hcause henabled hheld hallocated <;> cases hrun
  · exact .unchanged
  · exact .unchanged
  · simp only [Bool.or_eq_true, Option.isSome_iff_exists, not_or, not_exists] at hheld
    exact .attached (.blockMigration _) ⟨Option.eq_none_iff_forall_not_mem.2 hheld.1,
      Option.eq_none_iff_forall_not_mem.2 hheld.2⟩ rfl trivial

theorem uvmToolsRecordMigration_ok {call : RecordMigration}
    (hrun : uvmToolsRecordMigration call channels push = .ok result) :
    Submitted .onBlockMigrationComplete channels push result := by
  unfold uvmToolsRecordMigration at hrun
  split_ifs at hrun <;> try cases hrun
  · exact .unchanged
  · split at hrun <;> cases hrun
    rename_i blockMig held
    exact .appended (.blockMigration blockMig) _ held rfl rfl

theorem uvmToolsBroadcastReplay_ok {call : BroadcastReplay}
    (hrun : uvmToolsBroadcastReplay call channels push = .ok result) :
    Submitted .onReplayComplete channels push result := by
  unfold uvmToolsBroadcastReplay at hrun
  split_ifs at hrun with henabled hheld <;> cases hrun
  · exact .unchanged
  · simp only [Bool.or_eq_true, Option.isSome_iff_exists, not_or, not_exists] at hheld
    exact .attached (.replay _) ⟨Option.eq_none_iff_forall_not_mem.2 hheld.1,
      Option.eq_none_iff_forall_not_mem.2 hheld.2⟩ rfl trivial

theorem appendMapRemote_ok {call : RecordMapRemote}
    (hrun : appendMapRemote call channels push = .ok result) :
    result = (channels, push) ∨ ∃ data data', push.onCompleteData = some data ∧
      result = (channels, { push with onCompleteData := some data' }) ∧
      data.callback = .onMapRemoteComplete ∧ data'.withoutEvents = data.withoutEvents := by
  unfold appendMapRemote at hrun
  split at hrun
  · cases hrun
  · split_ifs at hrun
    · cases hrun; exact .inl rfl
    · split at hrun <;> cases hrun
      rename_i blockMapRemote held
      exact .inr ⟨.blockMapRemote blockMapRemote, _, held, rfl, rfl, rfl⟩

theorem uvmToolsRecordMapRemote_ok {call : RecordMapRemote}
    (hrun : uvmToolsRecordMapRemote call channels push = .ok result) :
    Submitted .onMapRemoteComplete channels push result := by
  unfold uvmToolsRecordMapRemote at hrun
  split at hrun
  · cases hrun
  split at hrun
  · cases hrun
  split at hrun
  · cases hrun; exact .unchanged
  split at hrun
  · cases hrun; exact .unchanged
  rename_i index hgpu
  have hcompletable : ∀ data : OnCompleteData,
      data.withoutEvents = .blockMapRemote (call.blockMapRemote push.channel) →
        data.Completable := by
    intro data hsame
    rw [← OnCompleteData.completable_withoutEvents, hsame]
    simp [OnCompleteData.Completable, RecordMapRemote.blockMapRemote, hgpu, UvmProcessorId.isGpu]
  split at hrun
  · rename_i hnone
    split at hrun
    · cases hrun
    split at hrun
    · cases hrun; exact .unchanged
    rename_i hheld _
    have hempty : push.onComplete = none ∧ push.onCompleteData = none :=
        ⟨hnone, by simpa using hheld⟩
    rcases appendMapRemote_ok hrun with rfl | ⟨data, data', hdata, rfl, -, hsame⟩
    · exact .attached (.blockMapRemote _) hempty rfl (hcompletable _ rfl)
    · cases hdata
      have hchannel : data'.channel = push.channel := by
        rw [← OnCompleteData.channel_withoutEvents, hsame]; rfl
      have hkind : data'.callback = .onMapRemoteComplete := by
        rw [← OnCompleteData.callback_withoutEvents, hsame]; rfl
      have hattached := @Submitted.attached .onMapRemoteComplete channels push data' hempty hkind
        (hcompletable _ hsame)
      rw [hchannel] at hattached
      exact hattached
  · rcases appendMapRemote_ok hrun with rfl | ⟨data, data', hdata, rfl, hkind, hsame⟩
    · exact .unchanged
    · exact .appended data data' hdata hkind hsame

/-- Every successful submission call does what `Submitted` allows for its kind. -/
theorem SubmitCall.run_ok {call : SubmitCall} (hrun : call.run channels push = .ok result) :
    Submitted call.kind channels push result := by
  cases call with
  | blockMigrationBegin _ call => exact uvmToolsRecordBlockMigrationBegin_ok hrun
  | recordMigration _ call => exact uvmToolsRecordMigration_ok hrun
  | broadcastReplay _ call => exact uvmToolsBroadcastReplay_ok hrun
  | recordMapRemote _ call => exact uvmToolsRecordMapRemote_ok hrun

/-- A well-formed push whose callback is set and holds no record of another kind than
`kind` holds a record of that kind. -/
theorem UvmPush.WellFormed.record_of_kind {kind : OnComplete} (hwf : push.WellFormed)
    (hkind : push.NoOtherKind kind) (hset : push.onComplete ≠ none) :
    ∃ data, push.onCompleteData = some data ∧ data.callback = kind := by
  rcases hkind with hnone | hsome
  · exact absurd hnone hset
  · rw [hwf.callback] at hsome
    exact Option.map_eq_some'.mp hsome

theorem uvmToolsRecordBlockMigrationBegin_error {call : BlockMigrationBegin}
    (hrun : uvmToolsRecordBlockMigrationBegin call channels push = .error fault) :
    fault = .assertion := by
  unfold uvmToolsRecordBlockMigrationBegin at hrun
  split_ifs at hrun <;> cases hrun <;> rfl

theorem uvmToolsRecordMigration_error {call : RecordMigration}
    (hrun : uvmToolsRecordMigration call channels push = .error fault) (hwf : push.WellFormed)
    (hkind : push.NoOtherKind .onBlockMigrationComplete) : fault = .assertion := by
  unfold uvmToolsRecordMigration at hrun
  split_ifs at hrun with hasserted hskipped
  · cases hrun; rfl
  · simp only [Bool.or_eq_true, Bool.not_eq_true', Option.isNone_iff_eq_none, not_or] at hskipped
    obtain ⟨data, hdata, hcallback⟩ := hwf.record_of_kind hkind hskipped.1.2
    rw [hdata] at hrun
    cases data <;> cases hcallback
    cases hrun

theorem uvmToolsBroadcastReplay_error {call : BroadcastReplay}
    (hrun : uvmToolsBroadcastReplay call channels push = .error fault) : fault = .assertion := by
  unfold uvmToolsBroadcastReplay at hrun
  split_ifs at hrun
  cases hrun
  rfl

theorem appendMapRemote_error {call : RecordMapRemote}
    (hrun : appendMapRemote call channels push = .error fault)
    (hkind : ∀ data, push.onCompleteData = some data → data.callback = .onMapRemoteComplete) :
    fault = .assertion := by
  unfold appendMapRemote at hrun
  split at hrun
  · cases hrun; rfl
  · rename_i data hdata
    have hcallback := hkind data hdata
    split_ifs at hrun
    cases data <;> cases hcallback
    cases hrun

theorem uvmToolsRecordMapRemote_error {call : RecordMapRemote}
    (hrun : uvmToolsRecordMapRemote call channels push = .error fault) (hwf : push.WellFormed)
    (hkind : push.NoOtherKind .onMapRemoteComplete) : fault = .assertion := by
  unfold uvmToolsRecordMapRemote at hrun
  split at hrun
  · cases hrun; rfl
  split at hrun
  · cases hrun; rfl
  split at hrun
  · cases hrun
  split at hrun
  · cases hrun
  split at hrun
  · split_ifs at hrun
    · cases hrun; rfl
    · exact appendMapRemote_error hrun (by rintro _ ⟨⟩; rfl)
  · rename_i hset
    refine appendMapRemote_error hrun fun data hdata => ?_
    obtain ⟨data', hdata', hcallback⟩ := hwf.record_of_kind hkind (by simp [hset])
    rw [hdata] at hdata'
    cases hdata'
    exact hcallback

/-- A submission call on a well-formed push that holds no record of another kind than the
call's can fail only an assertion. -/
theorem SubmitCall.run_error {call : SubmitCall} (hrun : call.run channels push = .error fault)
    (hwf : push.WellFormed) (hkind : push.NoOtherKind call.kind) : fault = .assertion := by
  cases call with
  | blockMigrationBegin _ call => exact uvmToolsRecordBlockMigrationBegin_error hrun
  | recordMigration _ call => exact uvmToolsRecordMigration_error hrun hwf hkind
  | broadcastReplay _ call => exact uvmToolsBroadcastReplay_error hrun
  | recordMapRemote _ call => exact uvmToolsRecordMapRemote_error hrun hwf hkind

namespace Submitted

variable {kind : OnComplete}

/-- A submission adds one to the count of the channel of a record it attaches, and keeps
the channel of the push's record. -/
theorem count_eq (submitted : Submitted kind channels push result) (channel : Nat) :
    result.1.pendingEventCount channel + (if push.recordChannel = some channel then 1 else 0) =
      channels.pendingEventCount channel +
        (if result.2.recordChannel = some channel then 1 else 0) := by
  cases submitted with
  | unchanged => rfl
  | attached data empty =>
      simp [UvmPush.recordChannel, empty.2, eq_comm]
  | appended data data' held _ same =>
      have hchannel : data'.channel = data.channel := by
        rw [← OnCompleteData.channel_withoutEvents, same, OnCompleteData.channel_withoutEvents]
      simp [UvmPush.recordChannel, held, hchannel]

/-- A submission keeps a push well formed: it attaches a record with its own callback, or
appends to a record of its own kind. -/
theorem wellFormed (submitted : Submitted kind channels push result) (hwf : push.WellFormed) :
    result.2.WellFormed := by
  cases submitted with
  | unchanged => exact hwf
  | attached data _ ofKind completable =>
      refine ⟨by simp [ofKind], ?_⟩
      rintro _ ⟨⟩
      exact completable
  | appended data data' held _ same =>
      have hcallback : data'.callback = data.callback := by
        rw [← OnCompleteData.callback_withoutEvents, same, OnCompleteData.callback_withoutEvents]
      refine ⟨by simp [hwf.callback, held, hcallback], ?_⟩
      rintro _ ⟨⟩
      rw [← OnCompleteData.completable_withoutEvents, same,
          OnCompleteData.completable_withoutEvents]
      exact hwf.completable data held

/-- A submission of a kind leaves a push free of records of other kinds. -/
theorem noOtherKind (submitted : Submitted kind channels push result)
    (hkind : push.NoOtherKind kind) : result.2.NoOtherKind kind := by
  cases submitted with
  | unchanged => exact hkind
  | attached => exact .inr rfl
  | appended => exact hkind

/-- A submission never changes whether its push completed. -/
theorem completed_eq (submitted : Submitted kind channels push result) :
    result.2.completed = push.completed := by
  cases submitted <;> rfl

/-- A submission leaves the channels alone, or counts one new record on its channel. -/
theorem channels_eq (submitted : Submitted kind channels push result) :
    result.1 = channels ∨ push.recordChannel = none ∧
      ∃ channel, result.2.recordChannel = some channel ∧
        result.1 = channels.addPendingEventForChannel channel := by
  cases submitted with
  | unchanged => exact .inl rfl
  | attached data empty => exact .inr ⟨by simp [UvmPush.recordChannel, empty.2], _, rfl, rfl⟩
  | appended => exact .inl rfl

end Submitted

end Outcomes

/-- The pushes the submission calls act on, by index, and the channels. -/
structure PushTable where
  channels : ToolsChannels
  pushes : List UvmPush

/-- Run a call on the push it names; a call naming no push of the table does nothing. -/
def SubmitCall.apply (call : SubmitCall) (table : PushTable) : Except Fault PushTable :=
  match table.pushes[call.push]? with
  | none => .ok table
  | some push =>
      match call.run table.channels push with
      | .ok (channels, push) => .ok ⟨channels, table.pushes.set call.push push⟩
      | .error fault => .error fault

/-- Run calls one after another, up to the first fault. -/
def runCalls : List SubmitCall → PushTable → Except Fault PushTable
  | [], table => .ok table
  | call :: calls, table =>
      match call.apply table with
      | .ok table => runCalls calls table
      | .error fault => .error fault

/-- What submissions of one kind per push keep: every push is well formed and holds no
record of another kind than the one `kindOf` gives its index, and each channel's count
exceeds `base` by the number of records on it, so that no record was ever replaced. -/
structure RecordsKept (base : Nat → Nat) (kindOf : Nat → OnComplete) (table : PushTable) :
    Prop where
  wellFormed : ∀ (i : Nat) (push : UvmPush), table.pushes[i]? = some push →
    push.WellFormed ∧ push.NoOtherKind (kindOf i)
  counted : ∀ channel, table.channels.pendingEventCount channel =
    base channel + table.pushes.countP (fun push => push.recordChannel = some channel)

namespace RecordsKept

variable {base : Nat → Nat} {kindOf : Nat → OnComplete} {table : PushTable}

/-- One call of the kind of its push keeps the invariant, or fails an assertion. -/
theorem apply (hkept : RecordsKept base kindOf table) {call : SubmitCall}
    (hkind : call.kind = kindOf call.push) :
    call.apply table = .error .assertion ∨
      ∃ table', call.apply table = .ok table' ∧ RecordsKept base kindOf table' := by
  unfold SubmitCall.apply
  split
  · exact .inr ⟨table, rfl, hkept⟩
  rename_i push hpush
  obtain ⟨hwf, hother⟩ := hkept.wellFormed _ _ hpush
  rw [← hkind] at hother
  split
  · rename_i channels push' hrun
    have submitted := SubmitCall.run_ok hrun
    have hwf' := submitted.wellFormed hwf
    have hother' := submitted.noOtherKind hother
    refine .inr ⟨_, rfl, fun j other hother => ?_, fun channel => ?_⟩
    · by_cases hj : call.push = j
      · subst hj
        rw [List.getElem?_set_self (List.getElem?_eq_some_iff.mp hpush).1] at hother
        cases hother
        exact ⟨hwf', hkind ▸ hother'⟩
      · rw [List.getElem?_set_ne hj] at hother
        exact hkept.wellFormed j other hother
    · have hcount := submitted.count_eq channel
      have hset := countP_set_add hpush push' fun push => decide (push.recordChannel = some channel)
      have hold := hkept.counted channel
      simp only [decide_eq_true_eq] at hset hcount
      dsimp only at hcount ⊢
      omega
  · rename_i fault hrun
    exact .inl (by rw [SubmitCall.run_error hrun hwf hother])

/-- A sequence of calls, each of the kind of its push, keeps the invariant, or fails an
assertion. -/
theorem runCalls (hkept : RecordsKept base kindOf table) {calls : List SubmitCall}
    (hkind : ∀ call ∈ calls, call.kind = kindOf call.push) :
    UvmTools.runCalls calls table = .error .assertion ∨
      ∃ final, UvmTools.runCalls calls table = .ok final ∧ RecordsKept base kindOf final := by
  induction calls generalizing table with
  | nil => exact .inr ⟨table, rfl, hkept⟩
  | cons call calls inductionHypothesis =>
      simp only [List.mem_cons, forall_eq_or_imp] at hkind
      unfold UvmTools.runCalls
      rcases hkept.apply hkind.1 with hfailed | ⟨table', happly, hkept'⟩
      · rw [hfailed]; exact .inl rfl
      · rw [happly]; exact inductionHypothesis hkept' hkind.2

end RecordsKept

section Batches

/-- A `uvm_tools_record_block_migration_begin` call that attaches its record: not made by
the tools' own accesses, with tools and migration events enabled and the allocation
succeeding. -/
def BlockMigrationBegin.Attaches (call : BlockMigrationBegin) : Prop :=
  call.cause ≠ .apiTools ∧ call.toolsEnabled = true ∧ call.migrationEnabled = true ∧
    call.allocated = true

/-- A `uvm_tools_record_migration` call that appends its detail. -/
def RecordMigration.Appends (call : RecordMigration) : Prop :=
  call.toolsEnabled = true ∧ call.callbackNeeded = true ∧ call.migrationEnabled = true ∧
    call.allocated = true

/-- A `uvm_tools_record_map_remote` call that reaches the GPU-side append: its assertions
pass, its collector has tools and map-remote events enabled, and it maps on a GPU. -/
def RecordMapRemote.ReachesAppend (call : RecordMapRemote) : Prop :=
  call.processorValid = true ∧ call.residencyValid = true ∧
    call.cause ≠ uvmEventMapRemoteCauseInvalid ∧ call.toolsEnabled = true ∧
    call.mapRemoteEnabled = true ∧ call.processor.isGpu = true

/-- The details such a call appends: its own, when that allocation succeeds. -/
def RecordMapRemote.appended (call : RecordMapRemote) : List MapRemoteData :=
  if call.detailAllocated then [call.detail] else []

variable {channels : ToolsChannels} {push : UvmPush} {table : PushTable} {p : Nat}

theorem uvmToolsRecordBlockMigrationBegin_attaches {call : BlockMigrationBegin}
    (hattaches : call.Attaches) (hnone : push.onComplete = none)
    (hdata : push.onCompleteData = none) :
    uvmToolsRecordBlockMigrationBegin call channels push =
      .ok (channels.addPendingEventForChannel push.channel,
        { push with onComplete := some .onBlockMigrationComplete
                    onCompleteData := some
                        (.blockMigration (call.blockMigration push.channel)) }) := by
  obtain ⟨hcause, htools, hmigration, hallocated⟩ := hattaches
  simp [uvmToolsRecordBlockMigrationBegin, hcause, htools, hmigration, hallocated, hnone, hdata]

/-- `uvm_tools_record_migration` calls that append, on a push holding a migration record,
add their details to it in call order. -/
theorem runCalls_recordMigration {blockMig : BlockMigrationData}
    (hpush : table.pushes[p]? = some push)
    (hheld : push.onComplete = some .onBlockMigrationComplete)
    (hdata : push.onCompleteData = some (.blockMigration blockMig))
    {migrations : List RecordMigration}
    (happends : ∀ call ∈ migrations, call.Appends) :
    runCalls (migrations.map (.recordMigration p)) table =
      .ok ⟨table.channels, table.pushes.set p { push with onCompleteData := some (.blockMigration
        { blockMig with
          events := blockMig.events ++ migrations.map RecordMigration.detail }) }⟩ := by
  induction migrations generalizing table push blockMig with
  | nil =>
      have hsame : { push with onCompleteData := some (.blockMigration
          { blockMig with events := blockMig.events ++ List.map RecordMigration.detail [] }) } =
          push := by
        cases push
        cases hdata
        simp only [List.map_nil, List.append_nil]
      rw [hsame, set_eq_self_of_getElem? hpush]
      rfl
  | cons call migrations inductionHypothesis =>
      simp only [List.mem_cons, forall_eq_or_imp] at happends
      obtain ⟨htools, hneeded, hmigration, hallocated⟩ := happends.1
      let blockMig' := { blockMig with events := blockMig.events ++ [call.detail] }
      let push' := { push with onCompleteData := some (.blockMigration blockMig') }
      have happly : (SubmitCall.recordMigration p call).apply table =
          .ok ⟨table.channels, table.pushes.set p push'⟩ := by
        simp [SubmitCall.apply, SubmitCall.run, SubmitCall.push, hpush, uvmToolsRecordMigration,
          htools, hneeded, hmigration, hallocated, hheld, hdata, push', blockMig']
      have hrest := @inductionHypothesis push' ⟨table.channels, table.pushes.set p push'⟩ blockMig'
        (List.getElem?_set_self (List.getElem?_eq_some_iff.mp hpush).1) hheld rfl happends.2
      simp [runCalls, happly, hrest, List.set_set, push', blockMig']

theorem uvmToolsRecordMapRemote_creates {call : RecordMapRemote} (hreach : call.ReachesAppend)
    (hallocated : call.recordAllocated = true) (hnone : push.onComplete = none)
    (hdata : push.onCompleteData = none) :
    uvmToolsRecordMapRemote call channels push =
      .ok (channels.addPendingEventForChannel push.channel,
        { push with onComplete := some .onMapRemoteComplete
                    onCompleteData := some (.blockMapRemote
                      { call.blockMapRemote push.channel with events := call.appended }) }) := by
  obtain ⟨hvalid, hresidency, hcause, htools, henabled, hgpu⟩ := hreach
  cases hprocessor : call.processor with
  | cpu => simp [hprocessor, UvmProcessorId.isGpu] at hgpu
  | gpu index =>
      cases hdetail : call.detailAllocated <;>
        simp [uvmToolsRecordMapRemote, appendMapRemote, hvalid, hresidency, hcause, htools,
          henabled, hprocessor, hallocated, hdetail, hnone, hdata, RecordMapRemote.blockMapRemote,
          RecordMapRemote.appended]

/-- Appending no detail leaves a push as it was. -/
theorem UvmPush.append_nil_events {push : UvmPush} {blockMapRemote : BlockMapRemoteData}
    (hdata : push.onCompleteData = some (.blockMapRemote blockMapRemote)) :
    { push with onCompleteData := some (.blockMapRemote
      { blockMapRemote with events := blockMapRemote.events ++ [] }) } = push := by
  cases push
  cases hdata
  simp only [List.append_nil]

/-- GPU-side `uvm_tools_record_map_remote` calls that reach the append, on a push holding a
map-remote record, add to it in call order the details whose allocation succeeds. -/
theorem runCalls_recordMapRemote {blockMapRemote : BlockMapRemoteData}
    (hpush : table.pushes[p]? = some push) (hheld : push.onComplete = some .onMapRemoteComplete)
    (hdata : push.onCompleteData = some (.blockMapRemote blockMapRemote))
    {calls : List RecordMapRemote} (hreach : ∀ call ∈ calls, call.ReachesAppend) :
    runCalls (calls.map (.recordMapRemote p)) table =
      .ok ⟨table.channels, table.pushes.set p { push with onCompleteData := some (.blockMapRemote
        { blockMapRemote with
          events := blockMapRemote.events ++ calls.flatMap RecordMapRemote.appended }) }⟩ := by
  induction calls generalizing table push blockMapRemote with
  | nil =>
      rw [List.flatMap_nil, UvmPush.append_nil_events hdata, set_eq_self_of_getElem? hpush]
      rfl
  | cons call calls inductionHypothesis =>
      simp only [List.mem_cons, forall_eq_or_imp] at hreach
      obtain ⟨hvalid, hresidency, hcause, htools, henabled, hgpu⟩ := hreach.1
      let blockMapRemote' :=
          { blockMapRemote with events := blockMapRemote.events ++ call.appended }
      let push' := { push with onCompleteData := some (.blockMapRemote blockMapRemote') }
      have happly : (SubmitCall.recordMapRemote p call).apply table =
          .ok ⟨table.channels, table.pushes.set p push'⟩ := by
        cases hprocessor : call.processor with
        | cpu => simp [hprocessor, UvmProcessorId.isGpu] at hgpu
        | gpu index =>
            cases hdetail : call.detailAllocated
            · have hsame : push' = push := by
                simpa [push', blockMapRemote', RecordMapRemote.appended, hdetail] using
                  UvmPush.append_nil_events hdata
              rw [hsame]
              simp [SubmitCall.apply, SubmitCall.run, SubmitCall.push, hpush,
                uvmToolsRecordMapRemote, appendMapRemote, hvalid, hresidency, hcause, htools,
                henabled, hprocessor, hdetail, hheld, hdata]
            · simp [SubmitCall.apply, SubmitCall.run, SubmitCall.push, hpush,
                uvmToolsRecordMapRemote, appendMapRemote, hvalid, hresidency, hcause, htools,
                henabled, hprocessor, hdetail, hheld, hdata, push', blockMapRemote',
                RecordMapRemote.appended]
      have hrest := @inductionHypothesis push' ⟨table.channels, table.pushes.set p push'⟩
        blockMapRemote' (List.getElem?_set_self (List.getElem?_eq_some_iff.mp hpush).1) hheld rfl
        hreach.2
      simp [runCalls, happly, hrest, List.set_set, push', blockMapRemote']

end Batches

/-- The end of a sequence of submissions from `table`: every push is well formed (its
callback is the one for the kind of its record, so every detail went into a record of its
own kind), and each channel's count grew by the number of records on it (no push was
given a second record). -/
def RecordsCounted (table final : PushTable) : Prop :=
  (∀ push ∈ final.pushes, push.WellFormed) ∧
    ∀ channel, final.channels.pendingEventCount channel =
      table.channels.pendingEventCount channel +
        final.pushes.countP (fun push => push.recordChannel = some channel)

/-- Any sequence of submission calls on pushes that start with no record either fails
an assertion or ends with `RecordsCounted`. -/
def SubmissionsKeepRecords : Prop :=
  ∀ (calls : List SubmitCall) (table : PushTable),
    (∀ push ∈ table.pushes, push.onComplete = none ∧ push.onCompleteData = none) →
    runCalls calls table = .error .assertion ∨
      ∃ final, runCalls calls table = .ok final ∧ RecordsCounted table final

/-- A migration into a GPU, with tools and migration events enabled and the allocation
succeeding. -/
def sampleBlockMigrationBegin : BlockMigrationBegin :=
  { dstId := .gpu 0, srcId := .cpu, cause := .apiMigrate, vaSpace := 0, toolsEnabled := true
    migrationEnabled := true, allocated := true, now := 5, timestampAddr := 64, rangeGroup := none }

/-- A remote mapping on GPU 0, with tools and map-remote events enabled and both
allocations succeeding. -/
def sampleRecordMapRemote : RecordMapRemote :=
  { processor := .gpu 0, residency := .cpu, processorValid := true, residencyValid := true
    address := 4096, regionSize := 4096, cause := 1
    vaSpace := 0, toolsEnabled := true, mapRemoteEnabled := true, recordAllocated := true
    detailAllocated := true, now := 6, timestampAddr := 72 }

/-- One push on channel 0, no record, no channel counted. -/
def onePushTable : PushTable := ⟨⟨fun _ => 0, []⟩, [UvmPush.fresh 0]⟩

/-- A block migration begun on a push, then a GPU remote mapping on the same push: the
mapping's detail is appended through a cast into the migration record, and no assertion
stops it. -/
theorem mixed_kinds_reinterpret_record : ¬ SubmissionsKeepRecords := by
  intro keeps
  have hrun : runCalls [.blockMigrationBegin 0 sampleBlockMigrationBegin,
      .recordMapRemote 0 sampleRecordMapRemote] onePushTable = .error .reinterpretedRecord := rfl
  rcases keeps _ onePushTable (by simp [onePushTable, UvmPush.fresh]) with hfailed | ⟨_, hok, -⟩
  · rw [hrun] at hfailed; cases hfailed
  · rw [hrun] at hok; cases hok

/-- On pushes that start with no record, any sequence of submission calls in which all
calls on one push are of one kind either fails an assertion or ends with `RecordsCounted`:
each push keeps at most one record, and every detail goes into a record of its own kind. -/
theorem one_kind_submissions_keep_records (calls : List SubmitCall) (table : PushTable)
    (hfresh : ∀ push ∈ table.pushes, push.onComplete = none ∧ push.onCompleteData = none)
    (hkinds : ∀ call ∈ calls, ∀ call' ∈ calls, call.push = call'.push → call.kind = call'.kind) :
    runCalls calls table = .error .assertion ∨
      ∃ final, runCalls calls table = .ok final ∧ RecordsCounted table final := by
  let kindOf (i : Nat) : OnComplete :=
      ((calls.find? (·.push == i)).map SubmitCall.kind).getD .onReplayComplete
  have hkind : ∀ call ∈ calls, call.kind = kindOf call.push := by
    intro call hcall
    have hfound : (calls.find? (·.push == call.push)).isSome :=
      List.find?_isSome.mpr ⟨call, hcall, beq_self_eq_true _⟩
    obtain ⟨first, hfirst⟩ := Option.isSome_iff_exists.mp hfound
    have hmatch := List.find?_some hfirst
    have hsame : first.push = call.push := beq_iff_eq.mp hmatch
    simp only [kindOf, hfirst, Option.map_some', Option.getD_some]
    exact hkinds _ hcall _ (List.mem_of_find?_eq_some hfirst) hsame.symm
  have hstart : RecordsKept table.channels.pendingEventCount kindOf table := by
    refine ⟨fun i push hpush => ?_, fun channel => ?_⟩
    · obtain ⟨hnone, hdata⟩ := hfresh push (List.getElem?_mem hpush)
      exact ⟨⟨by simp [hnone, hdata], by simp [hdata]⟩, .inl hnone⟩
    · have hzero : table.pushes.countP (fun push => push.recordChannel = some channel) = 0 :=
        List.countP_eq_zero.mpr fun push hpush => by
          simp [UvmPush.recordChannel, (hfresh push hpush).2]
      omega
  rcases hstart.runCalls hkind with hfailed | ⟨final, hok, hkept⟩
  · exact .inl hfailed
  · refine .inr ⟨final, hok, fun push hpush => ?_, hkept.counted⟩
    obtain ⟨i, hi⟩ := List.getElem?_of_mem hpush
    exact (hkept.wellFormed i push hi).1

/-- A block migration begun on a push, then a migration appended to it. -/
theorem one_kind_submissions_keep_records_migration :
    ((∀ push ∈ onePushTable.pushes, push.onComplete = none ∧ push.onCompleteData = none) ∧
      ∀ call ∈ [SubmitCall.blockMigrationBegin 0 sampleBlockMigrationBegin,
          .recordMigration 0 ⟨4096, 4096, .apiMigrate, true, true, true, true, 80⟩],
        ∀ call' ∈ [SubmitCall.blockMigrationBegin 0 sampleBlockMigrationBegin,
          .recordMigration 0 ⟨4096, 4096, .apiMigrate, true, true, true, true, 80⟩],
        call.push = call'.push → call.kind = call'.kind) ∧
    (runCalls [.blockMigrationBegin 0 sampleBlockMigrationBegin,
        .recordMigration 0 ⟨4096, 4096, .apiMigrate, true, true, true, true, 80⟩] onePushTable =
        .error .assertion ∨
      ∃ final, runCalls [.blockMigrationBegin 0 sampleBlockMigrationBegin,
        .recordMigration 0 ⟨4096, 4096, .apiMigrate, true, true, true, true, 80⟩] onePushTable =
        .ok final ∧ RecordsCounted onePushTable final) :=
  ⟨⟨by simp [onePushTable, UvmPush.fresh], by decide⟩,
    one_kind_submissions_keep_records _ _ (by simp [onePushTable, UvmPush.fresh]) (by decide)⟩

end UvmTools
