import UvmTools.Basic

/-!
# Pending records and the pending-channel list

Events that need a GPU timestamp are buffered in a record attached to the push that will
write the timestamp. The push's channel counts the records that target it in
`pending_event_count`, and is linked into `g_tools_channel_list` while that count is not
zero. This module holds the data of those records and the two list operations.
-/

namespace UvmTools

/-- `uvm_processor_id_t`: the CPU or one GPU. -/
inductive UvmProcessorId where
  | cpu
  | gpu (index : Nat)
  deriving DecidableEq, Repr

/-- `UVM_ID_IS_GPU`. -/
def UvmProcessorId.isGpu : UvmProcessorId → Bool
  | .cpu => false
  | .gpu _ => true

/-- `uvm_make_resident_cause_t`, the causes `g_make_resident_to_tools_migration_cause` maps. -/
inductive UvmMakeResidentCause where
  | replayableFault
  | nonReplayableFault
  | accessCounter
  | prefetch
  | eviction
  | apiTools
  | apiMigrate
  | apiSetRangeGroup
  | apiHint
  deriving DecidableEq, Repr

/-- `UvmEventMigrationCause`, the causes the table produces. -/
inductive UvmEventMigrationCause where
  | invalid
  | user
  | coherence
  | prefetch
  | eviction
  | accessCounters
  deriving DecidableEq, Repr

/-- `g_make_resident_to_tools_migration_cause`. -/
def gMakeResidentToToolsMigrationCause : UvmMakeResidentCause → UvmEventMigrationCause
  | .replayableFault => .coherence
  | .nonReplayableFault => .coherence
  | .accessCounter => .accessCounters
  | .prefetch => .prefetch
  | .eviction => .eviction
  | .apiTools => .invalid
  | .apiMigrate => .user
  | .apiSetRangeGroup => .coherence
  | .apiHint => .user

/-- `uvm_fault_client_type_t`. -/
inductive UvmFaultClientType where
  | gpc
  | hub
  deriving DecidableEq, Repr

/-- `UvmEventFaultClientType`. -/
inductive UvmEventFaultClientType where
  | gpc
  | hub
  deriving DecidableEq, Repr

/-- `g_hal_to_tools_fault_client_type_table`. -/
def gHalToToolsFaultClientTypeTable : UvmFaultClientType → UvmEventFaultClientType
  | .gpc => .gpc
  | .hub => .hub

/-- `UVM_RANGE_GROUP_ID_NONE`, the range group id of no range group (0). -/
def uvmRangeGroupIdNone : NvU64 := 0

/-- `UvmEventMapRemoteCauseInvalid`, the first value of `UvmEventMapRemoteCause` (0). -/
def uvmEventMapRemoteCauseInvalid : Nat := 0

/-- `migration_data_t`: one migration within a block. -/
structure MigrationData where
  bytes : NvU64
  address : NvU64
  endTimestampGpuAddr : NvU64
  endTimestampGpu : NvU64
  cause : UvmEventMigrationCause
  deriving DecidableEq, Repr

/-- `block_migration_data_t`: the migrations pushed by one copy between two processors. -/
structure BlockMigrationData where
  dst : UvmProcessorId
  src : UvmProcessorId
  vaSpace : Nat
  channel : Nat
  events : List MigrationData
  startTimestampCpu : NvU64
  endTimestampCpu : NvU64
  startTimestampGpuAddr : NvU64
  startTimestampGpu : NvU64
  rangeGroupId : NvU64
  deriving DecidableEq, Repr

/-- `replay_data_t`: one pending fault replay. -/
structure ReplayData where
  channel : Nat
  gpuId : Nat
  batchId : NvU32
  clientType : UvmFaultClientType
  timestamp : NvU64
  timestampGpu : NvU64
  timestampGpuAddr : NvU64
  deriving DecidableEq, Repr

/-- `map_remote_data_t`: one pending remote mapping. -/
structure MapRemoteData where
  address : NvU64
  size : NvU64
  timestampGpu : NvU64
  timestampGpuAddr : NvU64
  deriving DecidableEq, Repr

/-- `block_map_remote_data_t`: the remote mappings of one block on one push. -/
structure BlockMapRemoteData where
  src : UvmProcessorId
  dst : UvmProcessorId
  cause : Nat
  timestamp : NvU64
  vaSpace : Nat
  channel : Nat
  events : List MapRemoteData
  deriving DecidableEq, Repr

/-- `push_info->on_complete`: the tools callback attached to a push. -/
inductive OnComplete where
  | onBlockMigrationComplete
  | onReplayComplete
  | onMapRemoteComplete
  deriving DecidableEq, Repr

/-- `push_info->on_complete_data`: the record the callback receives. -/
inductive OnCompleteData where
  | blockMigration (data : BlockMigrationData)
  | replay (data : ReplayData)
  | blockMapRemote (data : BlockMapRemoteData)
  deriving DecidableEq, Repr

/-- The channel a record was created for (`->channel` of every record kind). -/
def OnCompleteData.channel : OnCompleteData → Nat
  | .blockMigration data => data.channel
  | .replay data => data.channel
  | .blockMapRemote data => data.channel

/-- The callback that goes with each kind of record. -/
def OnCompleteData.callback : OnCompleteData → OnComplete
  | .blockMigration _ => .onBlockMigrationComplete
  | .replay _ => .onReplayComplete
  | .blockMapRemote _ => .onMapRemoteComplete

/-- A record with its list of details emptied: the part appending a detail keeps. -/
def OnCompleteData.withoutEvents : OnCompleteData → OnCompleteData
  | .blockMigration data => .blockMigration { data with events := [] }
  | .replay data => .replay data
  | .blockMapRemote data => .blockMapRemote { data with events := [] }

/-- The record passes the assertions of its callback: `on_map_remote_complete` asserts
that the mapping processor is a GPU. -/
def OnCompleteData.Completable : OnCompleteData → Prop
  | .blockMapRemote data => data.src.isGpu = true
  | _ => True

namespace OnCompleteData

variable (data : OnCompleteData)

@[simp] theorem callback_withoutEvents : data.withoutEvents.callback = data.callback := by
  cases data <;> rfl

@[simp] theorem channel_withoutEvents : data.withoutEvents.channel = data.channel := by
  cases data <;> rfl

@[simp] theorem completable_withoutEvents : data.withoutEvents.Completable ↔ data.Completable := by
  cases data <;> rfl

end OnCompleteData

/-- The fields of a push the tools layer uses: its channel, the tools fields of its
`uvm_push_info_t`, and whether the push was seen complete (its callback has run). -/
structure UvmPush where
  channel : Nat
  onComplete : Option OnComplete
  onCompleteData : Option OnCompleteData
  completed : Bool
  deriving DecidableEq, Repr

/-- A push as `uvm_push_begin` leaves it: on a channel, with no tools callback. -/
def UvmPush.fresh (channel : Nat) : UvmPush := ⟨channel, none, none, false⟩

/-- The channel of the record a push holds, if any. -/
def UvmPush.recordChannel
    (push : UvmPush) : Option Nat := push.onCompleteData.map OnCompleteData.channel

/-- A push's callback is the one for its record, and the record passes that callback's
assertions. -/
structure UvmPush.WellFormed (push : UvmPush) : Prop where
  callback : push.onComplete = push.onCompleteData.map OnCompleteData.callback
  completable : ∀ data, push.onCompleteData = some data → data.Completable

/-- The tools fields of every channel, and `g_tools_channel_list`. -/
structure ToolsChannels where
  pendingEventCount : Nat → Nat
  channelList : List Nat

namespace ToolsChannels

/-- `add_pending_event_for_channel`: the first reference links the channel at the tail. -/
def addPendingEventForChannel (channels : ToolsChannels) (channel : Nat) : ToolsChannels where
  pendingEventCount := Function.update channels.pendingEventCount channel
    (channels.pendingEventCount channel + 1)
  channelList := if channels.pendingEventCount channel = 0 then channels.channelList ++ [channel]
    else channels.channelList

/-- `remove_pending_event_for_channel`: asserts a positive count; the last reference
unlinks the channel (`list_del_init`). -/
def removePendingEventForChannel (channels : ToolsChannels) (channel : Nat) :
    Except Fault ToolsChannels :=
  if 0 < channels.pendingEventCount channel then
    let count := channels.pendingEventCount channel - 1
    .ok { pendingEventCount := Function.update channels.pendingEventCount channel count
          channelList := if count = 0 then channels.channelList.erase channel
            else channels.channelList }
  else .error .assertion

variable (channels : ToolsChannels) (channel other : Nat)

@[simp] theorem pendingEventCount_addPendingEventForChannel :
    (channels.addPendingEventForChannel channel).pendingEventCount other =
      channels.pendingEventCount other + if other = channel then 1 else 0 := by
  by_cases h : other = channel <;> simp [addPendingEventForChannel, Function.update, h]

theorem removePendingEventForChannel_eq_ok (hpos : 0 < channels.pendingEventCount channel) :
    channels.removePendingEventForChannel channel =
      .ok { pendingEventCount := Function.update channels.pendingEventCount channel
              (channels.pendingEventCount channel - 1)
            channelList := if channels.pendingEventCount channel = 1
              then channels.channelList.erase channel else channels.channelList } := by
  simp only [removePendingEventForChannel, if_pos hpos, Except.ok.injEq]
  congr 2
  simp only [eq_iff_iff]
  omega

end ToolsChannels

end UvmTools
