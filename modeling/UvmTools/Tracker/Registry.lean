import UvmTools.Basic
import Mathlib.Data.List.Count
import Mathlib.Data.List.Nodup

/-!
# The subscription registry

A collector, `va_space->tools`, keeps one list of trackers per event type and one per
counter, the flag `enabled`, its link in `g_tools_va_space_list`, and the two perf callbacks
of this file that it registers on `va_space->perf_events`. `insert_event_tracker` and
`remove_event_tracker` subscribe a tracker's nodes to these lists and count each
subscription in `g_tools_enabled_event_count`; `tools_update_status` brings the callbacks,
`enabled` and the list link up to date with the lists.

Counter trackers go through the same two functions as queue trackers, so
`g_tools_enabled_event_count[i]` counts the counter trackers of counter `i` along with the
queue trackers of event type `i`. And `tools_update_perf_events_callbacks` returns as soon
as a registration fails, keeping the one it made before: a failed attach that removes its
lists again leaves `uvm_tools_record_fault` registered on a collector that does not need
it.

`g_tools_enabled_event_count` is an array of `NvU32`, and `++` wraps it: from
`0xFFFFFFFF`, an insertion makes a count 0 and the removal's `UVM_ASSERT` then fails. Each
live tracker is counted at most once in an entry, so the counts stay exact while fewer than
`2 ^ 32 - 1` trackers are live, which is what a tracker's creation assumes here.

What does hold in every reachable registry is `Registry.Consistent`: the lists hold exactly
the subscribed trackers, the counts count them, `enabled` and the list link follow the lists,
and every needed callback is registered. One preservation lemma covers a tracker whose
subscriptions change (`Consistent.resubscribed`); attach, destroy and create are derived
from it, and `destroy_event_tracker` never fails its assertions from a consistent registry.
-/

namespace UvmTools

/-- The constants of `uvm_types.h` that this file reads; the header is not part of it. The
ids the callbacks need are below the list counts, as the `UVM_ASSERT`s of
`tools_is_event_enabled` and `tools_is_counter_enabled` check, and every event type has a
bit in an `NvU64` mask (`BUILD_BUG_ON(UvmEventNumTypesAll > EVENT_FLAGS_BITS)`). -/
structure ToolsIds where
  /-- `UvmEventNumTypesAll`. -/
  eventNumTypesAll : Nat
  /-- `UVM_TOTAL_COUNTERS`. -/
  totalCounters : Nat
  /-- `UvmEventTypeCpuFault`. -/
  cpuFault : Nat
  /-- `UvmEventTypeGpuFault`. -/
  gpuFault : Nat
  /-- `UvmEventTypeMigration`. -/
  migration : Nat
  /-- `UvmEventTypeReadDuplicate`. -/
  readDuplicate : Nat
  /-- `UvmCounterNameCpuPageFaultCount`. -/
  cpuPageFaultCount : Nat
  /-- `UvmCounterNameGpuPageFaultCount`. -/
  gpuPageFaultCount : Nat
  /-- `UvmCounterNameBytesXferDtH`. -/
  bytesXferDtH : Nat
  /-- `UvmCounterNameBytesXferHtD`. -/
  bytesXferHtD : Nat
  cpuFault_lt : cpuFault < eventNumTypesAll
  migration_lt : migration < eventNumTypesAll
  cpuPageFaultCount_lt : cpuPageFaultCount < totalCounters
  eventNumTypesAll_le : eventNumTypesAll ≤ 64

/-- The `list_count` of a tracker's lists: `UvmEventNumTypesAll` for a queue tracker,
`UVM_TOTAL_COUNTERS` for a counter tracker. -/
def ToolsIds.listCount (ids : ToolsIds) (isQueue : Bool) : Nat :=
  if isQueue then ids.eventNumTypesAll else ids.totalCounters

/-- A tracker, `uvm_tools_event_tracker_t`: its collector, whether it is a queue tracker,
and its `subscribed_queues` or `subscribed_counters`. Its list nodes are named by the
tracker's index. -/
structure EventTracker where
  vaSpace : Nat
  isQueue : Bool
  subscribed : NvU64
  deriving DecidableEq, Repr

/-- A collector: `va_space->tools`, and which callbacks of this file are registered on
`va_space->perf_events`. -/
structure ToolsVaSpace where
  /-- `tools.queues[e]`: the trackers linked through their `queue_nodes[e]`, newest first. -/
  queues : Nat → List Nat
  /-- `tools.counters[c]`. -/
  counters : Nat → List Nat
  /-- `tools.enabled`. -/
  enabled : Bool
  /-- `uvm_tools_record_fault` is registered for `UVM_PERF_EVENT_FAULT`. -/
  faultCallback : Bool
  /-- `uvm_tools_record_migration` is registered for `UVM_PERF_EVENT_MIGRATION`. -/
  migrationCallback : Bool

namespace ToolsVaSpace

/-- `tools.queues` or `tools.counters`. -/
def lists (vaSpace : ToolsVaSpace) (isQueue : Bool) : Nat → List Nat :=
  if isQueue then vaSpace.queues else vaSpace.counters

/-- The collector with `tools.queues` or `tools.counters` replaced. -/
def withLists (vaSpace : ToolsVaSpace) (isQueue : Bool) (lists : Nat → List Nat) : ToolsVaSpace :=
  if isQueue then { vaSpace with queues := lists } else { vaSpace with counters := lists }

/-- `tools_is_event_enabled`. -/
def toolsIsEventEnabled (vaSpace : ToolsVaSpace) (event : Nat) : Bool :=
  !(vaSpace.queues event).isEmpty

/-- `tools_is_counter_enabled`. -/
def toolsIsCounterEnabled (vaSpace : ToolsVaSpace) (counter : Nat) : Bool :=
  !(vaSpace.counters counter).isEmpty

/-- `tools_are_enabled`: some counter list or some event list is not empty. -/
def toolsAreEnabled (ids : ToolsIds) (vaSpace : ToolsVaSpace) : Bool :=
  (List.range ids.totalCounters).any vaSpace.toolsIsCounterEnabled ||
    (List.range ids.eventNumTypesAll).any vaSpace.toolsIsEventEnabled

/-- What `tools_is_fault_callback_needed` and `tools_is_migration_callback_needed` both ask:
whether one of two event lists or one of two counter lists is not empty. -/
def callbackNeeded (vaSpace : ToolsVaSpace) (event event' counter counter' : Nat) : Bool :=
  vaSpace.toolsIsEventEnabled event || vaSpace.toolsIsEventEnabled event' ||
    vaSpace.toolsIsCounterEnabled counter || vaSpace.toolsIsCounterEnabled counter'

/-- `tools_is_fault_callback_needed`. -/
def toolsIsFaultCallbackNeeded (ids : ToolsIds) (vaSpace : ToolsVaSpace) : Bool :=
  vaSpace.callbackNeeded ids.cpuFault ids.gpuFault ids.cpuPageFaultCount ids.gpuPageFaultCount

/-- `tools_is_migration_callback_needed`. -/
def toolsIsMigrationCallbackNeeded (ids : ToolsIds) (vaSpace : ToolsVaSpace) : Bool :=
  vaSpace.callbackNeeded ids.migration ids.readDuplicate ids.bytesXferDtH ids.bytesXferHtD

@[simp] theorem lists_withLists (vaSpace : ToolsVaSpace) (isQueue isQueue' : Bool)
    (lists : Nat → List Nat) :
    (vaSpace.withLists isQueue lists).lists isQueue' =
      if isQueue' = isQueue then lists else vaSpace.lists isQueue' := by
  cases isQueue <;> cases isQueue' <;> rfl

@[simp] theorem enabled_withLists (vaSpace : ToolsVaSpace) (isQueue : Bool)
    (lists : Nat → List Nat) :
    (vaSpace.withLists isQueue lists).enabled = vaSpace.enabled := by
  cases isQueue <;> rfl

@[simp] theorem faultCallback_withLists (vaSpace : ToolsVaSpace) (isQueue : Bool)
    (lists : Nat → List Nat) :
    (vaSpace.withLists isQueue lists).faultCallback = vaSpace.faultCallback := by
  cases isQueue <;> rfl

@[simp] theorem migrationCallback_withLists (vaSpace : ToolsVaSpace) (isQueue : Bool)
    (lists : Nat → List Nat) :
    (vaSpace.withLists isQueue lists).migrationCallback = vaSpace.migrationCallback := by
  cases isQueue <;> rfl

/-- Putting a kind's lists back after a callback update gives the collector with only the
callbacks changed. -/
theorem withLists_restore (vaSpace : ToolsVaSpace) (isQueue : Bool) (lists : Nat → List Nat)
    (fault migration : Bool) :
    { vaSpace.withLists isQueue lists with faultCallback := fault, migrationCallback := migration
      }.withLists isQueue (vaSpace.lists isQueue) =
      { vaSpace with faultCallback := fault, migrationCallback := migration } := by
  cases isQueue <;> rfl

/-- A callback needed after the lists shrank was needed before. -/
theorem callbackNeeded_of_shrunk {vaSpace vaSpace' : ToolsVaSpace}
    (hshrunk : ∀ isQueue e, vaSpace'.lists isQueue e ≠ [] → vaSpace.lists isQueue e ≠ [])
    {event event' counter counter' : Nat}
    (hneeded : vaSpace'.callbackNeeded event event' counter counter' = true) :
    vaSpace.callbackNeeded event event' counter counter' = true := by
  have hqueues := hshrunk true
  have hcounters := hshrunk false
  simp only [lists, if_true, Bool.false_eq_true, if_false] at hqueues hcounters
  simp only [callbackNeeded, toolsIsEventEnabled, toolsIsCounterEnabled, Bool.or_eq_true,
    Bool.not_eq_true', List.isEmpty_eq_false] at hneeded ⊢
  rcases hneeded with ((hneeded | hneeded) | hneeded) | hneeded
  · exact .inl (.inl (.inl (hqueues _ hneeded)))
  · exact .inl (.inl (.inr (hqueues _ hneeded)))
  · exact .inl (.inr (hcounters _ hneeded))
  · exact .inr (hcounters _ hneeded)

/-- A callback is needed while the list of its first event type is not empty. -/
theorem callbackNeeded_of_queues_ne_nil {vaSpace : ToolsVaSpace}
    {event event' counter counter' : Nat}
    (hqueue : vaSpace.queues event ≠ []) :
    vaSpace.callbackNeeded event event' counter counter' = true := by
  simp [callbackNeeded, toolsIsEventEnabled, hqueue]

end ToolsVaSpace

open ToolsVaSpace

/-- One half of `tools_update_perf_events_callbacks`: a needed callback that is not
registered yet is registered, and `status` is what the registration returns; a callback no
longer needed is unregistered. Whether the callback is registered afterwards, or the status
of the failed registration. -/
def updateCallback (needed registered : Bool) (status : NvStatus) : Except NvStatus Bool :=
  if needed then
    if registered then .ok true
    else if status = .ok then .ok true else .error status
  else .ok false

/-- `tools_update_perf_events_callbacks`, where `faultStatus` and `migrationStatus` are what
`uvm_perf_register_event_callback_locked` returns if it is called for that callback. It
returns at the first failed registration, keeping what it did before. -/
def toolsUpdatePerfEventsCallbacks (ids : ToolsIds) (vaSpace : ToolsVaSpace)
    (faultStatus migrationStatus : NvStatus) : NvStatus × ToolsVaSpace :=
  match updateCallback
      (toolsIsFaultCallbackNeeded ids vaSpace) vaSpace.faultCallback faultStatus with
  | .error status => (status, vaSpace)
  | .ok fault =>
      let vaSpace := { vaSpace with faultCallback := fault }
      match updateCallback (toolsIsMigrationCallbackNeeded ids vaSpace) vaSpace.migrationCallback
          migrationStatus with
      | .error status => (status, vaSpace)
      | .ok migration => (.ok, { vaSpace with migrationCallback := migration })

/-- `tools_update_status` of collector `v`: the callbacks first; if they are in place,
`enabled` follows `tools_are_enabled`, and the collector is linked into or unlinked from
`g_tools_va_space_list` when `enabled` changes. -/
def toolsUpdateStatus (ids : ToolsIds) (v : Nat) (vaSpace : ToolsVaSpace) (vaSpaceList : List Nat)
    (faultStatus migrationStatus : NvStatus) : NvStatus × ToolsVaSpace × List Nat :=
  match toolsUpdatePerfEventsCallbacks ids vaSpace faultStatus migrationStatus with
  | (.ok, vaSpace) =>
      let shouldBeEnabled := toolsAreEnabled ids vaSpace
      if shouldBeEnabled != vaSpace.enabled then
        (.ok, { vaSpace with enabled := shouldBeEnabled },
          if shouldBeEnabled then v :: vaSpaceList else vaSpaceList.erase v)
      else (.ok, vaSpace, vaSpaceList)
  | (status, vaSpace) => (status, vaSpace, vaSpaceList)

/-- What `insert_event_tracker` leaves: the lists, `g_tools_enabled_event_count`,
`*subscribed_mask` and `*inserted_lists`. -/
structure Inserted where
  lists : Nat → List Nat
  counts : Nat → NvU32
  subscribed : NvU64
  inserted : NvU64

/-- `insert_event_tracker` of tracker `node`: every list below `list_count` whose bit is in
`list_mask` but not in `*subscribed_mask` gets one more count and the tracker at its head
(`list_add`). Iteration `i` of the loop touches entry `i` only, so the loop is given entry
by entry. -/
def insertEventTracker (node listCount : Nat) (listMask subscribedMask : NvU64)
    (lists : Nat → List Nat) (counts : Nat → NvU32) : Inserted :=
  let insertableLists := listMask &&& ~~~subscribedMask
  let inserts (i : Nat) : Bool := decide (i < listCount) && insertableLists.getLsbD i
  { lists := fun i => if inserts i then node :: lists i else lists i
    counts := fun i => if inserts i then counts i + 1 else counts i
    subscribed := subscribedMask ||| listMask
    inserted := insertableLists }

/-- What `remove_event_tracker` leaves: the lists, `g_tools_enabled_event_count` and
`*subscribed_mask`. -/
structure Removed where
  lists : Nat → List Nat
  counts : Nat → NvU32
  subscribed : NvU64

/-- `remove_event_tracker` of tracker `node`: every list below `list_count` whose bit is in
both masks loses the tracker (`list_del`) and one count, which is asserted positive. -/
def removeEventTracker (node listCount : Nat) (listMask subscribedMask : NvU64)
    (lists : Nat → List Nat) (counts : Nat → NvU32) : Except Fault Removed :=
  let removableLists := listMask &&& subscribedMask
  let removes (i : Nat) : Bool := decide (i < listCount) && removableLists.getLsbD i
  if (List.range listCount).any fun i => removes i && counts i == 0 then .error .assertion
  else
    .ok { lists := fun i => if removes i then (lists i).erase node else lists i
          counts := fun i => if removes i then counts i - 1 else counts i
          subscribed := subscribedMask &&& ~~~listMask }

/-- The collectors, the trackers by index (the next one gets `trackerCount`),
`g_tools_enabled_event_count`, and `g_tools_va_space_list`, newest first. -/
structure Registry where
  vaSpaces : Nat → ToolsVaSpace
  trackers : Nat → Option EventTracker
  trackerCount : Nat
  enabledEventCount : Nat → NvU32
  vaSpaceList : List Nat

/-- No tracker, nothing subscribed, registered or linked. -/
def initialRegistry : Registry :=
  ⟨fun _ => ⟨fun _ => [], fun _ => [], false, false, false⟩, fun _ => none, 0, fun _ => 0, []⟩

namespace Registry

/-- A new tracker of collector `vaSpace`, subscribed to nothing. -/
def create (state : Registry) (vaSpace : Nat) (isQueue : Bool) : Registry :=
  { state with
    trackers := Function.update state.trackers state.trackerCount (some ⟨vaSpace, isQueue, 0⟩)
    trackerCount := state.trackerCount + 1 }

/-- The number of live trackers: created and not destroyed. -/
def liveTrackers (state : Registry) : Nat :=
  (List.range state.trackerCount).countP fun t => (state.trackers t).isSome

/-- `insert_event_tracker` of `mask` for tracker `t` into the lists of its kind of its
collector. -/
def insertion (ids : ToolsIds) (state : Registry) (t : Nat) (tracker : EventTracker)
    (mask : NvU64) : Inserted :=
  insertEventTracker t (ids.listCount tracker.isQueue) mask tracker.subscribed
    ((state.vaSpaces tracker.vaSpace).lists tracker.isQueue) state.enabledEventCount

/-- Modelled from the spec: attaching `mask` to tracker `t` is `insert_event_tracker`
followed by `tools_update_status`; when that fails, `remove_event_tracker` of the inserted
lists undoes the insertion. The status, and the registry after. -/
def attach (ids : ToolsIds) (state : Registry) (t : Nat) (tracker : EventTracker) (mask : NvU64)
    (faultStatus migrationStatus : NvStatus) : Except Fault (NvStatus × Registry) :=
  let vaSpace := state.vaSpaces tracker.vaSpace
  let listCount := ids.listCount tracker.isQueue
  let inserted := state.insertion ids t tracker mask
  match toolsUpdateStatus ids tracker.vaSpace (vaSpace.withLists tracker.isQueue inserted.lists)
      state.vaSpaceList faultStatus migrationStatus with
  | (.ok, vaSpace, vaSpaceList) =>
      .ok (.ok,
        { vaSpaces := Function.update state.vaSpaces tracker.vaSpace vaSpace
          trackers := Function.update state.trackers t
            (some { tracker with subscribed := inserted.subscribed })
          trackerCount := state.trackerCount
          enabledEventCount := inserted.counts
          vaSpaceList := vaSpaceList })
  | (status, vaSpace, vaSpaceList) =>
      match removeEventTracker t listCount inserted.inserted inserted.subscribed
          (vaSpace.lists tracker.isQueue) inserted.counts with
      | .error fault => .error fault
      | .ok removed =>
          .ok (status,
            { vaSpaces := Function.update state.vaSpaces tracker.vaSpace
                (vaSpace.withLists tracker.isQueue removed.lists)
              trackers := Function.update state.trackers t
                (some { tracker with subscribed := removed.subscribed })
              trackerCount := state.trackerCount
              enabledEventCount := removed.counts
              vaSpaceList := vaSpaceList })

/-- `destroy_event_tracker` of tracker `t`, whose file is open: `remove_event_tracker` of
everything it subscribed, then `tools_update_status`, whose status is asserted to be
`NV_OK` ("de-registration should not fail"), and the tracker is freed. Its buffers are
unmapped on the way, by `unmap_user_pages`. -/
def destroyEventTracker (ids : ToolsIds) (state : Registry) (t : Nat) (tracker : EventTracker)
    (faultStatus migrationStatus : NvStatus) : Except Fault Registry :=
  let vaSpace := state.vaSpaces tracker.vaSpace
  match removeEventTracker t (ids.listCount tracker.isQueue) tracker.subscribed tracker.subscribed
      (vaSpace.lists tracker.isQueue) state.enabledEventCount with
  | .error fault => .error fault
  | .ok removed =>
      match toolsUpdateStatus ids tracker.vaSpace (vaSpace.withLists tracker.isQueue removed.lists)
          state.vaSpaceList faultStatus migrationStatus with
      | (.ok, vaSpace, vaSpaceList) =>
          .ok { vaSpaces := Function.update state.vaSpaces tracker.vaSpace vaSpace
                trackers := Function.update state.trackers t none
                trackerCount := state.trackerCount
                enabledEventCount := removed.counts
                vaSpaceList := vaSpaceList }
      | _ => .error .assertion

/-- Whether tracker `t` is a tracker of the kind `isQueue` linked into its collector's list
`e` of that kind. -/
def listed (state : Registry) (isQueue : Bool) (e t : Nat) : Bool :=
  match state.trackers t with
  | some tracker =>
      tracker.isQueue == isQueue && decide (t ∈ (state.vaSpaces tracker.vaSpace).lists isQueue e)
  | none => false

/-- The trackers of kind `isQueue`, over all collectors, linked into their collector's
list `e` of that kind. -/
def linked (state : Registry) (isQueue : Bool) (e : Nat) : Nat :=
  (List.range state.trackerCount).countP (state.listed isQueue e)

/-- `tools_is_event_enabled_in_any_va_space`. -/
def toolsIsEventEnabledInAnyVaSpace (state : Registry) (event : Nat) : Bool :=
  state.enabledEventCount event != 0

end Registry

/-- The assertions a perf callback of this file makes on its collector before it records:
`tools.enabled`, and that the callback is needed. -/
def callbackAsserts (enabled needed : Bool) : Except Fault Unit :=
  if !enabled then .error .assertion
  else if !needed then .error .assertion
  else .ok ()

/-- The assertions of `uvm_tools_record_fault`. -/
def uvmToolsRecordFaultAsserts (ids : ToolsIds) (vaSpace : ToolsVaSpace) : Except Fault Unit :=
  callbackAsserts vaSpace.enabled (toolsIsFaultCallbackNeeded ids vaSpace)

/-- The assertions of `uvm_tools_record_migration`. -/
def uvmToolsRecordMigrationAsserts (ids : ToolsIds) (vaSpace : ToolsVaSpace) : Except Fault Unit :=
  callbackAsserts vaSpace.enabled (toolsIsMigrationCallbackNeeded ids vaSpace)

/-- What a step of the registry shows. -/
inductive RegistryEvent where
  | created (vaSpace : Nat) (isQueue : Bool)
  | attached (tracker : Nat) (mask : NvU64) (faultStatus migrationStatus status : NvStatus)
  | destroyed (tracker : Nat) (faultStatus migrationStatus : NvStatus)

/-- One step of the registry, under `g_tools_va_space_list_lock` and the collector's locks:
a tracker is created, attached, or destroyed. A tracker is an open file with its own
allocation, and one is created only while fewer than `2 ^ 32 - 1` are live. -/
inductive RegistryStep (ids : ToolsIds) : Registry → RegistryEvent → Registry → Prop where
  | create (state : Registry) (vaSpace : Nat) (isQueue : Bool)
      (hroom : state.liveTrackers < 2 ^ 32 - 1) :
      RegistryStep ids state (.created vaSpace isQueue) (state.create vaSpace isQueue)
  | attach {state next : Registry} {t : Nat} {tracker : EventTracker} {mask : NvU64}
      {faultStatus migrationStatus status : NvStatus} (htracker : state.trackers t = some tracker)
      (hattach : state.attach ids t tracker mask faultStatus migrationStatus = .ok (status, next)) :
      RegistryStep ids state (.attached t mask faultStatus migrationStatus status) next
  | destroy {state next : Registry} {t : Nat} {tracker : EventTracker}
      {faultStatus migrationStatus : NvStatus} (htracker : state.trackers t = some tracker)
      (hdestroy : state.destroyEventTracker ids t tracker faultStatus migrationStatus = .ok next) :
      RegistryStep ids state (.destroyed t faultStatus migrationStatus) next

/-! ## The callbacks and the status -/

section Status

variable {ids : ToolsIds} {vaSpace vaSpace' : ToolsVaSpace} {faultStatus migrationStatus : NvStatus}

/-- A callback ends up registered exactly when it is needed, unless its registration fails. -/
theorem updateCallback_eq_ok {needed registered : Bool} {status : NvStatus}
    (hregisters : needed = true → registered = true ∨ status = .ok) :
    updateCallback needed registered status = .ok needed := by
  unfold updateCallback
  cases needed <;> cases registered <;> simp_all

theorem eq_of_updateCallback_eq_ok {needed registered registered' : Bool} {status : NvStatus}
    (hupdate : updateCallback needed registered status = .ok registered') :
    registered' = needed := by
  unfold updateCallback at hupdate
  split_ifs at hupdate <;> cases hupdate <;> simp_all

/-- A registration fails only with a status other than `NV_OK`. -/
theorem ne_ok_of_updateCallback_eq_error {needed registered : Bool} {status status' : NvStatus}
    (hupdate : updateCallback needed registered status = .error status') : status' ≠ .ok := by
  unfold updateCallback at hupdate
  split_ifs at hupdate with hneeded hregistered hok
  cases hupdate
  exact hok

/-- The callbacks and the status `tools_update_perf_events_callbacks` leaves: it changes
nothing but the two callbacks, each of which it leaves as it was or sets to whether it is
needed, both of them when it returns `NV_OK`. -/
theorem toolsUpdatePerfEventsCallbacks_spec {status : NvStatus}
    (hupdate : toolsUpdatePerfEventsCallbacks ids vaSpace faultStatus migrationStatus =
      (status, vaSpace')) :
    vaSpace' = { vaSpace with
      faultCallback := vaSpace'.faultCallback, migrationCallback := vaSpace'.migrationCallback } ∧
    (vaSpace'.faultCallback = vaSpace.faultCallback ∨
      vaSpace'.faultCallback = toolsIsFaultCallbackNeeded ids vaSpace) ∧
    (vaSpace'.migrationCallback = vaSpace.migrationCallback ∨
      vaSpace'.migrationCallback = toolsIsMigrationCallbackNeeded ids vaSpace) ∧
    (status = .ok → vaSpace'.faultCallback = toolsIsFaultCallbackNeeded ids vaSpace ∧
      vaSpace'.migrationCallback = toolsIsMigrationCallbackNeeded ids vaSpace) := by
  unfold toolsUpdatePerfEventsCallbacks at hupdate
  split at hupdate
  · rename_i status' hfault
    cases hupdate
    exact ⟨rfl, .inl rfl, .inl rfl, fun hok => absurd hok (ne_ok_of_updateCallback_eq_error hfault)⟩
  · rename_i fault hfault
    have hfault' := eq_of_updateCallback_eq_ok hfault
    dsimp only at hupdate
    split at hupdate
    · rename_i status' hmigration
      cases hupdate
      exact ⟨rfl, .inr hfault', .inl rfl,
        fun hok => absurd hok (ne_ok_of_updateCallback_eq_error hmigration)⟩
    · rename_i migration hmigration
      cases hupdate
      exact ⟨rfl, .inr hfault', .inr (eq_of_updateCallback_eq_ok hmigration),
        fun _ => ⟨hfault', eq_of_updateCallback_eq_ok hmigration⟩⟩

/-- When each needed callback is registered or its registration succeeds, the callbacks end
up registered exactly when needed, and `NV_OK` is returned. -/
theorem toolsUpdatePerfEventsCallbacks_eq_ok
    (hfault : toolsIsFaultCallbackNeeded ids vaSpace = true →
      vaSpace.faultCallback = true ∨ faultStatus = .ok)
    (hmigration : toolsIsMigrationCallbackNeeded ids vaSpace = true →
      vaSpace.migrationCallback = true ∨ migrationStatus = .ok) :
    toolsUpdatePerfEventsCallbacks ids vaSpace faultStatus migrationStatus =
      (.ok, { vaSpace with
        faultCallback := toolsIsFaultCallbackNeeded ids vaSpace
        migrationCallback := toolsIsMigrationCallbackNeeded ids vaSpace }) := by
  simp only [toolsUpdatePerfEventsCallbacks, updateCallback_eq_ok hfault]
  rw [show toolsIsMigrationCallbackNeeded ids
      { vaSpace with faultCallback := toolsIsFaultCallbackNeeded ids vaSpace } =
      toolsIsMigrationCallbackNeeded ids vaSpace from rfl, updateCallback_eq_ok hmigration]

/-- When the fault callback registers and the migration callback's registration then fails,
`tools_update_perf_events_callbacks` returns the failure with the fault callback left
registered. -/
theorem toolsUpdatePerfEventsCallbacks_keeps_fault
    (hfault : toolsIsFaultCallbackNeeded ids vaSpace = true)
    (hfaultUnregistered : vaSpace.faultCallback = false)
    (hmigration : toolsIsMigrationCallbackNeeded ids vaSpace = true)
    (hmigrationUnregistered : vaSpace.migrationCallback = false) (hfailed : migrationStatus ≠ .ok) :
    toolsUpdatePerfEventsCallbacks ids vaSpace .ok migrationStatus =
      (migrationStatus, { vaSpace with faultCallback := true }) := by
  obtain ⟨queues, counters, enabled, fault, migration⟩ := vaSpace
  dsimp only at hfaultUnregistered hmigrationUnregistered
  subst hfaultUnregistered hmigrationUnregistered
  have hmigration' : toolsIsMigrationCallbackNeeded ids ⟨queues, counters, enabled, true, false⟩ =
      true := hmigration
  simp only [toolsUpdatePerfEventsCallbacks, updateCallback, hfault, hmigration', hfailed, if_true,
    if_false, Bool.false_eq_true]

/-- `g_tools_va_space_list` after `tools_update_status` of collector `v` found `enabled`
to be `now` where it was `was`. -/
def relink (vaSpaceList : List Nat) (v : Nat) (was now : Bool) : List Nat :=
  if now != was then (if now then v :: vaSpaceList else vaSpaceList.erase v) else vaSpaceList

/-- A collector linked once while enabled stays so across a relink. -/
theorem count_relink {vaSpaceList : List Nat} {v : Nat} {was now : Bool}
    (hcount : vaSpaceList.count v = if was then 1 else 0) (w : Nat) :
    (relink vaSpaceList v was now).count w =
      if w = v then (if now then 1 else 0) else vaSpaceList.count w := by
  unfold relink
  by_cases hw : w = v
  · subst hw
    cases was <;> cases now <;> simp_all [List.count_erase_self]
  · cases was <;> cases now <;>
      simp [hw, List.count_cons, List.count_erase_of_ne hw, Ne.symm hw]

/-- `tools_update_status` after the callbacks are in place: `enabled` follows
`tools_are_enabled` and the list link follows `enabled`. -/
theorem toolsUpdateStatus_eq_ok {v : Nat} {vaSpaceList : List Nat}
    (hupdate : toolsUpdatePerfEventsCallbacks ids vaSpace faultStatus migrationStatus =
      (.ok, vaSpace')) :
    toolsUpdateStatus ids v vaSpace vaSpaceList faultStatus migrationStatus =
      (.ok, { vaSpace' with enabled := toolsAreEnabled ids vaSpace' },
        relink vaSpaceList v vaSpace'.enabled (toolsAreEnabled ids vaSpace')) := by
  simp only [toolsUpdateStatus, hupdate, relink]
  split_ifs with hchanged <;> simp_all

/-- A failed `tools_update_status` leaves `enabled` and the list link. -/
theorem toolsUpdateStatus_eq_error {v : Nat} {vaSpaceList : List Nat} {status : NvStatus}
    (hupdate : toolsUpdatePerfEventsCallbacks ids vaSpace faultStatus migrationStatus =
      (status, vaSpace')) (hfailed : status ≠ .ok) :
    toolsUpdateStatus ids v vaSpace vaSpaceList faultStatus migrationStatus =
      (status, vaSpace', vaSpaceList) := by
  simp only [toolsUpdateStatus, hupdate]

end Status

/-- A collector after a `tools_update_status` that returned `NV_OK`: each callback
registered exactly when needed, and `enabled` following `tools_are_enabled`. -/
def ToolsVaSpace.updated (ids : ToolsIds) (vaSpace : ToolsVaSpace) : ToolsVaSpace :=
  { vaSpace with
    enabled := toolsAreEnabled ids vaSpace
    faultCallback := toolsIsFaultCallbackNeeded ids vaSpace
    migrationCallback := toolsIsMigrationCallbackNeeded ids vaSpace }

/-- After callbacks updated with `NV_OK`, `tools_update_status` leaves the collector
`updated`. -/
theorem toolsUpdateStatus_eq_updated_of_ok {ids : ToolsIds} {v : Nat}
    {vaSpace vaSpace' : ToolsVaSpace} {vaSpaceList : List Nat} {faultStatus migrationStatus : NvStatus}
    (hupdate : toolsUpdatePerfEventsCallbacks ids vaSpace faultStatus migrationStatus =
      (.ok, vaSpace')) :
    toolsUpdateStatus ids v vaSpace vaSpaceList faultStatus migrationStatus =
      (.ok, vaSpace.updated ids,
        relink vaSpaceList v vaSpace.enabled (toolsAreEnabled ids vaSpace)) := by
  obtain ⟨hshape, -, -, hneeded⟩ := toolsUpdatePerfEventsCallbacks_spec hupdate
  obtain ⟨hfault, hmigration⟩ := hneeded rfl
  rw [hfault, hmigration] at hshape
  subst hshape
  rw [toolsUpdateStatus_eq_ok hupdate]
  rfl

/-- `tools_update_status` returns `NV_OK` when each needed callback is registered or its
registration succeeds. -/
theorem toolsUpdateStatus_eq_updated {ids : ToolsIds} {v : Nat} {vaSpace : ToolsVaSpace}
    {vaSpaceList : List Nat} {faultStatus migrationStatus : NvStatus}
    (hfault : toolsIsFaultCallbackNeeded ids vaSpace = true →
      vaSpace.faultCallback = true ∨ faultStatus = .ok)
    (hmigration : toolsIsMigrationCallbackNeeded ids vaSpace = true →
      vaSpace.migrationCallback = true ∨ migrationStatus = .ok) :
    toolsUpdateStatus ids v vaSpace vaSpaceList faultStatus migrationStatus =
      (.ok, vaSpace.updated ids,
        relink vaSpaceList v vaSpace.enabled (toolsAreEnabled ids vaSpace)) := by
  rw [toolsUpdateStatus_eq_updated_of_ok (toolsUpdatePerfEventsCallbacks_eq_ok hfault hmigration)]

/-! ## Subscriptions -/

/-- Whether a tracker is subscribed to list `e` of kind `isQueue`: it is of that kind, and
its bit `e` is set below the list count. -/
def EventTracker.Subscribes (ids : ToolsIds) (tracker : EventTracker) (isQueue : Bool) (e : Nat) :
    Prop :=
  tracker.isQueue = isQueue ∧ e < ids.listCount isQueue ∧ tracker.subscribed.getLsbD e = true

instance (ids : ToolsIds) (tracker : EventTracker) (isQueue : Bool) (e : Nat) :
    Decidable (tracker.Subscribes ids isQueue e) := by
  unfold EventTracker.Subscribes
  infer_instance

/-- A tracker subscribes to lists of its own kind only. -/
theorem EventTracker.subscribes_add (ids : ToolsIds) (tracker : EventTracker) (e : Nat) :
    (if tracker.Subscribes ids true e then 1 else 0) +
        (if tracker.Subscribes ids false e then 1 else 0) =
      if tracker.Subscribes ids tracker.isQueue e then 1 else 0 := by
  obtain ⟨vaSpace, isQueue, subscribed⟩ := tracker
  cases isQueue <;> simp [EventTracker.Subscribes]

/-- A bit of `subscribed | mask` is an old bit or one that `mask & ~subscribed` adds. -/
theorem getLsbD_or_eq_or_inserted (subscribed mask : NvU64) (e : Nat) :
    (subscribed ||| mask).getLsbD e =
      (subscribed.getLsbD e || (mask &&& ~~~subscribed).getLsbD e) := by
  by_cases he : e < 64
  · simp only [BitVec.getLsbD_and, BitVec.getLsbD_or, BitVec.getLsbD_not, he, decide_True,
      Bool.true_and]
    cases mask.getLsbD e <;> cases subscribed.getLsbD e <;> rfl
  · simp only [BitVec.getLsbD_ge _ _ (Nat.le_of_not_lt he), Bool.false_or, Bool.or_false]

/-- After `insert_event_tracker` of `mask`, a tracker subscribes to a list exactly when it did
before or the insertion linked it there, and it links it only where it was not. -/
theorem subscribes_insertEventTracker (ids : ToolsIds) (tracker : EventTracker) (mask : NvU64)
    (e : Nat) :
    ({ tracker with subscribed := tracker.subscribed ||| mask }.Subscribes ids tracker.isQueue e ↔
      tracker.Subscribes ids tracker.isQueue e ∨
        (decide (e < ids.listCount tracker.isQueue) &&
          (mask &&& ~~~tracker.subscribed).getLsbD e) = true) ∧
    ((decide (e < ids.listCount tracker.isQueue) &&
        (mask &&& ~~~tracker.subscribed).getLsbD e) = true →
      ¬ tracker.Subscribes ids tracker.isQueue e) := by
  simp only [EventTracker.Subscribes, getLsbD_or_eq_or_inserted, Bool.or_eq_true, Bool.and_eq_true,
    decide_eq_true_eq, BitVec.getLsbD_and, BitVec.getLsbD_not, Bool.not_eq_true', true_and]
  constructor
  · tauto
  · rintro ⟨-, -, -, hold⟩ ⟨-, hnew⟩
    rw [hold] at hnew
    cases hnew

/-- `remove_event_tracker` of the lists an `insert_event_tracker` inserted undoes it when no
count it incremented wrapped: the lists, the counts and the subscription mask are back where
they were. -/
theorem removeEventTracker_insertEventTracker (node listCount : Nat) (mask subscribed : NvU64)
    (lists : Nat → List Nat) (counts : Nat → NvU32)
    (hroom : ∀ i < listCount, (mask &&& ~~~subscribed).getLsbD i = true → counts i + 1 ≠ 0) :
    removeEventTracker node listCount
        (insertEventTracker node listCount mask subscribed lists counts).inserted
        (insertEventTracker node listCount mask subscribed lists counts).subscribed
        (insertEventTracker node listCount mask subscribed lists counts).lists
        (insertEventTracker node listCount mask subscribed lists counts).counts =
      .ok ⟨lists, counts, subscribed⟩ := by
  have hremovable : (mask &&& ~~~subscribed) &&& (subscribed ||| mask) = mask &&& ~~~subscribed :=
    BitVec.eq_of_getLsbD_eq fun i => by
      simp only [BitVec.getLsbD_and, BitVec.getLsbD_or, BitVec.getLsbD_not, i.isLt, decide_True,
        Bool.true_and]
      cases mask.getLsbD i <;> cases subscribed.getLsbD i <;> rfl
  have hsubscribed : (subscribed ||| mask) &&& ~~~(mask &&& ~~~subscribed) = subscribed :=
    BitVec.eq_of_getLsbD_eq fun i => by
      simp only [BitVec.getLsbD_and, BitVec.getLsbD_or, BitVec.getLsbD_not, i.isLt, decide_True,
        Bool.true_and]
      cases mask.getLsbD i <;> cases subscribed.getLsbD i <;> rfl
  simp only [removeEventTracker, insertEventTracker, hremovable, hsubscribed]
  rw [if_neg]
  · congr
    · funext i
      split_ifs <;> simp
    · funext i
      split_ifs <;> simp [BitVec.add_sub_cancel]
  · simp only [List.any_eq_true, Bool.and_eq_true, beq_iff_eq, not_exists, not_and,
      decide_eq_true_eq]
    intro i _ hremoves
    rw [if_pos (by simpa using hremoves)]
    exact hroom i hremoves.1 hremoves.2

namespace Registry

/-- The registry after tracker `t` of collector `v` becomes `tracker?`, the lists of kind
`isQueue` of `v` become `lists`, `g_tools_enabled_event_count` becomes `counts`, and
`tools_update_status` of `v` returns `NV_OK`: the shape `destroy_event_tracker` and a
successful attach leave. -/
def resubscribed (ids : ToolsIds) (state : Registry) (v t : Nat) (tracker? : Option EventTracker)
    (isQueue : Bool) (lists : Nat → List Nat) (counts : Nat → NvU32) : Registry :=
  let vaSpace := (state.vaSpaces v).withLists isQueue lists
  { vaSpaces := Function.update state.vaSpaces v (vaSpace.updated ids)
    trackers := Function.update state.trackers t tracker?
    trackerCount := state.trackerCount
    enabledEventCount := counts
    vaSpaceList := relink state.vaSpaceList v vaSpace.enabled (toolsAreEnabled ids vaSpace) }

/-- The registry after the callbacks of collector `v` become `fault` and `migration`, with
nothing else changed: what a failed attach leaves. -/
def withCallbacks (state : Registry) (v : Nat) (fault migration : Bool) : Registry :=
  { state with
    vaSpaces := Function.update state.vaSpaces v
      { state.vaSpaces v with faultCallback := fault, migrationCallback := migration } }

/-- `remove_event_tracker` of everything tracker `t` subscribed, in terms of its subscriptions:
`t` taken out of each list it subscribes to, and that list's count one lower. -/
def unsubscription (ids : ToolsIds) (state : Registry) (t : Nat) (tracker : EventTracker) :
    Removed where
  lists e :=
    if tracker.Subscribes ids tracker.isQueue e then
      ((state.vaSpaces tracker.vaSpace).lists tracker.isQueue e).erase t
    else (state.vaSpaces tracker.vaSpace).lists tracker.isQueue e
  counts e :=
    if tracker.Subscribes ids tracker.isQueue e then state.enabledEventCount e - 1
    else state.enabledEventCount e
  subscribed := 0

section Fields

variable (ids : ToolsIds) (state : Registry) (v t : Nat) (tracker? : Option EventTracker)
  (isQueue : Bool) (lists : Nat → List Nat) (counts : Nat → NvU32)

@[simp] theorem vaSpaces_resubscribed :
    (state.resubscribed ids v t tracker? isQueue lists counts).vaSpaces =
      Function.update state.vaSpaces v (((state.vaSpaces v).withLists isQueue lists).updated ids) :=
  rfl

@[simp] theorem trackers_resubscribed :
    (state.resubscribed ids v t tracker? isQueue lists counts).trackers =
      Function.update state.trackers t tracker? := rfl

@[simp] theorem trackerCount_resubscribed :
    (state.resubscribed ids v t tracker? isQueue lists counts).trackerCount = state.trackerCount :=
  rfl

@[simp] theorem enabledEventCount_resubscribed :
    (state.resubscribed ids v t tracker? isQueue lists counts).enabledEventCount = counts := rfl

@[simp] theorem vaSpaceList_resubscribed :
    (state.resubscribed ids v t tracker? isQueue lists counts).vaSpaceList =
      relink state.vaSpaceList v (state.vaSpaces v).enabled
        (toolsAreEnabled ids ((state.vaSpaces v).withLists isQueue lists)) := by
  simp only [resubscribed, enabled_withLists]

@[simp] theorem trackers_create (isQueue : Bool) :
    (state.create v isQueue).trackers =
      Function.update state.trackers state.trackerCount (some ⟨v, isQueue, 0⟩) := rfl

@[simp] theorem trackerCount_create (isQueue : Bool) :
    (state.create v isQueue).trackerCount = state.trackerCount + 1 := rfl

@[simp] theorem vaSpaces_create (isQueue : Bool) :
    (state.create v isQueue).vaSpaces = state.vaSpaces := rfl

/-- A failed attach changes no list. -/
@[simp] theorem lists_withCallbacks (fault migration : Bool) (v' : Nat) :
    ((state.withCallbacks v fault migration).vaSpaces v').lists = (state.vaSpaces v').lists := by
  simp only [withCallbacks, Function.update_apply]
  split_ifs with hv
  · subst hv
    rfl
  · rfl

end Fields

/-- The invariant of the registry. -/
structure Consistent (ids : ToolsIds) (state : Registry) : Prop where
  /-- A collector's list holds exactly the trackers of that collector subscribed to it. -/
  mem_lists : ∀ v isQueue e t, t ∈ (state.vaSpaces v).lists isQueue e ↔
    ∃ tracker, state.trackers t = some tracker ∧ tracker.vaSpace = v ∧
      tracker.Subscribes ids isQueue e
  /-- Each at most once. -/
  nodup : ∀ v isQueue e, ((state.vaSpaces v).lists isQueue e).Nodup
  /-- No tracker has an index past the count. -/
  bounded : ∀ t, state.trackerCount ≤ t → state.trackers t = none
  /-- `g_tools_enabled_event_count[e]` counts the queue trackers linked into a
  `tools.queues[e]` and the counter trackers linked into a `tools.counters[e]`. -/
  counted : ∀ e, (state.enabledEventCount e).toNat = state.linked true e + state.linked false e
  /-- Fewer than `2 ^ 32` trackers are live, so no count has wrapped. -/
  room : state.liveTrackers ≤ 2 ^ 32 - 1
  /-- `tools.enabled` is `tools_are_enabled`. -/
  enabled : ∀ v, (state.vaSpaces v).enabled = toolsAreEnabled ids (state.vaSpaces v)
  /-- A collector is in `g_tools_va_space_list` once when enabled, and not otherwise. -/
  linkedOnce : ∀ v, state.vaSpaceList.count v = if (state.vaSpaces v).enabled then 1 else 0
  /-- A needed `uvm_tools_record_fault` is registered. -/
  faultRegistered : ∀ v, toolsIsFaultCallbackNeeded ids (state.vaSpaces v) = true →
    (state.vaSpaces v).faultCallback = true
  /-- A needed `uvm_tools_record_migration` is registered. -/
  migrationRegistered : ∀ v, toolsIsMigrationCallbackNeeded ids (state.vaSpaces v) = true →
    (state.vaSpaces v).migrationCallback = true

variable {ids : ToolsIds} {state : Registry}

/-- A tracker has an index below the count. -/
theorem Consistent.lt_trackerCount (hc : state.Consistent ids) {t : Nat} {tracker : EventTracker}
    (htracker : state.trackers t = some tracker) : t < state.trackerCount :=
  Nat.lt_of_not_le fun hge => by rw [hc.bounded t hge] at htracker; cases htracker

section Membership

variable (hmem : ∀ v isQueue e t, t ∈ (state.vaSpaces v).lists isQueue e ↔
  ∃ tracker, state.trackers t = some tracker ∧ tracker.vaSpace = v ∧
    tracker.Subscribes ids isQueue e)

include hmem in
/-- Under the membership part of the invariant, a tracker is in its own collector's lists
exactly where it subscribes. -/
theorem mem_own_lists {t : Nat} {tracker : EventTracker}
    (htracker : state.trackers t = some tracker)
    (isQueue : Bool) (e : Nat) :
    t ∈ (state.vaSpaces tracker.vaSpace).lists isQueue e ↔ tracker.Subscribes ids isQueue e := by
  rw [hmem]
  constructor
  · rintro ⟨tracker', htracker', -, hsubscribes⟩
    rw [htracker] at htracker'
    cases htracker'
    exact hsubscribes
  · exact fun hsubscribes => ⟨tracker, htracker, rfl, hsubscribes⟩

include hmem in
/-- Under the membership part of the invariant, a tracker is listed exactly where it
subscribes. -/
theorem listed_eq (isQueue : Bool) (e t : Nat) :
    state.listed isQueue e t =
      (state.trackers t).any fun tracker => decide (tracker.Subscribes ids isQueue e) := by
  unfold listed
  cases htracker : state.trackers t with
  | none => rfl
  | some tracker =>
      simp only [Option.any_some, mem_own_lists hmem htracker]
      by_cases hkind : tracker.isQueue = isQueue <;> simp [EventTracker.Subscribes, hkind]

end Membership

/-- A tracker is listed in lists of one kind at most, and only while it is live. -/
theorem listed_add_listed_le (state : Registry) (e t : Nat) :
    (if state.listed true e t then 1 else 0) + (if state.listed false e t then 1 else 0) ≤
      if (state.trackers t).isSome then 1 else 0 := by
  unfold listed
  cases state.trackers t with
  | none => simp
  | some tracker =>
      obtain ⟨v, isQueue, subscribed⟩ := tracker
      cases isQueue <;> simp <;> split_ifs <;> omega

/-- Each live tracker is linked into a list `e` of one kind at most. -/
theorem linked_add_linked_le (state : Registry) (e : Nat) :
    state.linked true e + state.linked false e ≤ state.liveTrackers := by
  have hle := @countP_add_countP_add_countP_le Nat (state.listed true e) (state.listed false e)
    (fun _ => false) (fun t => (state.trackers t).isSome) (List.range state.trackerCount)
    fun t _ => by simpa using listed_add_listed_le state e t
  simpa [linked, liveTrackers] using hle

/-- A live tracker on no list `e` leaves the tally of list `e` below the live trackers. -/
theorem linked_add_linked_lt {e t : Nat} (hlive : t < state.trackerCount)
    (hsome : (state.trackers t).isSome = true) (hqueue : state.listed true e t = false)
    (hcounter : state.listed false e t = false) :
    state.linked true e + state.linked false e < state.liveTrackers := by
  have hle := @countP_add_countP_add_countP_le Nat (state.listed true e) (state.listed false e)
    (· == t) (fun t => (state.trackers t).isSome) (List.range state.trackerCount)
    fun x _ => by
      by_cases hx : x = t
      · subst hx
        simp [hqueue, hcounter, hsome]
      · simpa [hx] using listed_add_listed_le state e x
  have hone : (List.range state.trackerCount).countP (· == t) = 1 :=
    List.count_eq_one_of_mem (List.nodup_range _) (List.mem_range.mpr hlive)
  unfold linked liveTrackers
  omega

/-- Over a consistent registry, a count is zero exactly when no tracker is on its lists. -/
theorem Consistent.enabledEventCount_eq_zero_iff (hc : state.Consistent ids) (e : Nat) :
    state.enabledEventCount e = 0 ↔ state.linked true e + state.linked false e = 0 := by
  rw [← hc.counted e, BitVec.toNat_eq]
  rfl

/-- Each count of a subscribed list is not zero. -/
theorem Consistent.enabledEventCount_ne_zero (hc : state.Consistent ids) {t : Nat}
    {tracker : EventTracker} (htracker : state.trackers t = some tracker) {e : Nat}
    (hsubscribes : tracker.Subscribes ids tracker.isQueue e) : state.enabledEventCount e ≠ 0 := by
  have hlinked : 0 < state.linked tracker.isQueue e :=
    List.countP_pos_iff.mpr ⟨t, List.mem_range.mpr (hc.lt_trackerCount htracker), by
      simp [listed_eq hc.mem_lists, htracker, hsubscribes]⟩
  rw [Ne, hc.enabledEventCount_eq_zero_iff]
  rcases Bool.eq_false_or_eq_true tracker.isQueue with hkind | hkind <;> rw [hkind] at hlinked <;>
    omega

@[simp] theorem lists_updated (vaSpace : ToolsVaSpace) (isQueue : Bool) :
    (vaSpace.updated ids).lists isQueue = vaSpace.lists isQueue := by
  cases isQueue <;> rfl

/-- Changing a live tracker adds no live tracker. -/
theorem liveTrackers_resubscribed_le {t : Nat} {tracker : EventTracker}
    (htracker : state.trackers t = some tracker) (v : Nat) (tracker? : Option EventTracker)
    (isQueue : Bool) (lists : Nat → List Nat) (counts : Nat → NvU32) :
    (state.resubscribed ids v t tracker? isQueue lists counts).liveTrackers ≤
      state.liveTrackers := by
  unfold liveTrackers
  rw [trackerCount_resubscribed, trackers_resubscribed]
  refine List.countP_mono_left fun x _ hx => ?_
  by_cases hxt : x = t
  · subst hxt
    simp [htracker]
  · simpa [Function.update_noteq hxt] using hx

section Resubscribe

variable (hc : state.Consistent ids) {t : Nat} {tracker : EventTracker}
  (htracker : state.trackers t = some tracker) {tracker? : Option EventTracker}
  (hsame : ∀ tracker', tracker? = some tracker' →
    tracker'.vaSpace = tracker.vaSpace ∧ tracker'.isQueue = tracker.isQueue)
  {lists : Nat → List Nat}
  (hlists : ∀ e t', t' ∈ lists e ↔
    (t' ∈ (state.vaSpaces tracker.vaSpace).lists tracker.isQueue e ∧ t' ≠ t) ∨
      (t' = t ∧ ∃ tracker', tracker? = some tracker' ∧ tracker'.Subscribes ids tracker.isQueue e))

include hc htracker hsame hlists in
/-- The lists after a change of one tracker hold exactly the subscribed trackers. -/
theorem mem_lists_resubscribed (counts : Nat → NvU32) (v : Nat) (isQueue : Bool) (e t' : Nat) :
    t' ∈ ((state.resubscribed ids tracker.vaSpace t tracker? tracker.isQueue lists counts).vaSpaces
        v).lists isQueue e ↔
      ∃ tracker', (state.resubscribed ids tracker.vaSpace t tracker? tracker.isQueue lists
        counts).trackers t' = some tracker' ∧ tracker'.vaSpace = v ∧
        tracker'.Subscribes ids isQueue e := by
  have hold := hc.mem_lists v isQueue e t'
  rw [vaSpaces_resubscribed, trackers_resubscribed]
  by_cases ht' : t' = t
  · subst ht'
    have hnot : ¬ (t' ∈ (state.vaSpaces v).lists isQueue e ∧
        ¬ (v = tracker.vaSpace ∧ isQueue = tracker.isQueue)) := fun ⟨hmem, hother⟩ => by
      obtain ⟨tracker', htracker', hvaSpace, hsubscribes⟩ := hold.mp hmem
      rw [htracker] at htracker'
      cases htracker'
      exact hother ⟨hvaSpace.symm, hsubscribes.1.symm⟩
    rw [Function.update_same, Function.update_apply]
    split_ifs with hv
    · subst hv
      rw [lists_updated, lists_withLists]
      split_ifs with hq
      · subst hq
        rw [hlists]
        constructor
        · rintro (⟨-, hne⟩ | ⟨-, tracker', htracker', hsubscribes⟩)
          · exact absurd rfl hne
          · exact ⟨tracker', htracker', (hsame tracker' htracker').1, hsubscribes⟩
        · rintro ⟨tracker', htracker', -, hsubscribes⟩
          exact .inr ⟨rfl, tracker', htracker', hsubscribes⟩
      · constructor
        · exact fun hmem => absurd ⟨hmem, fun h => hq h.2⟩ hnot
        · rintro ⟨tracker', htracker', -, hsubscribes⟩
          exact absurd (hsubscribes.1.symm.trans (hsame tracker' htracker').2) hq
    · constructor
      · exact fun hmem => absurd ⟨hmem, fun h => hv h.1⟩ hnot
      · rintro ⟨tracker', htracker', hvaSpace, -⟩
        exact absurd (hvaSpace.symm.trans (hsame tracker' htracker').1) hv
  · rw [Function.update_noteq ht', Function.update_apply, ← hold]
    split_ifs with hv
    · subst hv
      rw [lists_updated, lists_withLists]
      split_ifs with hq
      · subst hq
        rw [hlists]
        simp [ht']
      · rfl
    · rfl

include hc htracker hsame hlists in
/-- Across the change of tracker `t`, the tally of the lists `e` of kind `isQueue` moves by
what `t` subscribes to before and after. -/
theorem linked_resubscribed (counts : Nat → NvU32) (isQueue : Bool) (e : Nat) :
    (state.resubscribed ids tracker.vaSpace t tracker? tracker.isQueue lists counts).linked
        isQueue e + (if tracker.Subscribes ids isQueue e then 1 else 0) =
      state.linked isQueue e +
        if tracker?.any fun tracker' => decide (tracker'.Subscribes ids isQueue e) then 1
        else 0 := by
  have hnew := listed_eq (mem_lists_resubscribed hc htracker hsame hlists counts) isQueue e
  have hold := listed_eq hc.mem_lists isQueue e
  have hmoved := @countP_range_add state.trackerCount t
    ((state.resubscribed ids tracker.vaSpace t tracker? tracker.isQueue lists counts).listed
      isQueue e)
    (state.listed isQueue e) fun i hi => by
      rw [hnew, hold, trackers_resubscribed, Function.update_noteq hi]
  simp only [hnew, hold, trackers_resubscribed, Function.update_same, htracker, Option.any_some,
    decide_eq_true_eq, hc.lt_trackerCount htracker, true_and] at hmoved
  exact hmoved

include hc htracker hsame hlists in
/-- Changing what one tracker subscribes to, with its collector's lists and the counts
moving along, and a `tools_update_status` of the collector that returns `NV_OK`, keeps the
invariant. -/
theorem Consistent.resubscribed (hnodup : ∀ e, (lists e).Nodup) {counts : Nat → NvU32}
    (hcounts : ∀ e, counts e + (if tracker.Subscribes ids tracker.isQueue e then 1 else 0) =
      state.enabledEventCount e +
        if tracker?.any fun tracker' => decide (tracker'.Subscribes ids tracker.isQueue e)
        then 1 else 0) :
    (state.resubscribed ids tracker.vaSpace t tracker? tracker.isQueue lists counts).Consistent
      ids where
  mem_lists := mem_lists_resubscribed hc htracker hsame hlists counts
  nodup v isQueue e := by
    rw [vaSpaces_resubscribed, Function.update_apply]
    split_ifs with hv
    · subst hv
      rw [lists_updated, lists_withLists]
      split_ifs with hkind
      · exact hnodup e
      · exact hc.nodup _ _ _
    · exact hc.nodup v isQueue e
  bounded t' hbeyond := by
    have ht := hc.lt_trackerCount htracker
    rw [trackerCount_resubscribed] at hbeyond
    rw [trackers_resubscribed, Function.update_noteq (by omega), hc.bounded t' hbeyond]
  counted e := by
    have hqueues := linked_resubscribed hc htracker hsame hlists counts true e
    have hcounters := linked_resubscribed hc htracker hsame hlists counts false e
    have hkinds := tracker.subscribes_add ids e
    have hkinds' : ((if tracker?.any fun tracker' => decide (tracker'.Subscribes ids true e)
          then 1 else 0) +
        if tracker?.any fun tracker' => decide (tracker'.Subscribes ids false e) then 1 else 0) =
        if tracker?.any fun tracker' => decide (tracker'.Subscribes ids tracker.isQueue e)
        then 1 else 0 := by
      cases tracker? with
      | none => rfl
      | some tracker' =>
          simp only [Option.any_some, decide_eq_true_eq]
          rw [← (hsame tracker' rfl).2]
          exact tracker'.subscribes_add ids e
    have hroom := (linked_add_linked_le
      (state.resubscribed ids tracker.vaSpace t tracker? tracker.isQueue lists counts) e).trans
      ((liveTrackers_resubscribed_le htracker tracker.vaSpace tracker? tracker.isQueue lists
        counts).trans hc.room)
    rw [enabledEventCount_resubscribed]
    exact toNat_eq_of_moved (hcounts e) (by omega) (hc.counted e) (by omega)
  room := (liveTrackers_resubscribed_le htracker _ _ _ _ _).trans hc.room
  enabled v := by
    rw [vaSpaces_resubscribed, Function.update_apply]
    split_ifs
    · rfl
    · exact hc.enabled v
  linkedOnce w := by
    rw [vaSpaceList_resubscribed, count_relink (hc.linkedOnce tracker.vaSpace),
        vaSpaces_resubscribed]
    by_cases hw : w = tracker.vaSpace
    · rw [if_pos hw, hw, Function.update_same]
      rfl
    · rw [if_neg hw, Function.update_noteq hw]
      exact hc.linkedOnce w
  faultRegistered v := by
    rw [vaSpaces_resubscribed, Function.update_apply]
    split_ifs
    · exact id
    · exact hc.faultRegistered v
  migrationRegistered v := by
    rw [vaSpaces_resubscribed, Function.update_apply]
    split_ifs
    · exact id
    · exact hc.migrationRegistered v

end Resubscribe

/-! ## Attach, destroy and create -/

section Steps

variable {t : Nat} {tracker : EventTracker} {mask : NvU64}
  {faultStatus migrationStatus : NvStatus}

/-- A successful attach keeps the invariant. -/
theorem Consistent.attached (hc : state.Consistent ids) (htracker : state.trackers t = some tracker)
    (mask : NvU64) :
    (state.resubscribed ids tracker.vaSpace t
      (some { tracker with subscribed := (state.insertion ids t tracker mask).subscribed })
      tracker.isQueue (state.insertion ids t tracker mask).lists
      (state.insertion ids t tracker mask).counts).Consistent ids := by
  have hown := mem_own_lists hc.mem_lists htracker tracker.isQueue
  refine hc.resubscribed htracker (fun _ hsome => by cases hsome; exact ⟨rfl, rfl⟩)
    (fun e t' => ?_) (fun e => ?_) (fun e => ?_)
  · obtain ⟨hsubscribes, -⟩ := subscribes_insertEventTracker ids tracker mask e
    simp only [insertion, insertEventTracker, Option.some.injEq, exists_eq_left', hsubscribes]
    split_ifs with hinserts
    · by_cases ht' : t' = t
      · subst ht'
        exact iff_of_true (List.mem_cons_self _ _) (.inr ⟨rfl, .inr hinserts⟩)
      · simp [ht']
    · by_cases ht' : t' = t
      · subst ht'
        simp only [hown, ne_eq, not_true_eq_false, and_false, false_or, true_and, hinserts,
          Bool.false_eq_true, or_false]
      · simp [ht']
  · simp only [insertion, insertEventTracker]
    split_ifs with hinserts
    · exact List.nodup_cons.mpr ⟨fun hmem =>
        (subscribes_insertEventTracker ids tracker mask e).2 hinserts ((hown e).mp hmem),
        hc.nodup _ _ _⟩
    · exact hc.nodup _ _ _
  · obtain ⟨hsubscribes, hfresh⟩ := subscribes_insertEventTracker ids tracker mask e
    simp only [insertion, insertEventTracker, Option.any_some, decide_eq_true_eq, hsubscribes]
    by_cases hold : tracker.Subscribes ids tracker.isQueue e
    · rw [if_neg fun hinserts => hfresh hinserts hold, if_pos hold, if_pos (.inl hold)]
    · simp only [hold, if_false, false_or]
      split_ifs <;> simp

/-- An attach whose callbacks end up in place succeeds: the tracker's new subscriptions are
linked and counted, and the collector's status is brought up to date. -/
theorem attach_of_callbacks_ok {vaSpace' : ToolsVaSpace}
    (hupdate : toolsUpdatePerfEventsCallbacks ids ((state.vaSpaces tracker.vaSpace).withLists
      tracker.isQueue (state.insertion ids t tracker mask).lists) faultStatus migrationStatus =
        (.ok, vaSpace')) :
    state.attach ids t tracker mask faultStatus migrationStatus =
      .ok (.ok, state.resubscribed ids tracker.vaSpace t
        (some { tracker with subscribed := (state.insertion ids t tracker mask).subscribed })
        tracker.isQueue (state.insertion ids t tracker mask).lists
        (state.insertion ids t tracker mask).counts) := by
  unfold attach
  simp only [toolsUpdateStatus_eq_updated_of_ok hupdate]
  rfl

/-- An attach whose callback update fails returns that status. Removing the inserted lists
again restores the lists, the counts and the tracker, but the callbacks keep what the
update did to them. -/
theorem attach_of_callbacks_error (htracker : state.trackers t = some tracker)
    (hroom : ∀ i < ids.listCount tracker.isQueue,
      (mask &&& ~~~tracker.subscribed).getLsbD i = true → state.enabledEventCount i + 1 ≠ 0)
    {status : NvStatus} {vaSpace' : ToolsVaSpace}
    (hupdate : toolsUpdatePerfEventsCallbacks ids ((state.vaSpaces tracker.vaSpace).withLists
      tracker.isQueue (state.insertion ids t tracker mask).lists) faultStatus migrationStatus =
        (status, vaSpace'))
    (hfailed : status ≠ .ok) :
    state.attach ids t tracker mask faultStatus migrationStatus =
      .ok (status, state.withCallbacks tracker.vaSpace vaSpace'.faultCallback
        vaSpace'.migrationCallback) := by
  obtain ⟨hshape, -⟩ := toolsUpdatePerfEventsCallbacks_spec hupdate
  have hlists : vaSpace'.lists tracker.isQueue = (state.insertion ids t tracker mask).lists := by
    rw [hshape]
    exact (lists_withLists _ _ _ _).trans (if_pos rfl)
  have hrestored : vaSpace'.withLists tracker.isQueue
      ((state.vaSpaces tracker.vaSpace).lists tracker.isQueue) =
      { state.vaSpaces tracker.vaSpace with
        faultCallback := vaSpace'.faultCallback
        migrationCallback := vaSpace'.migrationCallback } := by
    rw [hshape]
    exact withLists_restore _ _ _ _ _
  unfold attach
  simp only [toolsUpdateStatus_eq_error hupdate hfailed]
  rw [hlists, insertion, removeEventTracker_insertEventTracker _ _ _ _ _ _ hroom]
  simp only [hrestored, withCallbacks, Except.ok.injEq, Prod.mk.injEq, true_and, Registry.mk.injEq,
    and_true, Function.update_eq_self_iff, htracker]

/-- Under the invariant no count an attach increments wraps: the tracker is live and on none
of the lists it is inserted into, so each of their counts is below the live trackers. -/
theorem Consistent.insertion_room (hc : state.Consistent ids)
    (htracker : state.trackers t = some tracker) (mask : NvU64) :
    ∀ i < ids.listCount tracker.isQueue, (mask &&& ~~~tracker.subscribed).getLsbD i = true →
      state.enabledEventCount i + 1 ≠ 0 := by
  intro i _ hinserts
  have hunset : tracker.subscribed.getLsbD i = false := by
    simp only [BitVec.getLsbD_and, BitVec.getLsbD_not, Bool.and_eq_true, Bool.not_eq_true']
      at hinserts
    exact hinserts.2.2
  have hunlisted : ∀ isQueue, state.listed isQueue i t = false := fun isQueue => by
    simp [listed_eq hc.mem_lists, htracker, EventTracker.Subscribes, hunset]
  have hlt := linked_add_linked_lt (hc.lt_trackerCount htracker) (by simp [htracker])
    (hunlisted true) (hunlisted false)
  have hcounted := hc.counted i
  have hroom := hc.room
  rw [Ne, BitVec.toNat_eq, BitVec.toNat_add]
  simp only [BitVec.toNat_ofNat, BitVec.ofNat_eq_ofNat]
  omega

/-- What an attach can do: succeed and resubscribe the tracker, or fail with the status of a
callback registration and change only the callbacks. -/
theorem attach_cases (htracker : state.trackers t = some tracker)
    (hroom : ∀ i < ids.listCount tracker.isQueue,
      (mask &&& ~~~tracker.subscribed).getLsbD i = true → state.enabledEventCount i + 1 ≠ 0)
    {status : NvStatus} {next : Registry}
    (hattach : state.attach ids t tracker mask faultStatus migrationStatus = .ok (status, next)) :
    next = state.resubscribed ids tracker.vaSpace t
        (some { tracker with subscribed := (state.insertion ids t tracker mask).subscribed })
        tracker.isQueue (state.insertion ids t tracker mask).lists
        (state.insertion ids t tracker mask).counts ∨
      ∃ vaSpace', toolsUpdatePerfEventsCallbacks ids ((state.vaSpaces tracker.vaSpace).withLists
        tracker.isQueue (state.insertion ids t tracker mask).lists) faultStatus migrationStatus =
          (status, vaSpace') ∧
        next = state.withCallbacks tracker.vaSpace vaSpace'.faultCallback
          vaSpace'.migrationCallback := by
  rcases hupdate : toolsUpdatePerfEventsCallbacks ids ((state.vaSpaces tracker.vaSpace).withLists
    tracker.isQueue (state.insertion ids t tracker mask).lists) faultStatus migrationStatus
    with ⟨status', vaSpace'⟩
  by_cases hok : status' = .ok
  · subst hok
    rw [attach_of_callbacks_ok hupdate] at hattach
    cases hattach
    exact .inl rfl
  · rw [attach_of_callbacks_error htracker hroom hupdate hok] at hattach
    cases hattach
    exact .inr ⟨vaSpace', rfl, rfl⟩

/-- Changing only a collector's callbacks keeps the invariant as long as each needed callback
stays registered. -/
theorem Consistent.withCallbacks (hc : state.Consistent ids) {v : Nat} {fault migration : Bool}
    (hfault : toolsIsFaultCallbackNeeded ids (state.vaSpaces v) = true → fault = true)
    (hmigration : toolsIsMigrationCallbackNeeded ids (state.vaSpaces v) = true →
      migration = true) :
    (state.withCallbacks v fault migration).Consistent ids := by
  have hlisted : (state.withCallbacks v fault migration).listed = state.listed := by
    funext isQueue e t
    simp only [listed, lists_withCallbacks]
    rfl
  refine ⟨fun v' isQueue e t => ?_, fun v' isQueue e => ?_, hc.bounded, fun e => ?_, hc.room,
    fun v' => ?_, fun v' => ?_, fun v' => ?_, fun v' => ?_⟩
  · rw [lists_withCallbacks]
    exact hc.mem_lists v' isQueue e t
  · rw [lists_withCallbacks]
    exact hc.nodup v' isQueue e
  · unfold linked
    rw [hlisted]
    exact hc.counted e
  all_goals
    by_cases hv : v' = v
    · subst hv
      simp only [Registry.withCallbacks, Function.update_same]
      first | exact hc.enabled _ | exact hc.linkedOnce _ | exact hfault | exact hmigration
    · simp only [Registry.withCallbacks, Function.update_noteq hv]
      first | exact hc.enabled v' | exact hc.linkedOnce v' | exact hc.faultRegistered v' |
        exact hc.migrationRegistered v'

/-- An insertion only adds to the lists. -/
theorem lists_insertion_ne_nil (isQueue : Bool) (e : Nat)
    (hne : (state.vaSpaces tracker.vaSpace).lists isQueue e ≠ []) :
    ((state.vaSpaces tracker.vaSpace).withLists tracker.isQueue
      (state.insertion ids t tracker mask).lists).lists isQueue e ≠ [] := by
  rw [lists_withLists]
  split_ifs with hkind
  · subst hkind
    simp only [insertion, insertEventTracker]
    split_ifs
    · exact List.cons_ne_nil _ _
    · exact hne
  · exact hne

/-- A failed attach keeps the invariant: the callback update it leaves registers, never
unregisters, a callback the collector needed before the insertion. -/
theorem Consistent.attach_failed (hc : state.Consistent ids) {status : NvStatus}
    {vaSpace' : ToolsVaSpace}
    (hupdate : toolsUpdatePerfEventsCallbacks ids ((state.vaSpaces tracker.vaSpace).withLists
      tracker.isQueue (state.insertion ids t tracker mask).lists) faultStatus migrationStatus =
        (status, vaSpace')) :
    (state.withCallbacks tracker.vaSpace vaSpace'.faultCallback
        vaSpace'.migrationCallback).Consistent
      ids := by
  obtain ⟨-, hfault, hmigration, -⟩ := toolsUpdatePerfEventsCallbacks_spec hupdate
  rw [faultCallback_withLists] at hfault
  rw [migrationCallback_withLists] at hmigration
  refine hc.withCallbacks (fun hneeded => ?_) (fun hneeded => ?_)
  · rcases hfault with hkept | hnow
    · exact hkept.trans (hc.faultRegistered _ hneeded)
    · exact hnow.trans (callbackNeeded_of_shrunk (lists_insertion_ne_nil) hneeded)
  · rcases hmigration with hkept | hnow
    · exact hkept.trans (hc.migrationRegistered _ hneeded)
    · exact hnow.trans (callbackNeeded_of_shrunk (lists_insertion_ne_nil) hneeded)

/-- Under the invariant, `remove_event_tracker` of everything a tracker subscribed never fails
its assertion, and takes the tracker out of exactly the lists it subscribes to. -/
theorem Consistent.removeEventTracker_eq (hc : state.Consistent ids)
    (htracker : state.trackers t = some tracker) :
    removeEventTracker t (ids.listCount tracker.isQueue) tracker.subscribed tracker.subscribed
        ((state.vaSpaces tracker.vaSpace).lists tracker.isQueue) state.enabledEventCount =
      .ok (state.unsubscription ids t tracker) := by
  have hremoves : ∀ i, (decide (i < ids.listCount tracker.isQueue) &&
      (tracker.subscribed &&& tracker.subscribed).getLsbD i) =
      decide (tracker.Subscribes ids tracker.isQueue i) := by
    intro i
    simp [EventTracker.Subscribes, BitVec.and_self]
  have hcleared : tracker.subscribed &&& ~~~tracker.subscribed = 0 :=
    BitVec.eq_of_getLsbD_eq fun i => by
      simp [BitVec.getLsbD_and, BitVec.getLsbD_not, i.isLt]
  simp only [removeEventTracker, hremoves, hcleared, decide_eq_true_eq]
  rw [if_neg]
  · rfl
  · simp only [List.any_eq_true, Bool.and_eq_true, decide_eq_true_eq, beq_iff_eq, not_exists,
      not_and]
    exact fun _ _ hsubscribes => hc.enabledEventCount_ne_zero htracker hsubscribes

/-- Under the invariant, `destroy_event_tracker` succeeds whatever a registration would return:
its `tools_update_status` has nothing to register, so it returns `NV_OK`. -/
theorem Consistent.destroyEventTracker_eq (hc : state.Consistent ids)
    (htracker : state.trackers t = some tracker) (faultStatus migrationStatus : NvStatus) :
    state.destroyEventTracker ids t tracker faultStatus migrationStatus =
      .ok (state.resubscribed ids tracker.vaSpace t none tracker.isQueue
        (state.unsubscription ids t tracker).lists
            (state.unsubscription ids t tracker).counts) := by
  have hshrunk : ∀ isQueue e, ((state.vaSpaces tracker.vaSpace).withLists tracker.isQueue
      (state.unsubscription ids t tracker).lists).lists isQueue e ≠ [] →
      (state.vaSpaces tracker.vaSpace).lists isQueue e ≠ [] := by
    intro isQueue e
    rw [lists_withLists]
    split_ifs with hkind
    · subst hkind
      simp only [unsubscription]
      split_ifs
      · exact fun hne hnil => hne (by rw [hnil]; rfl)
      · exact id
    · exact id
  have hfault : toolsIsFaultCallbackNeeded ids ((state.vaSpaces tracker.vaSpace).withLists
      tracker.isQueue (state.unsubscription ids t tracker).lists) = true →
      ((state.vaSpaces tracker.vaSpace).withLists tracker.isQueue
        (state.unsubscription ids t tracker).lists).faultCallback = true ∨ faultStatus = .ok :=
    fun hneeded => .inl ((faultCallback_withLists _ _ _).trans
      (hc.faultRegistered _ (callbackNeeded_of_shrunk hshrunk hneeded)))
  have hmigration : toolsIsMigrationCallbackNeeded ids ((state.vaSpaces tracker.vaSpace).withLists
      tracker.isQueue (state.unsubscription ids t tracker).lists) = true →
      ((state.vaSpaces tracker.vaSpace).withLists tracker.isQueue
        (state.unsubscription ids t tracker).lists).migrationCallback = true ∨
        migrationStatus = .ok :=
    fun hneeded => .inl ((migrationCallback_withLists _ _ _).trans
      (hc.migrationRegistered _ (callbackNeeded_of_shrunk hshrunk hneeded)))
  simp only [destroyEventTracker, hc.removeEventTracker_eq htracker,
    toolsUpdateStatus_eq_updated hfault hmigration]
  rfl

/-- Destroying a tracker keeps the invariant. -/
theorem Consistent.unsubscribed (hc : state.Consistent ids)
    (htracker : state.trackers t = some tracker) :
    (state.resubscribed ids tracker.vaSpace t none tracker.isQueue
      (state.unsubscription ids t tracker).lists
      (state.unsubscription ids t tracker).counts).Consistent ids := by
  have hown := mem_own_lists hc.mem_lists htracker tracker.isQueue
  refine hc.resubscribed htracker (fun _ hnone => by cases hnone) (fun e t' => ?_) (fun e => ?_)
    (fun e => ?_)
  all_goals simp only [unsubscription]
  · split_ifs with hsubscribes
    · simp [(hc.nodup _ _ e).mem_erase_iff, and_comm]
    · have hout : t ∉ (state.vaSpaces tracker.vaSpace).lists tracker.isQueue e :=
        fun hmem => hsubscribes ((hown e).mp hmem)
      by_cases ht' : t' = t
      · subst ht'
        simp [hout]
      · simp [ht']
  · split_ifs
    · exact (hc.nodup _ _ e).erase t
    · exact hc.nodup _ _ e
  · simp only [Option.any_none, Bool.false_eq_true, if_false]
    split_ifs <;> simp [BitVec.sub_add_cancel]

/-- Creating a tracker adds one live tracker. -/
theorem liveTrackers_create (v : Nat) (isQueue : Bool) :
    (state.create v isQueue).liveTrackers = state.liveTrackers + 1 := by
  unfold liveTrackers
  rw [trackerCount_create, List.range_succ, List.countP_append, List.countP_singleton,
    trackers_create, Function.update_same]
  congr 1
  exact List.countP_congr fun i hi => by rw [Function.update_noteq (List.mem_range.mp hi).ne]

/-- Creating a tracker, subscribed to nothing, while fewer than `2 ^ 32 - 1` are live keeps
the invariant. -/
theorem Consistent.create (hc : state.Consistent ids) (v : Nat) (isQueue : Bool)
    (hroom : state.liveTrackers < 2 ^ 32 - 1) : (state.create v isQueue).Consistent ids := by
  have hnothing : ∀ isQueue' e, ¬ (⟨v, isQueue, 0⟩ : EventTracker).Subscribes ids isQueue' e := by
    simp [EventTracker.Subscribes]
  have hmem : ∀ v' isQueue' e t, t ∈ ((state.create v isQueue).vaSpaces v').lists isQueue' e ↔
      ∃ tracker, (state.create v isQueue).trackers t = some tracker ∧ tracker.vaSpace = v' ∧
        tracker.Subscribes ids isQueue' e := by
    intro v' isQueue' e t
    rw [vaSpaces_create, hc.mem_lists, trackers_create, Function.update_apply]
    split_ifs with ht
    · subst ht
      exact iff_of_false (fun ⟨_, hnone, _⟩ => by rw [hc.bounded _ le_rfl] at hnone; cases hnone)
        (fun ⟨_, hsome, _, hsubscribes⟩ => by cases hsome; exact hnothing _ _ hsubscribes)
    · rfl
  have hlinked : ∀ isQueue' e,
      (state.create v isQueue).linked isQueue' e = state.linked isQueue' e := by
    intro isQueue' e
    have hnew := listed_eq hmem isQueue' e
    have hold := listed_eq hc.mem_lists isQueue' e
    unfold linked
    rw [trackerCount_create, List.range_succ, List.countP_append, List.countP_singleton, hnew,
      trackers_create, Function.update_same]
    simp only [Option.any_some, hnothing, decide_False, Bool.false_eq_true, if_false,
      Nat.add_zero]
    refine List.countP_congr fun i hi => ?_
    rw [hnew, hold, trackers_create, Function.update_noteq (List.mem_range.mp hi).ne]
  exact {
    mem_lists := hmem
    nodup := hc.nodup
    bounded := fun t hbeyond => by
      rw [trackerCount_create] at hbeyond
      rw [trackers_create, Function.update_noteq (by omega), hc.bounded t (by omega)]
    counted := fun e => by rw [hlinked, hlinked]; exact hc.counted e
    room := by rw [liveTrackers_create]; omega
    enabled := hc.enabled
    linkedOnce := hc.linkedOnce
    faultRegistered := hc.faultRegistered
    migrationRegistered := hc.migrationRegistered }

end Steps

/-- The registry starts consistent. -/
theorem consistent_initialRegistry (ids : ToolsIds) : initialRegistry.Consistent ids where
  mem_lists _ isQueue _ _ := by cases isQueue <;> simp [initialRegistry, ToolsVaSpace.lists]
  nodup _ isQueue _ := by cases isQueue <;> exact List.nodup_nil
  bounded _ _ := rfl
  counted _ := rfl
  room := Nat.zero_le _
  enabled _ := by
    simp [initialRegistry, toolsAreEnabled, toolsIsCounterEnabled, toolsIsEventEnabled]
  linkedOnce _ := rfl
  faultRegistered _ hneeded := by
    simp [initialRegistry, toolsIsFaultCallbackNeeded, callbackNeeded, toolsIsEventEnabled,
      toolsIsCounterEnabled] at hneeded
  migrationRegistered _ hneeded := by
    simp [initialRegistry, toolsIsMigrationCallbackNeeded, callbackNeeded, toolsIsEventEnabled,
      toolsIsCounterEnabled] at hneeded

/-- Some tracker of a kind is linked into a list `e` of that kind exactly when some collector's
list `e` of that kind is not empty. -/
theorem Consistent.linked_pos_iff (hc : state.Consistent ids) (isQueue : Bool) (e : Nat) :
    0 < state.linked isQueue e ↔ ∃ v, (state.vaSpaces v).lists isQueue e ≠ [] := by
  rw [linked, List.countP_pos_iff]
  constructor
  · rintro ⟨t, -, hlisted⟩
    rw [listed_eq hc.mem_lists] at hlisted
    cases htracker : state.trackers t with
    | none =>
        rw [htracker] at hlisted
        cases hlisted
    | some tracker =>
        rw [htracker, Option.any_some, decide_eq_true_eq] at hlisted
        exact ⟨tracker.vaSpace, List.ne_nil_of_mem
          ((mem_own_lists hc.mem_lists htracker isQueue e).mpr hlisted)⟩
  · rintro ⟨v, hne⟩
    obtain ⟨t, hmem⟩ := List.exists_mem_of_ne_nil _ hne
    obtain ⟨tracker, htracker, -, hsubscribes⟩ := (hc.mem_lists v isQueue e t).mp hmem
    exact ⟨t, List.mem_range.mpr (hc.lt_trackerCount htracker), by
      simp [listed_eq hc.mem_lists, htracker, hsubscribes]⟩

end Registry

/-- Every step of the registry keeps the invariant. -/
theorem RegistryStep.consistent {ids : ToolsIds} {state next : Registry} {event : RegistryEvent}
    (hc : state.Consistent ids) (hstep : RegistryStep ids state event next) :
    next.Consistent ids := by
  cases hstep with
  | create v isQueue hroom => exact hc.create v isQueue hroom
  | attach htracker hattach =>
      rcases Registry.attach_cases htracker (hc.insertion_room htracker _) hattach with
        rfl | ⟨vaSpace', hupdate, rfl⟩
      · exact hc.attached htracker _
      · exact hc.attach_failed hupdate
  | destroy htracker hdestroy =>
      rw [hc.destroyEventTracker_eq htracker] at hdestroy
      cases hdestroy
      exact hc.unsubscribed htracker

/-- Every reachable registry is consistent. -/
theorem reachable_consistent {ids : ToolsIds} {events : List RegistryEvent} {state : Registry}
    (run : Steps (RegistryStep ids) initialRegistry events state) : state.Consistent ids :=
  @Steps.invariant _ _ _ (Registry.Consistent ids) (fun hc hstep => hstep.consistent hc)
    _ _ _ (Registry.consistent_initialRegistry ids) run

/-- In every reachable registry, `g_tools_enabled_event_count[e]` is the number of queue
trackers linked into a `tools.queues[e]` plus the number of counter trackers linked into a
`tools.counters[e]`, so `tools_is_event_enabled_in_any_va_space(e)` holds exactly when some
collector has a tracker on either list. -/
theorem enabledEventCount_counts_queues_and_counters {ids : ToolsIds}
    {events : List RegistryEvent} {state : Registry}
    (run : Steps (RegistryStep ids) initialRegistry events state) (e : Nat) :
    (state.enabledEventCount e).toNat = state.linked true e + state.linked false e ∧
      (state.toolsIsEventEnabledInAnyVaSpace e = true ↔
        ∃ v, (state.vaSpaces v).toolsIsEventEnabled e = true ∨
          (state.vaSpaces v).toolsIsCounterEnabled e = true) := by
  have hc := reachable_consistent run
  have hqueues := hc.linked_pos_iff true e
  have hcounters := hc.linked_pos_iff false e
  refine ⟨hc.counted e, ?_⟩
  simp only [ToolsVaSpace.lists, if_true, Bool.false_eq_true, if_false] at hqueues hcounters
  simp only [Registry.toolsIsEventEnabledInAnyVaSpace, bne_iff_ne, ne_eq,
    hc.enabledEventCount_eq_zero_iff, toolsIsEventEnabled, toolsIsCounterEnabled,
    Bool.not_eq_true', List.isEmpty_eq_false, exists_or, ← hqueues, ← hcounters]
  omega

/-! ## Sample runs -/

/-- One choice of the header's constants, for the sample runs below; the results above hold
for every choice. -/
def sampleIds : ToolsIds where
  eventNumTypesAll := 8
  totalCounters := 4
  cpuFault := 1
  gpuFault := 2
  migration := 3
  readDuplicate := 4
  cpuPageFaultCount := 0
  gpuPageFaultCount := 1
  bytesXferDtH := 2
  bytesXferHtD := 3
  cpuFault_lt := by decide
  migration_lt := by decide
  cpuPageFaultCount_lt := by decide
  eventNumTypesAll_le := by decide

/-- A counter tracker of collector 0 is created and attached to counter 0, every
registration succeeding. -/
def counterSubscribedEvents : List RegistryEvent :=
  [.created 0 false, .attached 0 (BitVec.twoPow 64 0) .ok .ok .ok]

/-- The registry after `counterSubscribedEvents`. -/
def counterSubscribed : Registry :=
  let created := initialRegistry.create 0 false
  let inserted := created.insertion sampleIds 0 ⟨0, false, 0⟩ (BitVec.twoPow 64 0)
  created.resubscribed sampleIds 0 0 (some ⟨0, false, inserted.subscribed⟩) false inserted.lists
    inserted.counts

theorem counterSubscribed_run :
    Steps (RegistryStep sampleIds) initialRegistry counterSubscribedEvents counterSubscribed :=
  (Steps.single (RegistryStep.create initialRegistry 0 false (by decide))).step
    (RegistryStep.attach rfl (Registry.attach_of_callbacks_ok
      (toolsUpdatePerfEventsCallbacks_eq_ok (fun _ => .inr rfl) (fun _ => .inr rfl))))

/-- A counter tracker subscribed to counter 0 is counted in `g_tools_enabled_event_count[0]`,
which is then 1 though no collector has a queue tracker on a `tools.queues[0]`:
`tools_is_event_enabled_in_any_va_space(0)` holds with no event of type 0 subscribed. -/
theorem counter_subscription_enables_event :
    Steps (RegistryStep sampleIds) initialRegistry counterSubscribedEvents counterSubscribed ∧
      (counterSubscribed.enabledEventCount 0).toNat =
        counterSubscribed.linked true 0 + counterSubscribed.linked false 0 ∧
      counterSubscribed.linked true 0 = 0 ∧ counterSubscribed.linked false 0 = 1 ∧
      counterSubscribed.toolsIsEventEnabledInAnyVaSpace 0 = true ∧
      ∀ v, (counterSubscribed.vaSpaces v).toolsIsEventEnabled 0 = false := by
  have hlaw := enabledEventCount_counts_queues_and_counters counterSubscribed_run 0
  refine ⟨counterSubscribed_run, hlaw.1, by decide, by decide,
    hlaw.2.mpr ⟨0, .inr (by decide)⟩, fun v => ?_⟩
  simp only [counterSubscribed, Registry.vaSpaces_resubscribed, Function.update_apply]
  split_ifs <;> rfl

/-- Collector 0 with only `uvm_tools_record_fault` registered on it. -/
def faultLeftRegistered : Registry := (initialRegistry.create 0 true).withCallbacks 0 true false

/-- A queue tracker of collector 0 is created and attached to `UvmEventTypeCpuFault` and
`UvmEventTypeMigration`. The fault callback's registration succeeds and the migration
callback's fails with `NV_ERR_NO_MEMORY`, so the attach returns that status and removes the
lists again; but `tools_update_perf_events_callbacks` returned without undoing the fault
callback. It stays registered on a collector that neither needs it nor is enabled, and the
next fault fails the `UVM_ASSERT`s of `uvm_tools_record_fault`. -/
theorem fault_callback_outlives_failed_attach (ids : ToolsIds) :
    Steps (RegistryStep ids) initialRegistry
        [.created 0 true, .attached 0
          (BitVec.twoPow 64 ids.cpuFault ||| BitVec.twoPow 64 ids.migration) .ok .errNoMemory
          .errNoMemory]
        faultLeftRegistered ∧
      (faultLeftRegistered.vaSpaces 0).faultCallback = true ∧
      toolsIsFaultCallbackNeeded ids (faultLeftRegistered.vaSpaces 0) = false ∧
      (faultLeftRegistered.vaSpaces 0).enabled = false ∧
      uvmToolsRecordFaultAsserts ids (faultLeftRegistered.vaSpaces 0) = .error .assertion := by
  have hinserted : ∀ e, e = ids.cpuFault ∨ e = ids.migration →
      (((initialRegistry.create 0 true).vaSpaces 0).withLists true
        ((initialRegistry.create 0 true).insertion ids 0 ⟨0, true, 0⟩
          (BitVec.twoPow 64 ids.cpuFault ||| BitVec.twoPow 64 ids.migration)).lists).queues e ≠
        [] := by
    intro e he
    have hlt : e < ids.eventNumTypesAll := by
      rcases he with rfl | rfl
      exacts [ids.cpuFault_lt, ids.migration_lt]
    have hword := Nat.lt_of_lt_of_le hlt ids.eventNumTypesAll_le
    have hbit : ((BitVec.twoPow 64 ids.cpuFault ||| BitVec.twoPow 64 ids.migration) &&&
        ~~~(0 : NvU64)).getLsbD e = true := by
      simp only [BitVec.getLsbD_and, BitVec.getLsbD_or, BitVec.getLsbD_twoPow, BitVec.getLsbD_not,
        BitVec.ofNat_eq_ofNat, BitVec.getLsbD_zero, hword, decide_True, Bool.not_false,
        Bool.and_true, Bool.true_and, Bool.or_eq_true, Bool.and_eq_true, decide_eq_true_eq]
      rcases he with rfl | rfl
      exacts [.inl ⟨hword, rfl⟩, .inr ⟨hword, rfl⟩]
    simp only [ToolsVaSpace.withLists, Registry.insertion, insertEventTracker,
      ToolsIds.listCount, if_true, hlt, decide_True, Bool.true_and, hbit]
    exact List.cons_ne_nil _ _
  have hupdate := toolsUpdatePerfEventsCallbacks_keeps_fault
    (callbackNeeded_of_queues_ne_nil (hinserted _ (.inl rfl))) rfl
    (callbackNeeded_of_queues_ne_nil (hinserted _ (.inr rfl))) rfl
    (by decide : NvStatus.errNoMemory ≠ .ok)
  have hattach := Registry.attach_of_callbacks_error
    (rfl : (initialRegistry.create 0 true).trackers 0 = some ⟨0, true, 0⟩)
    (fun _ _ _ => (by decide : (0 : NvU32) + 1 ≠ 0)) hupdate
    (by decide : NvStatus.errNoMemory ≠ .ok)
  exact ⟨(Steps.single (RegistryStep.create initialRegistry 0 true (by decide))).step
    (RegistryStep.attach rfl hattach), rfl, rfl, rfl, rfl⟩

end UvmTools
