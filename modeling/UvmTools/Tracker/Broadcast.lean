import UvmTools.Tracker.Registry
import UvmTools.Queue.Producers
import Mathlib.Algebra.BigOperators.Group.List

/-!
# Delivery through the registry

`uvm_tools_record_event` hands an entry to the queue trackers on one collector's
`tools.queues[eventType]`, and `uvm_tools_broadcast_event` to those of every collector on
`g_tools_va_space_list`. Both are loops of `enqueue_event` over lists of trackers, so what a
queue receives is decided by how often its tracker occurs in the lists walked.

Over a consistent registry a collector is on `g_tools_va_space_list` once while it has a
subscriber, and each of its lists holds each subscribed tracker once. A broadcast therefore
enqueues its entry exactly once on the queue of every queue tracker subscribed to the entry's
type and leaves every other queue as it was: those of counter trackers, of trackers subscribed
to other types, and of destroyed trackers, whose index no later step gives a tracker again.
The tests the producers make first (`tools.enabled` and `tools_is_event_enabled` before a
record, `tools_is_event_enabled_in_any_va_space` before a broadcast) skip a record only where
it would reach no queue. Once every tracker is destroyed, the assertions of `uvm_tools_exit`
hold.
-/

namespace UvmTools

open ToolsVaSpace

variable {Entry : Type} [UvmEventEntry Entry]

/-- `list_for_each_entry(queue, list, queue_nodes[eventType]) enqueue_event(entry, queue)`:
`enqueue_event` of `entry` on the queue of each tracker of `trackers`, in list order, where
`queues t` is the queue of tracker `t`. -/
def enqueueOnEach (entry : Entry) (trackers : List Nat) (queues : Nat → UvmToolsQueue Entry) :
    Nat → UvmToolsQueue Entry :=
  trackers.foldl (fun queues t => Function.update queues t (enqueueEvent entry (queues t)).1)
    queues

/-- A queue receives the entry once for each time its tracker occurs in the list walked. -/
theorem enqueueOnEach_apply (entry : Entry) (trackers : List Nat)
    (queues : Nat → UvmToolsQueue Entry) (t : Nat) :
    enqueueOnEach entry trackers queues t =
      (fun queue => (enqueueEvent entry queue).1)^[trackers.count t] (queues t) := by
  induction trackers generalizing queues with
  | nil => rfl
  | cons t' trackers ih =>
      rw [enqueueOnEach, List.foldl_cons, ← enqueueOnEach, ih, List.count_cons]
      by_cases ht : t = t'
      · subst ht
        simp only [Function.update_same, beq_self_eq_true, if_true, Function.iterate_succ_apply]
      · simp only [Function.update_noteq ht, beq_iff_eq, Ne.symm ht, if_false, Nat.add_zero]

theorem enqueueOnEach_append (entry : Entry) (trackers trackers' : List Nat)
    (queues : Nat → UvmToolsQueue Entry) :
    enqueueOnEach entry (trackers ++ trackers') queues =
      enqueueOnEach entry trackers' (enqueueOnEach entry trackers queues) :=
  List.foldl_append _ _ _ _

/-- Over a list that names each tracker once, the queues the walk leaves, read in list order,
are what `uvm_tools_record_event` of `Producers` leaves of the list of their queues. -/
theorem map_enqueueOnEach (entry : EntryBytes) {trackers : List Nat} (hnodup : trackers.Nodup)
    (queues : Nat → UvmToolsQueue EntryBytes) :
    trackers.map (enqueueOnEach entry trackers queues) =
      uvmToolsRecordEvent entry (trackers.map queues) := by
  rw [uvmToolsRecordEvent, List.map_map]
  refine List.map_congr_left fun t ht => ?_
  rw [enqueueOnEach_apply, List.count_eq_one_of_mem hnodup ht]
  rfl

/-- A queue tracker of collector 0 is created and attached to `mask`, every registration
succeeding. -/
def queueSubscribedEvents (mask : NvU64) : List RegistryEvent :=
  [.created 0 true, .attached 0 mask .ok .ok .ok]

/-- The registry after `queueSubscribedEvents mask`. -/
def queueSubscribed (ids : ToolsIds) (mask : NvU64) : Registry :=
  let created := initialRegistry.create 0 true
  let inserted := created.insertion ids 0 ⟨0, true, 0⟩ mask
  created.resubscribed ids 0 0 (some ⟨0, true, inserted.subscribed⟩) true inserted.lists
    inserted.counts

theorem queueSubscribed_run (ids : ToolsIds) (mask : NvU64) :
    Steps (RegistryStep ids) initialRegistry (queueSubscribedEvents mask)
      (queueSubscribed ids mask) :=
  (Steps.single (RegistryStep.create initialRegistry 0 true (by decide))).step
    (RegistryStep.attach rfl (Registry.attach_of_callbacks_ok
      (toolsUpdatePerfEventsCallbacks_eq_ok (fun _ => .inr rfl) (fun _ => .inr rfl))))

namespace Registry

/-- `uvm_tools_record_event` on collector `v`: the event type is asserted to be below
`UvmEventNumTypesAll`, and the entry goes to the queue of each tracker on
`tools.queues[eventType]`. -/
def uvmToolsRecordEvent (ids : ToolsIds) (state : Registry) (v : Nat) (entry : Entry)
    (queues : Nat → UvmToolsQueue Entry) : Except Fault (Nat → UvmToolsQueue Entry) :=
  if UvmEventEntry.eventType entry < ids.eventNumTypesAll then
    .ok (enqueueOnEach entry ((state.vaSpaces v).queues (UvmEventEntry.eventType entry)) queues)
  else .error .assertion

/-- `uvm_tools_broadcast_event`: `uvm_tools_record_event` on each collector of
`g_tools_va_space_list`, in list order. -/
def uvmToolsBroadcastEvent (ids : ToolsIds) (state : Registry) (entry : Entry)
    (queues : Nat → UvmToolsQueue Entry) : Except Fault (Nat → UvmToolsQueue Entry) :=
  state.vaSpaceList.foldlM (fun queues v => state.uvmToolsRecordEvent ids v entry queues) queues

/-- The assertions of `uvm_tools_exit`: `g_tools_enabled_event_count[i]` is zero for every
event type `i`, and `g_tools_va_space_list` is empty. -/
def uvmToolsExitAsserts (ids : ToolsIds) (state : Registry) : Except Fault Unit :=
  if (List.range ids.eventNumTypesAll).all (fun i => state.enabledEventCount i == 0) &&
      state.vaSpaceList.isEmpty then .ok ()
  else .error .assertion

/-- The tests in front of `uvm_tools_record_event` in the producers that record one entry on
one collector at once (`uvm_tools_record_cpu_fatal_fault`, `uvm_tools_record_gpu_fatal_fault`,
`uvm_tools_record_thrashing`, `uvm_tools_record_throttling_start`,
`uvm_tools_record_throttling_end`): nothing while `tools.enabled` is clear, and the entry is
recorded while `tools_is_event_enabled` holds for the type they report. -/
def recordIfEventEnabled (ids : ToolsIds) (state : Registry) (v event : Nat) (entry : Entry)
    (queues : Nat → UvmToolsQueue Entry) : Except Fault (Nat → UvmToolsQueue Entry) :=
  if !(state.vaSpaces v).enabled then .ok queues
  else if (state.vaSpaces v).toolsIsEventEnabled event then
    state.uvmToolsRecordEvent ids v entry queues
  else .ok queues

/-- The test in front of `uvm_tools_broadcast_event` in `uvm_tools_broadcast_replay_sync`:
the entry is broadcast only while `tools_is_event_enabled_in_any_va_space` holds for its type.
`uvm_tools_broadcast_access_counter` makes the same test, with an assertion between it and the
broadcast. -/
def broadcastIfEventEnabled (ids : ToolsIds) (state : Registry) (event : Nat) (entry : Entry)
    (queues : Nat → UvmToolsQueue Entry) : Except Fault (Nat → UvmToolsQueue Entry) :=
  if !state.toolsIsEventEnabledInAnyVaSpace event then .ok queues
  else state.uvmToolsBroadcastEvent ids entry queues

variable {ids : ToolsIds} {state : Registry}

/-- A collector with a tracker on the list of an event type is enabled by
`tools_are_enabled`. -/
theorem toolsAreEnabled_of_queues_ne_nil {vaSpace : ToolsVaSpace} {e : Nat}
    (he : e < ids.eventNumTypesAll) (hne : vaSpace.queues e ≠ []) :
    toolsAreEnabled ids vaSpace = true := by
  rw [toolsAreEnabled, Bool.or_eq_true, List.any_eq_true, List.any_eq_true]
  exact .inr ⟨e, List.mem_range.mpr he, by simpa [toolsIsEventEnabled] using hne⟩

/-- A broadcast of an entry whose type passes the assertion walks the lists
`tools.queues[eventType]` of the collectors on `g_tools_va_space_list`, one after another. -/
theorem uvmToolsBroadcastEvent_eq_ok (entry : Entry)
    (hevent : UvmEventEntry.eventType entry < ids.eventNumTypesAll)
    (queues : Nat → UvmToolsQueue Entry) :
    state.uvmToolsBroadcastEvent ids entry queues =
      .ok (enqueueOnEach entry (state.vaSpaceList.flatMap fun v =>
        (state.vaSpaces v).queues (UvmEventEntry.eventType entry)) queues) := by
  unfold uvmToolsBroadcastEvent
  generalize state.vaSpaceList = vaSpaceList
  induction vaSpaceList generalizing queues with
  | nil => rfl
  | cons v vaSpaceList ih =>
      rw [List.foldlM_cons, uvmToolsRecordEvent, if_pos hevent, List.flatMap_cons,
        enqueueOnEach_append]
      exact ih _

/-- Under the invariant, a collector's list `e` of either kind holds once each tracker of the
collector subscribed to it, and no other tracker. -/
theorem Consistent.count_lists (hc : state.Consistent ids) (v : Nat) (isQueue : Bool)
    (e t : Nat) :
    ((state.vaSpaces v).lists isQueue e).count t =
      if ∃ tracker, state.trackers t = some tracker ∧ tracker.vaSpace = v ∧
        tracker.Subscribes ids isQueue e then 1 else 0 := by
  have hmem := hc.mem_lists v isQueue e t
  split_ifs with hsubscribed
  · exact List.count_eq_one_of_mem (hc.nodup v isQueue e) (hmem.mpr hsubscribed)
  · exact List.count_eq_zero_of_not_mem (mt hmem.mp hsubscribed)

/-- Under the invariant, a collector's `tools.queues[e]` holds once each queue tracker of the
collector subscribed to `e`, and no other tracker. -/
theorem Consistent.count_queues (hc : state.Consistent ids) (v e t : Nat) :
    ((state.vaSpaces v).queues e).count t =
      if ∃ tracker, state.trackers t = some tracker ∧ tracker.vaSpace = v ∧
        tracker.Subscribes ids true e then 1 else 0 :=
  hc.count_lists v true e t

/-- Under the invariant, a collector with a queue tracker subscribed to an event type is on
`g_tools_va_space_list` once. -/
theorem Consistent.count_vaSpaceList (hc : state.Consistent ids) {t : Nat}
    {tracker : EventTracker} (htracker : state.trackers t = some tracker) {e : Nat}
    (hsubscribes : tracker.Subscribes ids true e) :
    state.vaSpaceList.count tracker.vaSpace = 1 := by
  have hmem := (mem_own_lists hc.mem_lists htracker true e).mpr hsubscribes
  rw [hc.linkedOnce, hc.enabled,
    toolsAreEnabled_of_queues_ne_nil hsubscribes.2.1 (List.ne_nil_of_mem hmem), if_pos rfl]

/-- Under the invariant, the lists a broadcast of type `e` walks name each queue tracker
subscribed to `e` once, and no other tracker. -/
theorem Consistent.count_broadcast (hc : state.Consistent ids) (e t : Nat) :
    (state.vaSpaceList.flatMap fun v => (state.vaSpaces v).queues e).count t =
      if (state.trackers t).any (fun tracker => decide (tracker.Subscribes ids true e)) then 1
      else 0 := by
  rw [List.count_flatMap]
  cases htracker : state.trackers t with
  | none =>
      have hzero : ∀ v, ((state.vaSpaces v).queues e).count t = 0 := fun v => by
        rw [hc.count_queues, htracker, if_neg fun ⟨_, hnone, _⟩ => by cases hnone]
      simp [Function.comp_def, hzero]
  | some tracker =>
      have hother : ∀ v, v ≠ tracker.vaSpace → ((state.vaSpaces v).queues e).count t = 0 :=
        fun v hv => by
          rw [hc.count_queues, htracker, if_neg]
          rintro ⟨_, hsome, hvaSpace, -⟩
          cases hsome
          exact hv hvaSpace.symm
      rw [List.sum_map_eq_nsmul_single tracker.vaSpace
          (List.count t ∘ fun v => (state.vaSpaces v).queues e) fun v hv _ => hother v hv,
        Function.comp_apply, hc.count_queues, htracker, Nat.nsmul_eq_mul, Option.any_some]
      by_cases hsubscribes : tracker.Subscribes ids true e
      · rw [if_pos ⟨tracker, rfl, rfl, hsubscribes⟩, hc.count_vaSpaceList htracker hsubscribes,
          decide_eq_true hsubscribes, if_pos rfl]
      · rw [if_neg fun ⟨_, hsome, _, hsub⟩ => by cases hsome; exact hsubscribes hsub,
          decide_eq_false hsubscribes]
        rfl

/-- Over a consistent registry, `uvm_tools_record_event` on collector `v` enqueues the entry
once on the queue of each of the collector's queue trackers subscribed to its type, and
changes no other queue. -/
theorem Consistent.uvmToolsRecordEvent_eq (hc : state.Consistent ids) (v : Nat) (entry : Entry)
    (hevent : UvmEventEntry.eventType entry < ids.eventNumTypesAll)
    (queues : Nat → UvmToolsQueue Entry) :
    state.uvmToolsRecordEvent ids v entry queues = .ok fun t =>
      if ∃ tracker, state.trackers t = some tracker ∧ tracker.vaSpace = v ∧
        tracker.Subscribes ids true (UvmEventEntry.eventType entry)
      then (enqueueEvent entry (queues t)).1 else queues t := by
  rw [uvmToolsRecordEvent, if_pos hevent]
  congr 1
  funext t
  rw [enqueueOnEach_apply, hc.count_queues]
  split_ifs <;> rfl

/-- Over a consistent registry, `uvm_tools_broadcast_event` enqueues the entry once on the
queue of each queue tracker subscribed to its type, in whichever collector, and changes no
other queue. -/
theorem Consistent.uvmToolsBroadcastEvent_eq (hc : state.Consistent ids) (entry : Entry)
    (hevent : UvmEventEntry.eventType entry < ids.eventNumTypesAll)
    (queues : Nat → UvmToolsQueue Entry) :
    state.uvmToolsBroadcastEvent ids entry queues = .ok fun t =>
      if (state.trackers t).any
        (fun tracker => decide (tracker.Subscribes ids true (UvmEventEntry.eventType entry)))
      then (enqueueEvent entry (queues t)).1 else queues t := by
  rw [uvmToolsBroadcastEvent_eq_ok entry hevent]
  congr 1
  funext t
  rw [enqueueOnEach_apply, hc.count_broadcast]
  split_ifs <;> rfl

/-- Once every tracker is destroyed, a consistent registry passes the assertions of
`uvm_tools_exit`: no event type is counted and no collector is on `g_tools_va_space_list`. -/
theorem Consistent.uvmToolsExitAsserts_eq_ok (hc : state.Consistent ids)
    (hdestroyed : ∀ t, state.trackers t = none) : uvmToolsExitAsserts ids state = .ok () := by
  have hempty : ∀ v isQueue e, (state.vaSpaces v).lists isQueue e = [] := fun v isQueue e =>
    List.eq_nil_iff_forall_not_mem.mpr fun t hmem => by
      obtain ⟨_, hsome, -⟩ := (hc.mem_lists v isQueue e t).mp hmem
      rw [hdestroyed] at hsome
      cases hsome
  have hlinked : ∀ isQueue e, state.linked isQueue e = 0 := fun isQueue e =>
    List.countP_eq_zero.mpr fun t _ => by simp [listed, hdestroyed]
  have hdisabled : ∀ v, (state.vaSpaces v).enabled = false := fun v => by
    have hqueues := hempty v true
    have hcounters := hempty v false
    simp only [ToolsVaSpace.lists, if_true, Bool.false_eq_true, if_false] at hqueues hcounters
    simp [hc.enabled, toolsAreEnabled, toolsIsEventEnabled, toolsIsCounterEnabled, hqueues,
      hcounters]
  have hunlinked : state.vaSpaceList = [] := List.eq_nil_iff_forall_not_mem.mpr fun v hv => by
    have hcount := hc.linkedOnce v
    rw [hdisabled, if_neg Bool.false_ne_true] at hcount
    exact List.count_eq_zero.mp hcount hv
  have hzero : ∀ e, state.enabledEventCount e = 0 := fun e =>
    (hc.enabledEventCount_eq_zero_iff e).mpr (by rw [hlinked, hlinked])
  simp [uvmToolsExitAsserts, hzero, hunlinked]

/-- Recording on a collector whose list for the entry's type is empty changes no queue. -/
theorem uvmToolsRecordEvent_of_nil (entry : Entry)
    (hevent : UvmEventEntry.eventType entry < ids.eventNumTypesAll)
    (queues : Nat → UvmToolsQueue Entry) {v : Nat}
    (hnil : (state.vaSpaces v).queues (UvmEventEntry.eventType entry) = []) :
    state.uvmToolsRecordEvent ids v entry queues = .ok queues := by
  rw [uvmToolsRecordEvent, if_pos hevent, hnil]
  rfl

/-- Over a consistent registry the tests in front of `uvm_tools_record_event` skip it only
where it would record nothing: a collector with a tracker on a list is enabled. -/
theorem Consistent.recordIfEventEnabled_eq (hc : state.Consistent ids) (v : Nat) (entry : Entry)
    (hevent : UvmEventEntry.eventType entry < ids.eventNumTypesAll)
    (queues : Nat → UvmToolsQueue Entry) :
    state.recordIfEventEnabled ids v (UvmEventEntry.eventType entry) entry queues =
      state.uvmToolsRecordEvent ids v entry queues := by
  unfold recordIfEventEnabled
  by_cases hnil : (state.vaSpaces v).queues (UvmEventEntry.eventType entry) = []
  · rw [uvmToolsRecordEvent_of_nil entry hevent queues hnil]
    split_ifs <;> rfl
  · have hlisted : (state.vaSpaces v).toolsIsEventEnabled (UvmEventEntry.eventType entry) =
        true := by
      simpa [toolsIsEventEnabled] using hnil
    rw [hc.enabled, toolsAreEnabled_of_queues_ne_nil hevent hnil, hlisted]
    rfl

/-- Over a consistent registry the test in front of `uvm_tools_broadcast_event` skips it only
where it would record nothing. The count it reads also counts counter trackers, so it can
let through a broadcast that reaches no queue, but never stops one that reaches a queue. -/
theorem Consistent.broadcastIfEventEnabled_eq (hc : state.Consistent ids) (entry : Entry)
    (hevent : UvmEventEntry.eventType entry < ids.eventNumTypesAll)
    (queues : Nat → UvmToolsQueue Entry) :
    state.broadcastIfEventEnabled ids (UvmEventEntry.eventType entry) entry queues =
      state.uvmToolsBroadcastEvent ids entry queues := by
  unfold broadcastIfEventEnabled
  cases hany : state.toolsIsEventEnabledInAnyVaSpace (UvmEventEntry.eventType entry)
  · have hunlinked : state.linked true (UvmEventEntry.eventType entry) = 0 := by
      simp only [toolsIsEventEnabledInAnyVaSpace, bne_eq_false_iff_eq,
        hc.enabledEventCount_eq_zero_iff] at hany
      omega
    have hnil : ∀ v, (state.vaSpaces v).queues (UvmEventEntry.eventType entry) = [] :=
      fun v => Classical.not_not.mp fun hne =>
        absurd ((hc.linked_pos_iff true _).mpr ⟨v, hne⟩) (by omega)
    rw [uvmToolsBroadcastEvent_eq_ok entry hevent,
      List.flatMap_eq_nil_iff.mpr fun v _ => hnil v]
    rfl
  · rfl

end Registry

/-- The queue tracker of `queueSubscribed` destroyed, every registration succeeding. -/
theorem queueSubscribed_destroyed (ids : ToolsIds) (mask : NvU64) :
    ∃ after, RegistryStep ids (queueSubscribed ids mask) (.destroyed 0 .ok .ok) after ∧
      ∀ t, after.trackers t = none :=
  have htracker : (queueSubscribed ids mask).trackers 0 = some ⟨0, true, _⟩ := rfl
  ⟨_, RegistryStep.destroy htracker
    ((reachable_consistent (queueSubscribed_run ids mask)).destroyEventTracker_eq htracker .ok .ok),
    fun t => by cases t <;> rfl⟩

section Runs

variable {ids : ToolsIds} {state next : Registry} {event : RegistryEvent} {t : Nat}

/-- An index below the count that has no tracker keeps none: creation takes a fresh index,
and attach and destroy act on trackers that exist. -/
theorem RegistryStep.keeps_destroyed (hc : state.Consistent ids)
    (hstep : RegistryStep ids state event next) (hnone : state.trackers t = none)
    (hlt : t < state.trackerCount) : next.trackers t = none ∧ t < next.trackerCount := by
  have hother : ∀ {t' tracker}, state.trackers t' = some tracker → t ≠ t' := fun hsome ht => by
    rw [← ht, hnone] at hsome
    cases hsome
  cases hstep with
  | create v isQueue _ =>
      rw [Registry.trackers_create, Function.update_noteq hlt.ne, Registry.trackerCount_create]
      exact ⟨hnone, Nat.lt_succ_of_lt hlt⟩
  | attach htracker hattach =>
      rcases Registry.attach_cases htracker (hc.insertion_room htracker _) hattach with
        rfl | ⟨_, -, rfl⟩
      · rw [Registry.trackers_resubscribed, Function.update_noteq (hother htracker), hnone]
        exact ⟨rfl, hlt⟩
      · exact ⟨hnone, hlt⟩
  | destroy htracker hdestroy =>
      rw [hc.destroyEventTracker_eq htracker] at hdestroy
      cases hdestroy
      rw [Registry.trackers_resubscribed, Function.update_noteq (hother htracker), hnone]
      exact ⟨rfl, hlt⟩

/-- Destroying a tracker leaves its index below the count and without a tracker. -/
theorem RegistryStep.destroyed {faultStatus migrationStatus : NvStatus}
    (hc : state.Consistent ids)
    (hstep : RegistryStep ids state (.destroyed t faultStatus migrationStatus) next) :
    next.trackers t = none ∧ t < next.trackerCount := by
  cases hstep with
  | destroy htracker hdestroy =>
      rw [hc.destroyEventTracker_eq htracker] at hdestroy
      cases hdestroy
      exact ⟨Function.update_same _ _ _, hc.lt_trackerCount htracker⟩

/-- In every reachable registry, `uvm_tools_broadcast_event` enqueues an entry whose type
passes the assertion exactly once on the queue of each queue tracker subscribed to that type,
and changes no other queue. -/
theorem uvmToolsBroadcastEvent_delivers_once {events : List RegistryEvent}
    (run : Steps (RegistryStep ids) initialRegistry events state) (entry : Entry)
    (hevent : UvmEventEntry.eventType entry < ids.eventNumTypesAll)
    (queues : Nat → UvmToolsQueue Entry) :
    state.uvmToolsBroadcastEvent ids entry queues = .ok fun t =>
      if (state.trackers t).any
        (fun tracker => decide (tracker.Subscribes ids true (UvmEventEntry.eventType entry)))
      then (enqueueEvent entry (queues t)).1 else queues t :=
  (reachable_consistent run).uvmToolsBroadcastEvent_eq entry hevent queues

/-- A broadcast of an entry of type 1 over a registry whose one queue tracker is subscribed
to type 1, through fresh rings of four slots. -/
theorem uvmToolsBroadcastEvent_delivers_once_subscribed :
    (queueSubscribed sampleIds (BitVec.twoPow 64 1)).uvmToolsBroadcastEvent sampleIds
        (⟨[1]⟩ : EntryBytes) (fun _ => freshQueue 4 1) = .ok fun t =>
      if ((queueSubscribed sampleIds (BitVec.twoPow 64 1)).trackers t).any
        (fun tracker => decide (tracker.Subscribes sampleIds true
          (UvmEventEntry.eventType (⟨[1]⟩ : EntryBytes))))
      then (enqueueEvent (⟨[1]⟩ : EntryBytes) (freshQueue 4 1)).1 else freshQueue 4 1 :=
  uvmToolsBroadcastEvent_delivers_once (queueSubscribed_run _ _) _ (by decide) _

/-- Once a tracker is destroyed, no later broadcast reaches its queue, however the run goes
on: the detach of the spec stops every later delivery to the tracker's buffers. -/
theorem broadcast_skips_destroyed {events events' : List RegistryEvent} {before after : Registry}
    {faultStatus migrationStatus : NvStatus}
    (run : Steps (RegistryStep ids) initialRegistry events before)
    (hdestroy : RegistryStep ids before (.destroyed t faultStatus migrationStatus) after)
    (rest : Steps (RegistryStep ids) after events' state) (entry : Entry)
    (hevent : UvmEventEntry.eventType entry < ids.eventNumTypesAll)
    (queues : Nat → UvmToolsQueue Entry) :
    ∃ queues', state.uvmToolsBroadcastEvent ids entry queues = .ok queues' ∧
      queues' t = queues t := by
  have hc := reachable_consistent run
  have hgone := @Steps.invariant _ _ _
    (fun state => state.Consistent ids ∧ state.trackers t = none ∧ t < state.trackerCount)
    (fun ⟨hc, hnone, hlt⟩ hstep => ⟨hstep.consistent hc, hstep.keeps_destroyed hc hnone hlt⟩)
    _ _ _ ⟨hdestroy.consistent hc, hdestroy.destroyed hc⟩ rest
  refine ⟨_, hgone.1.uvmToolsBroadcastEvent_eq entry hevent queues, ?_⟩
  simp only [hgone.2.1, Option.any_none, Bool.false_eq_true, if_false]

/-- The queue tracker of `queueSubscribed`, subscribed to type 1, destroyed: a broadcast of an
entry of type 1 afterwards leaves its queue as it was. -/
theorem broadcast_skips_destroyed_queue :
    ∃ after queues', Steps (RegistryStep sampleIds) initialRegistry
        (queueSubscribedEvents (BitVec.twoPow 64 1) ++ [.destroyed 0 .ok .ok]) after ∧
      after.uvmToolsBroadcastEvent sampleIds (⟨[1]⟩ : EntryBytes) (fun _ => freshQueue 4 1) =
        .ok queues' ∧ queues' 0 = freshQueue 4 1 :=
  let ⟨_, hdestroy, _⟩ := queueSubscribed_destroyed sampleIds (BitVec.twoPow 64 1)
  let ⟨queues', hbroadcast, hkept⟩ := broadcast_skips_destroyed (queueSubscribed_run _ _)
    hdestroy (.refl _) (⟨[1]⟩ : EntryBytes) (by decide) (fun _ => freshQueue 4 1)
  ⟨_, queues', (queueSubscribed_run _ _).step hdestroy, hbroadcast, hkept⟩

/-- Every reachable registry whose trackers are all destroyed passes the assertions of
`uvm_tools_exit`. -/
theorem uvmToolsExitAsserts_after_destroying_all {events : List RegistryEvent}
    (run : Steps (RegistryStep ids) initialRegistry events state)
    (hdestroyed : ∀ t, state.trackers t = none) :
    Registry.uvmToolsExitAsserts ids state = .ok () :=
  (reachable_consistent run).uvmToolsExitAsserts_eq_ok hdestroyed

/-- Creating one queue tracker, subscribing it and destroying it leaves a registry that passes
the assertions of `uvm_tools_exit`. -/
theorem uvmToolsExitAsserts_after_destroying_queue :
    ∃ after, Steps (RegistryStep sampleIds) initialRegistry
        (queueSubscribedEvents (BitVec.twoPow 64 1) ++ [.destroyed 0 .ok .ok]) after ∧
      (∀ t, after.trackers t = none) ∧ Registry.uvmToolsExitAsserts sampleIds after = .ok () :=
  let ⟨_, hdestroy, hnone⟩ := queueSubscribed_destroyed sampleIds (BitVec.twoPow 64 1)
  ⟨_, (queueSubscribed_run _ _).step hdestroy, hnone,
    uvmToolsExitAsserts_after_destroying_all ((queueSubscribed_run _ _).step hdestroy) hnone⟩

end Runs

end UvmTools
