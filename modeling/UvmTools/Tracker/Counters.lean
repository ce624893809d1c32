import UvmTools.Tracker.Broadcast

/-!
# Counters

A counter tracker is linked into `tools.counters[c]` of its collector for each counter `c` it
subscribes to, and `uvm_tools_inc_counter` adds to the `counters[c]` of each tracker on that
list whose test passes: the tracker counts all processors and `counter_matches_processor`
holds, or the tracker is bound to the processor the increment is for. Over a consistent
registry each subscriber is on the list once, so one increment adds its amount once or not at
all (`Registry.Consistent.uvmToolsIncCounter_eq`).

`uvm_tools_record_fault` increments `UvmCounterNameCpuPageFaultCount` twice for a CPU fault on
memory whose preferred location is a GPU: for the CPU, then for that GPU. For that counter
`counter_matches_processor` lets an all-processors tracker count only the CPU's increment,
but the identity test is joined to it by `||`: an all-processors tracker whose `processor`
is the preferred GPU's UUID counts both increments, and the fault twice.
-/

namespace UvmTools

open ToolsVaSpace

/-- `NvProcessorUuid`: the 16 bytes that name a processor. -/
abbrev NvProcessorUuid := BitVec 128

/-- The fields of `uvm_tools_counter_t` that `uvm_tools_inc_counter` tests, set when the
tracker is created: `all_processors` and `processor`. -/
structure UvmToolsCounter where
  allProcessors : Bool
  processor : NvProcessorUuid
  deriving DecidableEq, Repr

/-- `counter_matches_processor`: for `UvmCounterNameCpuPageFaultCount` only the CPU's UUID,
`NV_PROCESSOR_UUID_CPU_DEFAULT`, matches; every other counter matches every processor. -/
def counterMatchesProcessor (ids : ToolsIds) (cpuDefault : NvProcessorUuid) (counter : Nat)
    (processor : NvProcessorUuid) : Bool :=
  if counter = ids.cpuPageFaultCount then processor == cpuDefault else true

/-- The test of `uvm_tools_inc_counter` for one tracker: it counts all processors and the
counter matches the processor, or it is bound to the processor. -/
def UvmToolsCounter.counts (ids : ToolsIds) (cpuDefault : NvProcessorUuid)
    (counters : UvmToolsCounter) (counter : Nat) (processor : NvProcessorUuid) : Bool :=
  (counters.allProcessors && counterMatchesProcessor ids cpuDefault counter processor) ||
    counters.processor == processor

/-- `list_for_each_entry(counters, list, counter_nodes[counter])`: `atomic64_add` of `amount`
to `counters[counter]` of each tracker of `trackers` whose test passes, where
`trackerCounters t` are the fields tracker `t` was created with and `values t` its
`counters` array. -/
def addOnEach (ids : ToolsIds) (cpuDefault : NvProcessorUuid)
    (trackerCounters : Nat → UvmToolsCounter) (counter : Nat) (amount : NvU64)
    (processor : NvProcessorUuid) (trackers : List Nat) (values : Nat → Nat → NvU64) :
    Nat → Nat → NvU64 :=
  trackers.foldl (fun values t =>
    if (trackerCounters t).counts ids cpuDefault counter processor then
      Function.update values t (Function.update (values t) counter (values t counter + amount))
    else values) values

/-- A tracker's counter gains `amount` once for each time the tracker is listed, if its test
passes; nothing else changes. -/
theorem addOnEach_apply (ids : ToolsIds) (cpuDefault : NvProcessorUuid)
    (trackerCounters : Nat → UvmToolsCounter) (counter : Nat) (amount : NvU64)
    (processor : NvProcessorUuid) (trackers : List Nat) (values : Nat → Nat → NvU64)
    (t c : Nat) :
    addOnEach ids cpuDefault trackerCounters counter amount processor trackers values t c =
      if c = counter ∧ (trackerCounters t).counts ids cpuDefault counter processor = true then
        (fun value => value + amount)^[trackers.count t] (values t c)
      else values t c := by
  induction trackers generalizing values with
  | nil => split_ifs <;> rfl
  | cons t' trackers ih =>
      rw [addOnEach, List.foldl_cons, ← addOnEach, ih, List.count_cons]
      by_cases ht : t = t'
      · subst ht
        by_cases hcounts : (trackerCounters t).counts ids cpuDefault counter processor = true
        · by_cases hc : c = counter
          · subst hc
            simp only [hcounts, if_true, Function.update_same, beq_self_eq_true, and_self,
              Function.iterate_succ_apply]
          · simp only [hcounts, if_true, Function.update_same, Function.update_noteq hc,
              hc, false_and, if_false]
        · simp only [hcounts, Bool.false_eq_true, if_false, and_false]
      · simp only [ite_apply, Function.update_noteq ht, ite_self, beq_iff_eq, Ne.symm ht,
          if_false, Nat.add_zero]

namespace Registry

/-- `uvm_tools_inc_counter` on collector `v`: the counter is asserted to be below
`UVM_TOTAL_COUNTERS`, and a positive amount goes to each tracker on `tools.counters[counter]`
whose test passes. -/
def uvmToolsIncCounter (ids : ToolsIds) (cpuDefault : NvProcessorUuid) (state : Registry)
    (v : Nat) (trackerCounters : Nat → UvmToolsCounter) (counter : Nat) (amount : NvU64)
    (processor : NvProcessorUuid) (values : Nat → Nat → NvU64) :
    Except Fault (Nat → Nat → NvU64) :=
  if counter < ids.totalCounters then
    if 0 < amount then
      .ok (addOnEach ids cpuDefault trackerCounters counter amount processor
        ((state.vaSpaces v).counters counter) values)
    else .ok values
  else .error .assertion

end Registry

/-- The processor `uvm_tools_record_fault` reads off a fault: the CPU, with the UUID of the
GPU of the memory's preferred location when `UVM_ID_IS_GPU(preferred_location)`; or a GPU,
with its UUID `uvm_gpu_uuid(gpu)`. -/
inductive FaultProcessor where
  | cpu (preferredGpu : Option NvProcessorUuid)
  | gpu (uuid : NvProcessorUuid)

namespace Registry

/-- The counters of `uvm_tools_record_fault` on collector `v`, after its assertions. A CPU
fault is counted in `UvmCounterNameCpuPageFaultCount` for the CPU, and again for the GPU of
its preferred location when that is a GPU; a GPU fault is counted in
`UvmCounterNameGpuPageFaultCount` for its GPU. -/
def recordFaultCounters (ids : ToolsIds) (cpuDefault : NvProcessorUuid) (state : Registry)
    (v : Nat) (trackerCounters : Nat → UvmToolsCounter) (fault : FaultProcessor)
    (values : Nat → Nat → NvU64) : Except Fault (Nat → Nat → NvU64) := do
  uvmToolsRecordFaultAsserts ids (state.vaSpaces v)
  match fault with
  | .cpu preferredGpu =>
      if (state.vaSpaces v).toolsIsCounterEnabled ids.cpuPageFaultCount then
        let values ← state.uvmToolsIncCounter ids cpuDefault v trackerCounters
          ids.cpuPageFaultCount 1 cpuDefault values
        match preferredGpu with
        | some gpuUuid =>
            state.uvmToolsIncCounter ids cpuDefault v trackerCounters ids.cpuPageFaultCount 1
              gpuUuid values
        | none => .ok values
      else .ok values
  | .gpu gpuUuid =>
      if (state.vaSpaces v).toolsIsCounterEnabled ids.gpuPageFaultCount then
        state.uvmToolsIncCounter ids cpuDefault v trackerCounters ids.gpuPageFaultCount 1
          gpuUuid values
      else .ok values

variable {ids : ToolsIds} {state : Registry}

/-- Over a consistent registry, `uvm_tools_inc_counter` adds the amount once to the counter of
each of the collector's trackers subscribed to it whose test passes, and changes nothing
else. -/
theorem Consistent.uvmToolsIncCounter_eq (hc : state.Consistent ids) (cpuDefault : NvProcessorUuid)
    (v : Nat) (trackerCounters : Nat → UvmToolsCounter) {counter : Nat}
    (hcounter : counter < ids.totalCounters) (amount : NvU64) (processor : NvProcessorUuid)
    (values : Nat → Nat → NvU64) :
    state.uvmToolsIncCounter ids cpuDefault v trackerCounters counter amount processor values =
      .ok fun t c => if c = counter ∧ (∃ tracker, state.trackers t = some tracker ∧
          tracker.vaSpace = v ∧ tracker.Subscribes ids false counter) ∧
          (trackerCounters t).counts ids cpuDefault counter processor = true
        then values t c + amount else values t c := by
  rw [uvmToolsIncCounter, if_pos hcounter]
  split_ifs with hamount
  · congr 1
    funext t c
    rw [addOnEach_apply, show ((state.vaSpaces v).counters counter).count t = _ from
      hc.count_lists v false counter t]
    by_cases hsub : ∃ tracker, state.trackers t = some tracker ∧ tracker.vaSpace = v ∧
      tracker.Subscribes ids false counter <;> simp [hsub, and_assoc]
  · have hzero : amount = 0 := BitVec.eq_of_toNat_eq (by simpa [BitVec.lt_def] using hamount)
    subst hzero
    congr 1
    funext t c
    split_ifs <;> simp

/-- Over a consistent registry, a counter with a tracker on a collector's list is below
`UVM_TOTAL_COUNTERS`. -/
theorem Consistent.lt_totalCounters (hc : state.Consistent ids) {v c : Nat}
    (henabled : (state.vaSpaces v).toolsIsCounterEnabled c = true) : c < ids.totalCounters := by
  obtain ⟨t, ht⟩ := List.exists_mem_of_ne_nil _
    (by simpa [toolsIsCounterEnabled] using henabled : (state.vaSpaces v).counters c ≠ [])
  obtain ⟨_, -, -, -, hlt, -⟩ := (hc.mem_lists v false c t).mp ht
  exact hlt

/-- Over a consistent registry, a collector on which one of the two fault counters is enabled
passes the assertions of `uvm_tools_record_fault`. -/
theorem Consistent.uvmToolsRecordFaultAsserts_eq_ok (hc : state.Consistent ids) {v c : Nat}
    (hcounter : c = ids.cpuPageFaultCount ∨ c = ids.gpuPageFaultCount)
    (henabled : (state.vaSpaces v).toolsIsCounterEnabled c = true) :
    uvmToolsRecordFaultAsserts ids (state.vaSpaces v) = .ok () := by
  have htools : toolsAreEnabled ids (state.vaSpaces v) = true := by
    rw [toolsAreEnabled, Bool.or_eq_true, List.any_eq_true]
    exact .inl ⟨c, List.mem_range.mpr (hc.lt_totalCounters henabled), henabled⟩
  have hneeded : toolsIsFaultCallbackNeeded ids (state.vaSpaces v) = true := by
    rcases hcounter with rfl | rfl <;> simp [toolsIsFaultCallbackNeeded, callbackNeeded, henabled]
  simp [uvmToolsRecordFaultAsserts, callbackAsserts, hc.enabled, htools, hneeded]

/-- Over a consistent registry with `UvmCounterNameCpuPageFaultCount` enabled on collector `v`,
a CPU fault adds to the `CpuPageFaultCount` of each of the collector's trackers subscribed to
it one for the CPU's increment, if the tracker counts all processors or is bound to
`NV_PROCESSOR_UUID_CPU_DEFAULT`, and one for the preferred GPU's increment, if the tracker is
bound to that GPU (or counts all processors and the GPU's UUID is the CPU's). Nothing else
changes. -/
theorem Consistent.recordFaultCounters_cpu (hc : state.Consistent ids) {v : Nat}
    (henabled : (state.vaSpaces v).toolsIsCounterEnabled ids.cpuPageFaultCount = true)
    (cpuDefault : NvProcessorUuid) (trackerCounters : Nat → UvmToolsCounter)
    (preferredGpu : Option NvProcessorUuid) (values : Nat → Nat → NvU64) :
    state.recordFaultCounters ids cpuDefault v trackerCounters (.cpu preferredGpu) values =
      .ok fun t c =>
        if c = ids.cpuPageFaultCount ∧ ∃ tracker, state.trackers t = some tracker ∧
            tracker.vaSpace = v ∧ tracker.Subscribes ids false c then
          values t c + BitVec.ofNat 64
            ((if (trackerCounters t).allProcessors = true ∨
                (trackerCounters t).processor = cpuDefault then 1 else 0) +
              match preferredGpu with
              | some gpuUuid =>
                  if (trackerCounters t).allProcessors = true ∧ gpuUuid = cpuDefault ∨
                      (trackerCounters t).processor = gpuUuid then 1 else 0
              | none => 0)
        else values t c := by
  have hlt := ids.cpuPageFaultCount_lt
  rw [recordFaultCounters, hc.uvmToolsRecordFaultAsserts_eq_ok (.inl rfl) henabled]
  dsimp only [bind, Except.bind]
  rw [if_pos henabled, hc.uvmToolsIncCounter_eq cpuDefault v trackerCounters hlt]
  cases preferredGpu <;> dsimp only
  on_goal 2 => rw [hc.uvmToolsIncCounter_eq cpuDefault v trackerCounters hlt]
  all_goals
    congr 1
    funext t c
    by_cases hcpu : c = ids.cpuPageFaultCount
    · subst hcpu
      by_cases hsub : ∃ tracker, state.trackers t = some tracker ∧ tracker.vaSpace = v ∧
          tracker.Subscribes ids false ids.cpuPageFaultCount
      · simp only [hsub, true_and, if_true, UvmToolsCounter.counts, counterMatchesProcessor,
          beq_iff_eq, Bool.or_eq_true, Bool.and_eq_true, decide_eq_true_eq, and_true]
        split_ifs <;> simp [BitVec.add_assoc]
      · simp [hsub]
    · simp [hcpu]

end Registry

/-- The counter tracker of `counterSubscribed` counts all processors, and its `processor` is
the UUID of the GPU a CPU fault's memory prefers: its `CpuPageFaultCount` goes from 0 to 2. -/
theorem cpu_fault_counted_twice :
    ∃ values, counterSubscribed.recordFaultCounters sampleIds 0 0 (fun _ => ⟨true, 1⟩)
        (.cpu (some 1)) (fun _ _ => 0) = .ok values ∧ values 0 sampleIds.cpuPageFaultCount = 2 :=
  ⟨_, Registry.Consistent.recordFaultCounters_cpu (reachable_consistent counterSubscribed_run)
    (by decide) 0 _ _ _, by decide⟩

end UvmTools
