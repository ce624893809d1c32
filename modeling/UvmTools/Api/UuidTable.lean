import UvmTools.Tracker.Counters
import Mathlib.Logic.Function.Basic

/-!
# The processor UUID table

`uvm_api_tools_get_processor_uuid_table` fills a zeroed array of `UVM_ID_MAX_PROCESSORS` UUIDs:
the CPU's default UUID at index `UVM_ID_CPU_VALUE` (0), then the UUID of each GPU registered in
the VA space at its id. It sets `params->count` to one more than the largest index written and
copies that many entries to the caller's table.

The GPUs are `RegisteredGpus`: ids at least 1 and below `UVM_ID_MAX_PROCESSORS`, in the
increasing order `for_each_va_space_gpu` visits them in. `processorUuidTable` states the table
the call is for; the call's table is that table.
-/

namespace UvmTools

/-- A GPU registered in the VA space: `uvm_id_value(gpu->id)`, which is at least 1 (0 is the
CPU's) and below `UVM_ID_MAX_PROCESSORS`, and `uvm_gpu_uuid(gpu)`. -/
structure VaSpaceGpu (maxProcessors : Nat) where
  id : Nat
  uuid : NvProcessorUuid
  id_pos : 0 < id
  id_lt : id < maxProcessors

/-- The GPUs `for_each_va_space_gpu` visits, in increasing id order. -/
structure RegisteredGpus (maxProcessors : Nat) where
  gpus : List (VaSpaceGpu maxProcessors)
  sorted : gpus.Pairwise fun gpu gpu' => gpu.id < gpu'.id

/-- `UVM_TOOLS_GET_PROCESSOR_UUID_TABLE_PARAMS`: `count`, and the entries the call copies to
`tablePtr`. -/
structure UuidTableParams where
  count : Nat
  table : List NvProcessorUuid

variable {maxProcessors : Nat}

/-- One iteration of `for_each_va_space_gpu`: `uuids[uvm_id_value(gpu->id)]` set to the GPU's
UUID, and `params->count` raised to the id plus one where that is larger. -/
def uuidTableStep (acc : (Nat → NvProcessorUuid) × Nat) (gpu : VaSpaceGpu maxProcessors) :
    (Nat → NvProcessorUuid) × Nat :=
  (Function.update acc.1 gpu.id gpu.uuid, if gpu.id + 1 > acc.2 then gpu.id + 1 else acc.2)

/-- `uvm_api_tools_get_processor_uuid_table(params, filp)`, with whether `uvm_kvmalloc_zero`
succeeds and `NV_PROCESSOR_UUID_CPU_DEFAULT`. -/
def uvmApiToolsGetProcessorUuidTable (cpuDefault : NvProcessorUuid) (allocated : Bool)
    (gpus : RegisteredGpus maxProcessors) (params : UuidTableParams) :
    NvStatus × UuidTableParams :=
  if !allocated then (.errNoMemory, params)
  else
    let uuids := Function.update (fun _ => (0 : NvProcessorUuid)) 0 cpuDefault
    let (uuids, count) := gpus.gpus.foldl uuidTableStep (uuids, 1)
    (.ok, { count, table := (List.range count).map uuids })

/-- The table the call is for: the UUID of the GPU whose id is the index, the CPU's UUID at
index 0, zero elsewhere; up to the largest index in use. -/
def processorUuidTable (cpuDefault : NvProcessorUuid) (gpus : List (VaSpaceGpu maxProcessors)) :
    List NvProcessorUuid :=
  (List.range (gpus.foldl (fun count gpu => max count (gpu.id + 1)) 1)).map fun index =>
    ((gpus.find? fun gpu => gpu.id == index).map VaSpaceGpu.uuid).getD
      (if index = 0 then cpuDefault else 0)

/-! ### The fill loop -/

theorem count_foldl_uuidTableStep (gpus : List (VaSpaceGpu maxProcessors))
    (acc : (Nat → NvProcessorUuid) × Nat) :
    (gpus.foldl uuidTableStep acc).2 = gpus.foldl (fun count gpu => max count (gpu.id + 1)) acc.2 := by
  induction gpus generalizing acc with
  | nil => rfl
  | cons gpu gpus ih =>
      rw [List.foldl_cons, List.foldl_cons, ih]
      congr 1
      simp only [uuidTableStep, gt_iff_lt]
      split_ifs with hlt <;> omega

/-- After the loop, each index holds the UUID of the GPU with that id, or what it held before;
ids are distinct, so the last write at an index is its only one. -/
theorem uuids_foldl_uuidTableStep {gpus : List (VaSpaceGpu maxProcessors)}
    (hdistinct : gpus.Pairwise fun gpu gpu' => gpu.id ≠ gpu'.id)
    (acc : (Nat → NvProcessorUuid) × Nat) (index : Nat) :
    (gpus.foldl uuidTableStep acc).1 index =
      ((gpus.find? fun gpu => gpu.id == index).map VaSpaceGpu.uuid).getD (acc.1 index) := by
  induction gpus generalizing acc with
  | nil => rfl
  | cons gpu gpus ih =>
      obtain ⟨hfresh, hrest⟩ := List.pairwise_cons.mp hdistinct
      rw [List.foldl_cons, ih hrest, List.find?_cons]
      by_cases hid : gpu.id = index
      · subst hid
        have hnone : gpus.find? (fun gpu' => gpu'.id == gpu.id) = none :=
          List.find?_eq_none.mpr fun gpu' hmem hbeq => hfresh gpu' hmem (beq_iff_eq.mp hbeq).symm
        simp [hnone, uuidTableStep]
      · have hne : (gpu.id == index) = false := by simpa using hid
        rw [hne]
        simp [uuidTableStep, Function.update_noteq (Ne.symm hid)]

/-! ### The call -/

/-- The call copies out exactly the table it is for: one more entry than the largest id in
use, each GPU's UUID at its id, the CPU's at 0 and zero elsewhere. -/
theorem uvmApiToolsGetProcessorUuidTable_eq (cpuDefault : NvProcessorUuid)
    (gpus : RegisteredGpus maxProcessors) (params : UuidTableParams) :
    uvmApiToolsGetProcessorUuidTable cpuDefault true gpus params =
      (.ok, ⟨(processorUuidTable cpuDefault gpus.gpus).length,
        processorUuidTable cpuDefault gpus.gpus⟩) := by
  have hdistinct : gpus.gpus.Pairwise fun gpu gpu' => gpu.id ≠ gpu'.id :=
    gpus.sorted.imp Nat.ne_of_lt
  simp only [uvmApiToolsGetProcessorUuidTable, Bool.not_true, Bool.false_eq_true, if_false,
    processorUuidTable, List.length_map, List.length_range, Prod.mk.injEq, true_and,
    count_foldl_uuidTableStep]
  congr 1
  refine List.map_congr_left fun index _ => ?_
  rw [uuids_foldl_uuidTableStep hdistinct]
  by_cases hzero : index = 0
  · subst hzero
    simp
  · simp [hzero, Function.update_noteq hzero]

/-! ### What the table holds -/

/-- The count the loop reaches from `count`: at least `count`, past every GPU's id, and equal to
`count` or to some GPU's id plus one. -/
theorem foldl_max_id_spec (gpus : List (VaSpaceGpu maxProcessors)) (count : Nat) :
    count ≤ gpus.foldl (fun count gpu => max count (gpu.id + 1)) count ∧
      (∀ gpu ∈ gpus, gpu.id < gpus.foldl (fun count gpu => max count (gpu.id + 1)) count) ∧
      (gpus.foldl (fun count gpu => max count (gpu.id + 1)) count = count ∨
        ∃ gpu ∈ gpus, gpu.id + 1 = gpus.foldl (fun count gpu => max count (gpu.id + 1)) count) := by
  induction gpus generalizing count with
  | nil => exact ⟨le_refl _, by simp, .inl rfl⟩
  | cons gpu gpus ih =>
      obtain ⟨hle, hids, hreached⟩ := ih (max count (gpu.id + 1))
      rw [List.foldl_cons]
      refine ⟨by omega, fun gpu' hmem => ?_, ?_⟩
      · rcases List.mem_cons.mp hmem with rfl | hmem
        · omega
        · exact hids gpu' hmem
      · rcases hreached with hsame | ⟨gpu', hmem, heq⟩
        · by_cases hcmp : gpu.id + 1 ≤ count
          · exact .inl (by omega)
          · exact .inr ⟨gpu, .head _, by omega⟩
        · exact .inr ⟨gpu', .tail _ hmem, heq⟩

theorem find?_id_eq_some {gpus : List (VaSpaceGpu maxProcessors)}
    (hdistinct : gpus.Pairwise fun gpu gpu' => gpu.id ≠ gpu'.id) {gpu : VaSpaceGpu maxProcessors}
    (hmem : gpu ∈ gpus) : gpus.find? (fun gpu' => gpu'.id == gpu.id) = some gpu := by
  induction gpus with
  | nil => cases hmem
  | cons first rest ih =>
      obtain ⟨hfresh, hrest⟩ := List.pairwise_cons.mp hdistinct
      rw [List.find?_cons]
      rcases List.mem_cons.mp hmem with rfl | hmem
      · simp
      · rw [beq_eq_false_iff_ne.mpr (hfresh gpu hmem)]
        exact ih hrest hmem

/-- When its allocation succeeds, the call returns `NV_OK` and a table of `count` entries:
`count` is one more than the largest id of a registered GPU (one when there is none) and at most
`UVM_ID_MAX_PROCESSORS`, so the copy reads only entries of the array. The table holds the CPU's
default UUID at index 0, each registered GPU's UUID at its id, and zero at every other index. -/
theorem uvmApiToolsGetProcessorUuidTable_table (cpuDefault : NvProcessorUuid)
    (gpus : RegisteredGpus maxProcessors) (params : UuidTableParams) (hmax : 0 < maxProcessors) :
    ∃ count table, uvmApiToolsGetProcessorUuidTable cpuDefault true gpus params =
        (.ok, ⟨count, table⟩) ∧ table.length = count ∧ count ≤ maxProcessors ∧
      (count = 1 ∨ ∃ gpu ∈ gpus.gpus, gpu.id + 1 = count) ∧
      table[0]? = some cpuDefault ∧ (∀ gpu ∈ gpus.gpus, table[gpu.id]? = some gpu.uuid) ∧
      ∀ index < count, index ≠ 0 → (∀ gpu ∈ gpus.gpus, gpu.id ≠ index) → table[index]? = some 0 := by
  have hdistinct : gpus.gpus.Pairwise fun gpu gpu' => gpu.id ≠ gpu'.id :=
    gpus.sorted.imp Nat.ne_of_lt
  obtain ⟨hone, hids, hreached⟩ := foldl_max_id_spec gpus.gpus 1
  refine ⟨_, _, uvmApiToolsGetProcessorUuidTable_eq cpuDefault gpus params, rfl, ?_, ?_, ?_, ?_, ?_⟩
  all_goals simp only [processorUuidTable, List.length_map, List.length_range]
  · rcases hreached with hsame | ⟨gpu, -, heq⟩
    · omega
    · have := gpu.id_lt
      omega
  · exact hreached.imp id fun ⟨gpu, hmem, heq⟩ => ⟨gpu, hmem, heq⟩
  · have hnone : gpus.gpus.find? (fun gpu => gpu.id == 0) = none :=
      List.find?_eq_none.mpr fun gpu _ hbeq => by
        have := gpu.id_pos
        simp_all
    simp [List.getElem?_range (Nat.lt_of_lt_of_le Nat.zero_lt_one hone), hnone]
  · intro gpu hmem
    simp [List.getElem?_range (hids gpu hmem), find?_id_eq_some hdistinct hmem]
  · intro index hindex hzero hfree
    have hnone : gpus.gpus.find? (fun gpu => gpu.id == index) = none :=
      List.find?_eq_none.mpr fun gpu hmem hbeq => hfree gpu hmem (beq_iff_eq.mp hbeq)
    simp [List.getElem?_range hindex, hnone, hzero]

theorem uvmApiToolsGetProcessorUuidTable_table_two_gpus :
    0 < 4 ∧ ∃ count table, uvmApiToolsGetProcessorUuidTable 0xC true
        (⟨[⟨1, 0xA, by decide, by decide⟩, ⟨3, 0xB, by decide, by decide⟩], by decide⟩ :
          RegisteredGpus 4) ⟨0, []⟩ =
        (.ok, ⟨count, table⟩) ∧ table.length = count ∧ count ≤ 4 ∧
      (count = 1 ∨ ∃ gpu ∈ [(⟨1, 0xA, by decide, by decide⟩ : VaSpaceGpu 4),
        ⟨3, 0xB, by decide, by decide⟩], gpu.id + 1 = count) ∧
      table[0]? = some 0xC ∧ (∀ gpu ∈ [(⟨1, 0xA, by decide, by decide⟩ : VaSpaceGpu 4),
        ⟨3, 0xB, by decide, by decide⟩], table[gpu.id]? = some gpu.uuid) ∧
      ∀ index < count, index ≠ 0 → (∀ gpu ∈ [(⟨1, 0xA, by decide, by decide⟩ : VaSpaceGpu 4),
        ⟨3, 0xB, by decide, by decide⟩], gpu.id ≠ index) → table[index]? = some 0 :=
  ⟨by decide, uvmApiToolsGetProcessorUuidTable_table 0xC _ ⟨0, []⟩ (by decide)⟩

end UvmTools
