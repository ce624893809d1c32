import UvmTools.Tracker.UserPages
import Mathlib.Data.List.Sort

/-!
# Reading and writing a process's memory

`tools_access_process_memory` serves `UVM_TOOLS_READ_PROCESS_MEMORY` and
`UVM_TOOLS_WRITE_PROCESS_MEMORY`. It moves `size` bytes between the caller's buffer at
`user_va` and the VA space at `target_va` through one staging page, a chunk at a time; a
chunk runs at most to the end of the target's page. For each chunk it takes the VA space's
lock, finds or creates the VA block, retains each GPU of the VA space it has not retained yet
and maps the staging page on it, accesses the block, checks for ECC errors and drops the lock;
`*bytes` then counts the chunk. On the way out it frees the staging page and only then
releases the GPUs it retained.

The calls the function makes outside this file are `AccessCalls`, answered for the iteration
that starts at a given `*bytes`, or for a given GPU. A failing call returns some status other
than `NV_OK` and, for the block access, changes no byte. The caller's memory and the VA
space's memory are two memories; the staging page is a third, addressed by offset.
-/

namespace UvmTools

/-- A byte-addressed memory: the caller's, the VA space's as its VA blocks hold it, or the
staging page by offset. -/
abbrev Memory := NvU64 → NvU8

/-- `memcpy` of `count` bytes from `source` at `sourceAddr` to `dest` at `destAddr`, between
two memories: byte `destAddr + i` becomes byte `sourceAddr + i` for each `i < count`, in
`NvU64` arithmetic. -/
def copyBytes (dest : Memory) (destAddr : NvU64) (source : Memory) (sourceAddr count : NvU64) :
    Memory :=
  fun addr => if addr - destAddr < count then source (sourceAddr + (addr - destAddr)) else dest addr

/-- What `tools_access_process_memory` does that matters past one iteration: the VA space's
lock, GPU retention, the staging page's mappings and frees, and the block accesses. -/
inductive AccessEvent where
  /-- `uvm_va_space_down_read_rm`. -/
  | downReadRm
  /-- `uvm_va_space_up_read_rm`. -/
  | upReadRm
  /-- `uvm_gpu_retain`. -/
  | retainGpu (gpu : Nat)
  /-- A successful `uvm_mem_map_gpu_kernel(stage_mem, gpu)`. -/
  | mapStage (gpu : Nat)
  /-- `tools_access_va_block` of `bytesNow` bytes at `targetVaStart`. -/
  | accessBlock (targetVaStart bytesNow : NvU64)
  /-- `uvm_mem_free(stage_mem)` of an allocated staging page. -/
  | freeStage
  /-- `uvm_global_mask_release` releasing one GPU. -/
  | releaseGpu (gpu : Nat)
  deriving DecidableEq, Repr

/-- What the function reads and writes: `*bytes`, the three memories,
`retained_global_gpus` (in the order GPUs join it) and the events so far, oldest first. -/
structure AccessState where
  bytes : NvU64
  user : Memory
  target : Memory
  stage : Memory
  retained : List Nat
  events : List AccessEvent

/-- The state with one more event. -/
def AccessState.log (state : AccessState) (event : AccessEvent) : AccessState :=
  { state with events := state.events ++ [event] }

namespace AccessState

variable (state : AccessState) (event : AccessEvent)

@[simp] theorem bytes_log : (state.log event).bytes = state.bytes := rfl
@[simp] theorem user_log : (state.log event).user = state.user := rfl
@[simp] theorem target_log : (state.log event).target = state.target := rfl
@[simp] theorem stage_log : (state.log event).stage = state.stage := rfl
@[simp] theorem retained_log : (state.log event).retained = state.retained := rfl
@[simp] theorem events_log : (state.log event).events = state.events ++ [event] := rfl

end AccessState

/-- What the calls outside this file return: the four allocations before the loop
(`uvm_kvmalloc` twice, `uvm_mem_alloc_sysmem_and_map_cpu_kernel`,
`uvm_va_block_context_alloc`); for the iteration that starts at `*bytes`, the status of
`uvm_va_block_find_create` with `uvm_va_block_is_hmm` of the block it finds, the GPUs
`uvm_va_space_global_gpus` lists (in global id order), the status of
`uvm_hmm_va_block_update_residency_info`, of the block access and of
`uvm_global_mask_check_ecc_error`; and for each GPU whether
`uvm_conf_computing_mode_enabled` holds and the status of `uvm_mem_map_gpu_kernel`. -/
structure AccessCalls where
  retainedAllocated : Bool
  globalAllocated : Bool
  stageStatus : NvStatus
  blockContextAllocated : Bool
  findCreate : NvU64 → NvStatus × Bool
  globalGpus : NvU64 → List Nat
  confComputing : Nat → Bool
  mapGpuKernel : Nat → NvStatus
  updateResidency : NvU64 → NvStatus
  accessVaBlock : NvU64 → NvStatus
  checkEccError : NvU64 → NvStatus

/-- `PAGE_SIZE` as the `NvU64` the loop computes with. -/
def pageSizeU64 : NvU64 := BitVec.ofNat 64 pageSize

/-- `bytes_now` of the iteration at `*bytes = bytes`: the bytes left, cut at the end of the
target's page (`min(bytes_left, PAGE_SIZE - page_offset)`). -/
def bytesNow (targetVa size bytes : NvU64) : NvU64 :=
  let targetVaStart := targetVa + bytes
  let bytesLeft := size - bytes
  let pageOffset := targetVaStart &&& (pageSizeU64 - 1)
  if bytesLeft < pageSizeU64 - pageOffset then bytesLeft else pageSizeU64 - pageOffset

/-- `tools_access_va_block` of `size` bytes at `target_va`, with the status the calls give:
on success `uvm_va_block_write_from_cpu` stores the staging page's first `size` bytes there,
or `uvm_va_block_read_to_cpu` loads them into it. -/
def toolsAccessVaBlock (calls : AccessCalls) (isWrite : Bool) (targetVa size : NvU64)
    (state : AccessState) : NvStatus × AccessState :=
  let status := calls.accessVaBlock state.bytes
  (status,
    if status ≠ .ok then state
    else if isWrite then { state with target := copyBytes state.target targetVa state.stage 0 size }
    else { state with stage := copyBytes state.stage 0 state.target targetVa size })

/-- The `for_each_global_gpu_in_mask` loop: at a GPU in confidential-computing mode it asserts
that no GPU is retained and stops; it skips a GPU already in `retained_global_gpus`; it retains
any other and maps the staging page on it. The status of a failed mapping, with that GPU
retained. -/
def retainGlobalGpus (calls : AccessCalls) : List Nat → AccessState →
    Except Fault (NvStatus × AccessState)
  | [], state => .ok (.ok, state)
  | gpu :: gpus, state =>
      if calls.confComputing gpu then
        if state.retained = [] then .ok (.ok, state) else .error .assertion
      else if gpu ∈ state.retained then retainGlobalGpus calls gpus state
      else
        let state := { state with retained := state.retained ++ [gpu] }.log (.retainGpu gpu)
        let status := calls.mapGpuKernel gpu
        if status ≠ .ok then .ok (status, state)
        else retainGlobalGpus calls gpus (state.log (.mapStage gpu))

/-- `if (is_write) runtime_memcpy(stage_addr, user_va_start, bytes_now)`. -/
def AccessState.stageUserBytes (state : AccessState) (isWrite : Bool) (userVaStart bytesNow : NvU64) :
    AccessState :=
  if isWrite then { state with stage := copyBytes state.stage 0 state.user userVaStart bytesNow }
  else state

/-- `if (!is_write) runtime_memcpy(user_va_start, stage_addr, bytes_now)`. -/
def AccessState.copyOutBytes (state : AccessState) (isWrite : Bool) (userVaStart bytesNow : NvU64) :
    AccessState :=
  if isWrite then state
  else { state with user := copyBytes state.user userVaStart state.stage 0 bytesNow }

/-- How one iteration of the loop ends. -/
inductive IterationEnd where
  /-- `*bytes += bytes_now`, the lock dropped. -/
  | next (state : AccessState)
  /-- `goto unlock_and_exit`, the lock held. -/
  | unlockAndExit (status : NvStatus) (state : AccessState)
  /-- `goto exit`, the lock dropped. -/
  | exit (status : NvStatus) (state : AccessState)

/-- One iteration of `while (*bytes < size)`. -/
def accessIteration (calls : AccessCalls) (targetVa size userVa : NvU64) (isWrite : Bool)
    (state : AccessState) : Except Fault IterationEnd :=
  let userVaStart := userVa + state.bytes
  let targetVaStart := targetVa + state.bytes
  let now := bytesNow targetVa size state.bytes
  let state := (state.stageUserBytes isWrite userVaStart now).log .downReadRm
  let (status, isHmm) := calls.findCreate state.bytes
  if status ≠ .ok then .ok (.unlockAndExit status state)
  else
    match retainGlobalGpus calls (calls.globalGpus state.bytes) state with
    | .error fault => .error fault
    | .ok (status, state) =>
        if status ≠ .ok then .ok (.unlockAndExit status state)
        else
          let status := if isHmm then calls.updateResidency state.bytes else .ok
          if status ≠ .ok then .ok (.unlockAndExit status state)
          else
            let (status, state) := toolsAccessVaBlock calls isWrite targetVaStart now
              (state.log (.accessBlock targetVaStart now))
            let status := if status = .ok then calls.checkEccError state.bytes else status
            let state := state.log .upReadRm
            if status ≠ .ok then .ok (.exit status state)
            else
              let state := state.copyOutBytes isWrite userVaStart now
              .ok (.next { state with bytes := state.bytes + now })

/-- The code at `unlock_and_exit`: the lock is dropped when the status is not `NV_OK`. -/
def unlockAndExit (status : NvStatus) (state : AccessState) : NvStatus × AccessState :=
  (status, if status ≠ .ok then state.log .upReadRm else state)

/-- The loop from `state`, with `fuel` iterations left (`none` once they run out), up to the
label it leaves for: the status and the state there, past `unlock_and_exit`'s code. When the
condition fails, `status` still holds the `NV_OK` of the last iteration, or of the
allocations. -/
def accessLoop (calls : AccessCalls) (targetVa size userVa : NvU64) (isWrite : Bool) :
    Nat → AccessState → Option (Except Fault (NvStatus × AccessState))
  | fuel, state =>
      if state.bytes < size then
        match fuel with
        | 0 => none
        | fuel + 1 =>
            match accessIteration calls targetVa size userVa isWrite state with
            | .error fault => some (.error fault)
            | .ok (.next state) => accessLoop calls targetVa size userVa isWrite fuel state
            | .ok (.unlockAndExit status state) => some (.ok (unlockAndExit status state))
            | .ok (.exit status state) => some (.ok (status, state))
      else some (.ok (unlockAndExit .ok state))

/-- The code at `exit`: the staging page freed if it was allocated, then every GPU of
`retained_global_gpus` released, in global id order. -/
def exitCleanup (stageAllocated : Bool) (state : AccessState) : AccessState :=
  let state := if stageAllocated then state.log .freeStage else state
  { state with events := state.events ++ (state.retained.insertionSort (· ≤ ·)).map .releaseGpu }

/-- `tools_access_process_memory(va_space, target_va, size, user_va, bytes, is_write)`, with
the loop given `size` iterations, which it never runs out of. `retained_global_gpus` starts
empty (`uvm_global_processor_mask_zero`). -/
def toolsAccessProcessMemory (calls : AccessCalls) (targetVa size userVa : NvU64)
    (isWrite : Bool) (state : AccessState) : Option (Except Fault (NvStatus × AccessState)) :=
  if !calls.retainedAllocated then some (.ok (.errNoMemory, state))
  else
    let state := { state with retained := [] }
    if !calls.globalAllocated then some (.ok (.errNoMemory, exitCleanup false state))
    else if calls.stageStatus ≠ .ok then some (.ok (calls.stageStatus, exitCleanup false state))
    else if !calls.blockContextAllocated then some (.ok (.errNoMemory, exitCleanup true state))
    else
      (accessLoop calls targetVa size userVa isWrite size.toNat { state with bytes := 0 }).map
        fun result => result.map fun (status, state) => (status, exitCleanup true state)

@[simp] theorem copyBytes_zero (dest : Memory) (destAddr : NvU64) (source : Memory)
    (sourceAddr : NvU64) : copyBytes dest destAddr source sourceAddr 0 = dest := by
  funext addr
  simp [copyBytes, BitVec.lt_def]

/-- Going through the staging page from offset 0 is one copy. -/
theorem copyBytes_copyBytes_zero (dest stage source : Memory) (destAddr sourceAddr count : NvU64) :
    copyBytes dest destAddr (copyBytes stage 0 source sourceAddr count) 0 count =
      copyBytes dest destAddr source sourceAddr count := by
  funext addr
  simp only [copyBytes]
  split_ifs <;> simp_all

/-- A copy of `m` bytes followed by the next `n` is a copy of `m + n`, when `m + n` does not
wrap. -/
theorem copyBytes_append (dest source : Memory) (destAddr sourceAddr m n : NvU64)
    (hwrap : m.toNat + n.toNat < 2 ^ 64) :
    copyBytes (copyBytes dest destAddr source sourceAddr m) (destAddr + m) source
        (sourceAddr + m) n =
      copyBytes dest destAddr source sourceAddr (m + n) := by
  funext addr
  simp only [copyBytes]
  rw [show addr - (destAddr + m) = addr - destAddr - m by bv_omega]
  generalize addr - destAddr = d
  have hd := d.isLt
  have hm := m.isLt
  by_cases hlow : d < m
  · have hlow' := BitVec.lt_def.mp hlow
    rw [if_neg (by rw [BitVec.lt_def, BitVec.toNat_sub]; omega), if_pos hlow,
      if_pos (by rw [BitVec.lt_def, BitVec.toNat_add]; omega)]
  · rw [if_neg hlow]
    have hlow' : m.toNat ≤ d.toNat := by rw [BitVec.lt_def] at hlow; omega
    have hdm : (d - m).toNat = d.toNat - m.toNat := by rw [BitVec.toNat_sub]; omega
    by_cases hhigh : d - m < n
    · rw [if_pos hhigh, if_pos (by rw [BitVec.lt_def, BitVec.toNat_add] at *; omega),
        BitVec.add_assoc,
        show m + (d - m) = d from BitVec.eq_of_toNat_eq (by rw [BitVec.toNat_add, hdm]; omega)]
    · rw [if_neg hhigh, if_neg (by rw [BitVec.lt_def, BitVec.toNat_add] at *; omega)]

/-! ### Chunks -/

theorem toNat_pageOffset (x : NvU64) : (x &&& (pageSizeU64 - 1)).toNat = x.toNat % pageSize := by
  rw [BitVec.toNat_and, show (pageSizeU64 - 1).toNat = 2 ^ 12 - 1 from rfl,
    Nat.and_pow_two_sub_one_eq_mod]
  rfl

/-- While bytes are left, a chunk is not empty, stays within `size`, and stays within the
target's page. -/
theorem bytesNow_spec {targetVa size bytes : NvU64} (hbytes : bytes < size) :
    0 < (bytesNow targetVa size bytes).toNat ∧
      bytes.toNat + (bytesNow targetVa size bytes).toNat ≤ size.toNat ∧
      (targetVa + bytes).toNat % pageSize + (bytesNow targetVa size bytes).toNat ≤ pageSize := by
  have hpage : pageSize = 4096 := rfl
  have hoffset := Nat.mod_lt (targetVa + bytes).toNat (show 0 < pageSize by decide)
  rw [BitVec.lt_def] at hbytes
  have hroom : (pageSizeU64 - (targetVa + bytes &&& (pageSizeU64 - 1))).toNat =
      pageSize - (targetVa + bytes).toNat % pageSize := by
    rw [BitVec.toNat_sub, toNat_pageOffset, show pageSizeU64.toNat = pageSize from rfl]
    omega
  have hleft : (size - bytes).toNat = size.toNat - bytes.toNat := by
    rw [BitVec.toNat_sub]
    omega
  unfold bytesNow
  dsimp only
  by_cases hcut : size - bytes < pageSizeU64 - (targetVa + bytes &&& (pageSizeU64 - 1))
  · rw [if_pos hcut]
    rw [BitVec.lt_def, hroom, hleft] at hcut
    rw [hleft]
    omega
  · rw [if_neg hcut]
    rw [BitVec.lt_def, hroom, hleft] at hcut
    rw [hroom]
    omega

/-- A chunk runs to the end of the range or to the end of the target's page. -/
theorem bytesNow_maximal {targetVa size bytes : NvU64} (hbytes : bytes < size) :
    bytes.toNat + (bytesNow targetVa size bytes).toNat = size.toNat ∨
      (targetVa + bytes).toNat % pageSize + (bytesNow targetVa size bytes).toNat = pageSize := by
  have hpage : pageSize = 4096 := rfl
  have hoffset := Nat.mod_lt (targetVa + bytes).toNat (show 0 < pageSize by decide)
  rw [BitVec.lt_def] at hbytes
  unfold bytesNow
  dsimp only
  split
  · left
    rw [BitVec.toNat_sub]
    omega
  · right
    rw [BitVec.toNat_sub, toNat_pageOffset, show pageSizeU64.toNat = pageSize from rfl]
    omega

/-! ### The steps of an iteration and the exit -/

namespace AccessState

variable (state : AccessState) (isWrite : Bool) (userVaStart now : NvU64)

@[simp] theorem bytes_stageUserBytes : (state.stageUserBytes isWrite userVaStart now).bytes = state.bytes := by
  cases isWrite <;> rfl
@[simp] theorem user_stageUserBytes : (state.stageUserBytes isWrite userVaStart now).user = state.user := by
  cases isWrite <;> rfl
@[simp] theorem target_stageUserBytes :
    (state.stageUserBytes isWrite userVaStart now).target = state.target := by
  cases isWrite <;> rfl
@[simp] theorem retained_stageUserBytes :
    (state.stageUserBytes isWrite userVaStart now).retained = state.retained := by
  cases isWrite <;> rfl
@[simp] theorem events_stageUserBytes :
    (state.stageUserBytes isWrite userVaStart now).events = state.events := by
  cases isWrite <;> rfl
@[simp] theorem stage_stageUserBytes :
    (state.stageUserBytes isWrite userVaStart now).stage =
      if isWrite then copyBytes state.stage 0 state.user userVaStart now else state.stage := by
  cases isWrite <;> rfl

@[simp] theorem bytes_copyOutBytes : (state.copyOutBytes isWrite userVaStart now).bytes = state.bytes := by
  cases isWrite <;> rfl
@[simp] theorem target_copyOutBytes : (state.copyOutBytes isWrite userVaStart now).target = state.target := by
  cases isWrite <;> rfl
@[simp] theorem retained_copyOutBytes :
    (state.copyOutBytes isWrite userVaStart now).retained = state.retained := by
  cases isWrite <;> rfl
@[simp] theorem events_copyOutBytes :
    (state.copyOutBytes isWrite userVaStart now).events = state.events := by
  cases isWrite <;> rfl
@[simp] theorem user_copyOutBytes :
    (state.copyOutBytes isWrite userVaStart now).user =
      if isWrite then state.user else copyBytes state.user userVaStart state.stage 0 now := by
  cases isWrite <;> rfl

end AccessState

section Block

variable {calls : AccessCalls} {isWrite : Bool} {targetVa size : NvU64} {state next : AccessState}
  {status : NvStatus}

/-- The block access changes no field but the VA space's memory (a write) or the staging page
(a read), and those only on success. -/
theorem toolsAccessVaBlock_spec (h : toolsAccessVaBlock calls isWrite targetVa size state = (status, next)) :
    status = calls.accessVaBlock state.bytes ∧ next.bytes = state.bytes ∧ next.user = state.user ∧
      next.retained = state.retained ∧ next.events = state.events ∧
      (next.target, next.stage) =
        if status ≠ .ok then (state.target, state.stage)
        else if isWrite then (copyBytes state.target targetVa state.stage 0 size, state.stage)
        else (state.target, copyBytes state.stage 0 state.target targetVa size) := by
  unfold toolsAccessVaBlock at h
  obtain ⟨rfl, rfl⟩ := Prod.mk.inj h
  refine ⟨rfl, ?_⟩
  split_ifs <;> exact ⟨rfl, rfl, rfl, rfl, rfl⟩

end Block

@[simp] theorem unlockAndExit_snd_of_ne {status : NvStatus} (hstatus : status ≠ .ok)
    (state : AccessState) : (unlockAndExit status state).2 = state.log .upReadRm := by
  simp [unlockAndExit, hstatus]

@[simp] theorem unlockAndExit_ok (state : AccessState) : unlockAndExit .ok state = (.ok, state) := by
  simp [unlockAndExit]

@[simp] theorem bytes_exitCleanup (stageAllocated : Bool) (state : AccessState) :
    (exitCleanup stageAllocated state).bytes = state.bytes := by
  cases stageAllocated <;> rfl
theorem events_exitCleanup (stageAllocated : Bool) (state : AccessState) :
    (exitCleanup stageAllocated state).events = state.events ++
      ((if stageAllocated then [.freeStage] else []) ++
        (state.retained.insertionSort (· ≤ ·)).map .releaseGpu) := by
  cases stageAllocated <;> simp [exitCleanup]

/-! ### The allocations -/

/-- The four allocations before the loop succeed. -/
def AccessCalls.allocates (calls : AccessCalls) : Bool :=
  calls.retainedAllocated && calls.globalAllocated && calls.stageStatus == .ok &&
    calls.blockContextAllocated

section Allocations

variable {calls : AccessCalls} {targetVa size userVa : NvU64} {isWrite : Bool}

theorem toolsAccessProcessMemory_of_allocates (hallocated : calls.allocates = true)
    (state : AccessState) :
    toolsAccessProcessMemory calls targetVa size userVa isWrite state =
      (accessLoop calls targetVa size userVa isWrite size.toNat
        { state with retained := [], bytes := 0 }).map
        fun result => result.map fun (status, state) => (status, exitCleanup true state) := by
  simp only [AccessCalls.allocates, Bool.and_eq_true, beq_iff_eq] at hallocated
  obtain ⟨⟨⟨hretained, hglobal⟩, hstage⟩, hcontext⟩ := hallocated
  simp [toolsAccessProcessMemory, hretained, hglobal, hstage, hcontext]

/-- An iteration that goes on hands the loop to the iterations after it. -/
theorem accessLoop_of_next {fuel : Nat} {state next : AccessState} (hlt : state.bytes < size)
    (h : accessIteration calls targetVa size userVa isWrite state = .ok (.next next)) :
    accessLoop calls targetVa size userVa isWrite (fuel + 1) state =
      accessLoop calls targetVa size userVa isWrite fuel next := by
  rw [accessLoop, if_pos hlt, h]

/-- An iteration that leaves for `exit` ends the loop with its status. -/
theorem accessLoop_of_exit {fuel : Nat} {state stopped : AccessState} {status : NvStatus}
    (hlt : state.bytes < size)
    (h : accessIteration calls targetVa size userVa isWrite state = .ok (.exit status stopped)) :
    accessLoop calls targetVa size userVa isWrite (fuel + 1) state = some (.ok (status, stopped)) := by
  rw [accessLoop, if_pos hlt, h]

/-- Once `*bytes` reaches `size`, the loop ends with `NV_OK`. -/
theorem accessLoop_of_done {fuel : Nat} {state : AccessState} (hdone : ¬state.bytes < size) :
    accessLoop calls targetVa size userVa isWrite fuel state = some (.ok (.ok, state)) := by
  cases fuel <;> rw [accessLoop, if_neg hdone, unlockAndExit_ok]

theorem toolsAccessProcessMemory_of_not_allocates (hfailed : calls.allocates = false)
    (state : AccessState) :
    ∃ status final, toolsAccessProcessMemory calls targetVa size userVa isWrite state =
        some (.ok (status, final)) ∧ status ≠ .ok ∧ final.bytes = state.bytes ∧
      final.user = state.user ∧ final.target = state.target ∧
      (final.events = state.events ∨ final.events = state.events ++ [.freeStage]) := by
  unfold toolsAccessProcessMemory
  by_cases hretained : calls.retainedAllocated = false
  · rw [if_pos (by simpa using hretained)]
    exact ⟨_, _, rfl, by decide, rfl, rfl, rfl, .inl rfl⟩
  rw [if_neg (by simpa using hretained)]
  dsimp only
  by_cases hglobal : calls.globalAllocated = false
  · rw [if_pos (by simpa using hglobal)]
    exact ⟨_, _, rfl, by decide, rfl, rfl, rfl, .inl (by simp [events_exitCleanup])⟩
  rw [if_neg (by simpa using hglobal)]
  by_cases hstage : calls.stageStatus ≠ .ok
  · rw [if_pos hstage]
    exact ⟨_, _, rfl, hstage, rfl, rfl, rfl, .inl (by simp [events_exitCleanup])⟩
  rw [if_neg hstage]
  by_cases hcontext : calls.blockContextAllocated = false
  · rw [if_pos (by simpa using hcontext)]
    exact ⟨_, _, rfl, by decide, rfl, rfl, rfl, .inr (by simp [events_exitCleanup])⟩
  simp [AccessCalls.allocates, hretained, hglobal, not_not.mp hstage, hcontext] at hfailed

end Allocations

end UvmTools
