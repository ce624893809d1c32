import UvmTools.Api.ProcessMemory

/-!
# The access loop's invariant and what a call guarantees

`AccessMonitor` states the discipline `tools_access_process_memory` keeps with the VA space's
lock, the GPUs it retains and the staging page, as a monitor over the events the model records:
the lock taken and dropped in turn, a block accessed only under the lock and within one page, a
GPU retained once, the staging page mapped only on a retained GPU and freed outside the lock, and
each retained GPU released once, after the staging page is freed if it was mapped on it.

`LoopInv` is what holds at the head of the loop: `*bytes` within `size`, exactly the first
`*bytes` bytes moved (`copiedUpTo`), no GPU in confidential-computing mode retained, a trace
the monitor accepts, and blocks accessed that are the page-bounded chunks of the first `*bytes`
bytes of the range, in order (`ChunksCover`). `LoopInv.iterate` says what each way an iteration can end gives, and
`LoopInv.loop` carries that to the loop's end by induction on the fuel, each iteration moving at
least one byte. From `LoopEnd` and the code at `exit` follow the call's results: it returns, it
faults only in a VA space with GPUs both in and out of confidential-computing mode, its trace
leaves nothing held, `*bytes` counts what it moved, the bytes it counts are the ones moved, and
it accesses the range chunk by chunk and nothing outside it.
-/

namespace UvmTools

/-! ### The monitor -/

/-- The discipline the access keeps with its lock, GPUs and staging page, as a monitor over its
events. -/
structure AccessMonitor where
  locked : Bool
  retained : List Nat
  mapped : List Nat
  freed : Bool
  released : List Nat

namespace AccessMonitor

/-- Before the call: nothing held. -/
def initial : AccessMonitor := ⟨false, [], [], false, []⟩

/-- One event, or `none` where it breaks the discipline. -/
def step (monitor : AccessMonitor) : AccessEvent → Option AccessMonitor
  | .downReadRm => if monitor.locked then none else some { monitor with locked := true }
  | .upReadRm => if monitor.locked then some { monitor with locked := false } else none
  | .retainGpu gpu =>
      if gpu ∈ monitor.retained ∨ monitor.freed = true then none
      else some { monitor with retained := monitor.retained ++ [gpu] }
  | .mapStage gpu =>
      if gpu ∈ monitor.retained ∧ monitor.freed = false then
        some { monitor with mapped := monitor.mapped ++ [gpu] }
      else none
  | .accessBlock targetVaStart bytesNow =>
      if monitor.locked = true ∧ 0 < bytesNow.toNat ∧
          targetVaStart.toNat % pageSize + bytesNow.toNat ≤ pageSize then some monitor
      else none
  | .freeStage =>
      if monitor.freed = true ∨ monitor.locked = true then none
      else some { monitor with freed := true }
  | .releaseGpu gpu =>
      if gpu ∈ monitor.retained ∧ gpu ∉ monitor.released ∧ monitor.locked = false ∧
          (gpu ∈ monitor.mapped → monitor.freed = true) then
        some { monitor with released := monitor.released ++ [gpu] }
      else none

/-- A run of events. -/
def run (monitor : AccessMonitor) (events : List AccessEvent) : Option AccessMonitor :=
  events.foldlM step monitor

@[simp] theorem run_nil (monitor : AccessMonitor) : monitor.run [] = some monitor := rfl

theorem run_append (monitor : AccessMonitor) (events events' : List AccessEvent) :
    monitor.run (events ++ events') = (monitor.run events).bind fun monitor => monitor.run events' :=
  List.foldlM_append _ _ _ _

theorem run_cons (monitor : AccessMonitor) (event : AccessEvent) (events : List AccessEvent) :
    monitor.run (event :: events) = (monitor.step event).bind fun monitor => monitor.run events :=
  List.foldlM_cons _ _ _ _

theorem step_nodup {monitor next : AccessMonitor} {event : AccessEvent}
    (h : monitor.step event = some next) (hnodup : monitor.retained.Nodup) : next.retained.Nodup := by
  cases event <;> simp only [step] at h <;> split_ifs at h with hguard <;> cases h
  all_goals first
    | exact hnodup
    | exact hnodup.append (List.nodup_singleton _)
        (List.disjoint_singleton.mpr fun hmem => hguard (.inl hmem))

theorem run_nodup {monitor next : AccessMonitor} {events : List AccessEvent}
    (h : monitor.run events = some next) (hnodup : monitor.retained.Nodup) : next.retained.Nodup := by
  induction events generalizing monitor with
  | nil => cases h; exact hnodup
  | cons event events ih =>
      rw [run_cons, Option.bind_eq_some] at h
      obtain ⟨middle, hstep, hrest⟩ := h
      exact ih hrest (step_nodup hstep hnodup)

/-- Releasing distinct retained GPUs, none released yet, after the staging page is freed. -/
theorem run_releases {retained mapped : List Nat} :
    ∀ {gpus released : List Nat}, gpus.Nodup → (∀ gpu ∈ gpus, gpu ∈ retained) →
      (∀ gpu ∈ gpus, gpu ∉ released) →
      run ⟨false, retained, mapped, true, released⟩ (gpus.map .releaseGpu) =
        some ⟨false, retained, mapped, true, released ++ gpus⟩
  | [], released, _, _, _ => by simp
  | gpu :: gpus, released, hnodup, hmem, hfresh => by
      rw [List.map_cons, run_cons, step, if_pos ⟨hmem gpu (.head _), hfresh gpu (.head _), rfl,
        fun _ => rfl⟩, Option.some_bind]
      obtain ⟨hgpu, hgpus⟩ := List.nodup_cons.mp hnodup
      have hrest := @run_releases retained mapped gpus (released ++ [gpu]) hgpus
        (fun g hg => hmem g (.tail _ hg))
        (fun g hg => by
          rw [List.mem_append, List.mem_singleton, not_or]
          exact ⟨hfresh g (.tail _ hg), fun heq => hgpu (heq ▸ hg)⟩)
      simpa using hrest

end AccessMonitor

/-- A run from the start that the monitor accepts and that leaves nothing held: the lock free,
every retained GPU released exactly once, and the staging page freed if a GPU had it mapped. -/
def AccessMonitor.Complete (events : List AccessEvent) : Prop :=
  ∃ monitor, AccessMonitor.initial.run events = some monitor ∧ monitor.locked = false ∧
    monitor.released.Perm monitor.retained ∧ (monitor.mapped = [] ∨ monitor.freed = true)

/-- One iteration's events from a loop head: the lock taken, the GPU loop's events, the
block access if there was one, and the lock dropped. -/
theorem AccessMonitor.run_iteration {retained added : List Nat} {gpuEvents access : List AccessEvent}
    (hgpus : ∀ monitor : AccessMonitor, monitor.locked = true → monitor.retained = retained →
      monitor.freed = false → ∃ mapped, monitor.run gpuEvents =
        some { monitor with retained := monitor.retained ++ added, mapped := monitor.mapped ++ mapped })
    (haccess : ∀ monitor : AccessMonitor, monitor.locked = true → monitor.run access = some monitor)
    (mapped : List Nat) :
    ∃ mapped', AccessMonitor.run ⟨false, retained, mapped, false, []⟩
        (.downReadRm :: gpuEvents ++ access ++ [.upReadRm]) =
      some ⟨false, retained ++ added, mapped', false, []⟩ := by
  obtain ⟨mapped', hrun⟩ := hgpus ⟨true, retained, mapped, false, []⟩ rfl rfl rfl
  refine ⟨mapped ++ mapped', ?_⟩
  simp [run_cons, run_append, step, hrun, haccess]

/-! ### The blocks accessed -/

/-- The block an event accesses. -/
def AccessEvent.block : AccessEvent → Option (NvU64 × NvU64)
  | .downReadRm => none
  | .upReadRm => none
  | .retainGpu _ => none
  | .mapStage _ => none
  | .accessBlock targetVaStart bytesNow => some (targetVaStart, bytesNow)
  | .freeStage => none
  | .releaseGpu _ => none

/-- The blocks a run of events accesses, `(targetVaStart, bytesNow)` of each `accessBlock`, in
order. -/
def accessBlocks (events : List AccessEvent) : List (NvU64 × NvU64) :=
  events.filterMap AccessEvent.block

@[simp] theorem accessBlocks_nil : accessBlocks [] = [] := rfl

@[simp] theorem accessBlocks_cons (event : AccessEvent) (events : List AccessEvent) :
    accessBlocks (event :: events) = event.block.toList ++ accessBlocks events := by
  cases hblock : event.block <;> simp [accessBlocks, List.filterMap_cons, hblock]

@[simp] theorem accessBlocks_append (events events' : List AccessEvent) :
    accessBlocks (events ++ events') = accessBlocks events ++ accessBlocks events' :=
  List.filterMap_append _ _ _

/-- Releasing GPUs accesses no block. -/
@[simp] theorem accessBlocks_map_releaseGpu (gpus : List Nat) :
    accessBlocks (gpus.map .releaseGpu) = [] := by
  induction gpus <;> simp [*, AccessEvent.block]

/-- The blocks of an access of `size` bytes at `targetVa` from offset `bytes` to offset
`bytes'`: each starts where the one before ended, is not empty, stays within the range and the
target's page, and runs to the end of the range or of the page. -/
inductive ChunksCover (targetVa size : NvU64) : NvU64 → List (NvU64 × NvU64) → NvU64 → Prop
  | nil (bytes : NvU64) : ChunksCover targetVa size bytes [] bytes
  | cons {bytes now bytes' : NvU64} {blocks : List (NvU64 × NvU64)} (pos : 0 < now.toNat)
      (within : bytes.toNat + now.toNat ≤ size.toNat)
      (inPage : (targetVa + bytes).toNat % pageSize + now.toNat ≤ pageSize)
      (maximal : bytes.toNat + now.toNat = size.toNat ∨
        (targetVa + bytes).toNat % pageSize + now.toNat = pageSize)
      (rest : ChunksCover targetVa size (bytes + now) blocks bytes') :
      ChunksCover targetVa size bytes ((targetVa + bytes, now) :: blocks) bytes'

/-- The next iteration's chunk extends a cover. -/
theorem ChunksCover.extend {targetVa size bytes bytes' : NvU64} {blocks : List (NvU64 × NvU64)}
    (hcover : ChunksCover targetVa size bytes blocks bytes') (hlt : bytes' < size) :
    ChunksCover targetVa size bytes
      (blocks ++ [(targetVa + bytes', bytesNow targetVa size bytes')])
      (bytes' + bytesNow targetVa size bytes') := by
  induction hcover with
  | nil =>
      obtain ⟨hpos, hwithin, hpage⟩ := bytesNow_spec hlt
      exact .cons hpos hwithin hpage (bytesNow_maximal hlt) (.nil _)
  | cons hpos hwithin hpage hmaximal _ ih => exact .cons hpos hwithin hpage hmaximal (ih hlt)

/-! ### The GPU loop -/

section GpuLoop

variable {calls : AccessCalls}

/-- The GPU loop adds GPUs of its list not in confidential-computing mode to
`retained_global_gpus` and events, and changes nothing else; it takes the monitor, under the
lock, through those events. -/
theorem retainGlobalGpus_spec {gpus : List Nat} {state next : AccessState} {status : NvStatus}
    (h : retainGlobalGpus calls gpus state = .ok (status, next)) :
    ∃ added events, next = { state with
        retained := state.retained ++ added, events := state.events ++ events } ∧
      (∀ gpu ∈ added, gpu ∈ gpus ∧ calls.confComputing gpu = false) ∧ accessBlocks events = [] ∧
      ∀ monitor : AccessMonitor, monitor.locked = true → monitor.retained = state.retained →
        monitor.freed = false → ∃ mapped, monitor.run events =
          some { monitor with
            retained := monitor.retained ++ added, mapped := monitor.mapped ++ mapped } := by
  induction gpus generalizing state with
  | nil =>
      cases h
      exact ⟨[], [], by simp, by simp, rfl, fun monitor _ _ _ => ⟨[], by simp⟩⟩
  | cons gpu gpus ih =>
      unfold retainGlobalGpus at h
      by_cases hcc : calls.confComputing gpu = true
      · rw [if_pos hcc] at h
        by_cases hempty : state.retained = []
        · rw [if_pos hempty] at h
          cases h
          exact ⟨[], [], by simp, by simp, rfl, fun monitor _ _ _ => ⟨[], by simp⟩⟩
        · rw [if_neg hempty] at h
          cases h
      rw [if_neg hcc] at h
      rw [Bool.not_eq_true] at hcc
      by_cases hmem : gpu ∈ state.retained
      · rw [if_pos hmem] at h
        obtain ⟨added, events, hnext, hadded, hrest⟩ := ih h
        exact ⟨added, events, hnext,
          fun gpu' hgpu' => ⟨List.mem_cons_of_mem _ (hadded gpu' hgpu').1, (hadded gpu' hgpu').2⟩,
          hrest⟩
      rw [if_neg hmem] at h
      dsimp only at h
      by_cases hmap : calls.mapGpuKernel gpu ≠ .ok
      · rw [if_pos hmap] at h
        cases h
        refine ⟨[gpu], [.retainGpu gpu], rfl, by simpa using hcc, rfl,
          fun monitor hlocked hretained hfreed => ⟨[], ?_⟩⟩
        simp [AccessMonitor.run, AccessMonitor.step, hretained, hmem, hfreed]
      rw [if_neg hmap] at h
      obtain ⟨added, events, rfl, hadded, hblocks, hrun⟩ := ih h
      refine ⟨gpu :: added, .retainGpu gpu :: .mapStage gpu :: events, by simp,
        by simpa [hcc] using fun gpu' hgpu' => ⟨.inr (hadded gpu' hgpu').1, (hadded gpu' hgpu').2⟩,
        by simpa [AccessEvent.block] using hblocks, ?_⟩
      intro monitor hlocked hretained hfreed
      obtain ⟨mapped, hmapped⟩ := hrun { monitor with
        retained := monitor.retained ++ [gpu], mapped := monitor.mapped ++ [gpu] }
        hlocked (by simp [hretained]) hfreed
      refine ⟨gpu :: mapped, ?_⟩
      simp only [AccessMonitor.run_cons, AccessMonitor.step, hretained, hmem, hfreed]
      simpa [hretained, hfreed] using hmapped

/-- The GPU loop's assertion fails only at a GPU of its list in confidential-computing mode,
with a GPU not in that mode retained before it: one retained already, or one of the list. -/
theorem retainGlobalGpus_error {gpus : List Nat} {state : AccessState} {fault : Fault}
    (hretained : ∀ gpu ∈ state.retained, calls.confComputing gpu = false)
    (h : retainGlobalGpus calls gpus state = .error fault) :
    ∃ gpu ∈ gpus, calls.confComputing gpu = true ∧
      ∃ gpu' ∈ state.retained ++ gpus, calls.confComputing gpu' = false := by
  induction gpus generalizing state with
  | nil => cases h
  | cons gpu gpus ih =>
      unfold retainGlobalGpus at h
      by_cases hcc : calls.confComputing gpu = true
      · rw [if_pos hcc] at h
        by_cases hempty : state.retained = []
        · rw [if_pos hempty] at h
          cases h
        · obtain ⟨gpu', hgpu'⟩ := List.exists_mem_of_ne_nil _ hempty
          exact ⟨gpu, List.mem_cons_self _ _, hcc, gpu', List.mem_append_left _ hgpu',
            hretained gpu' hgpu'⟩
      rw [if_neg hcc] at h
      by_cases hmem : gpu ∈ state.retained
      · rw [if_pos hmem] at h
        obtain ⟨gpu₁, hgpu₁, hcc₁, gpu₂, hgpu₂, hcc₂⟩ := ih hretained h
        refine ⟨gpu₁, List.mem_cons_of_mem _ hgpu₁, hcc₁, gpu₂, ?_, hcc₂⟩
        simp only [List.mem_append, List.mem_cons] at hgpu₂ ⊢
        tauto
      rw [if_neg hmem] at h
      dsimp only at h
      by_cases hmap : calls.mapGpuKernel gpu ≠ .ok
      · rw [if_pos hmap] at h
        cases h
      rw [if_neg hmap] at h
      have hretained' : ∀ gpu' ∈ state.retained ++ [gpu], calls.confComputing gpu' = false := by
        rw [Bool.not_eq_true] at hcc
        simpa [or_imp, forall_and, hcc] using hretained
      obtain ⟨gpu₁, hgpu₁, hcc₁, gpu₂, hgpu₂, hcc₂⟩ := ih (by simpa using hretained') h
      refine ⟨gpu₁, List.mem_cons_of_mem _ hgpu₁, hcc₁, gpu₂, ?_, hcc₂⟩
      simpa [or_assoc] using hgpu₂

end GpuLoop

/-! ### The loop -/

/-- The caller's memory and the VA space's, from `user` and `target`, once the first `count`
bytes have moved from `user_va` to `target_va` (a write) or from `target_va` to `user_va`
(a read), and nothing else has. -/
def copiedUpTo (targetVa userVa : NvU64) (isWrite : Bool) (user target : Memory)
    (count : NvU64) : Memory × Memory :=
  if isWrite then (user, copyBytes target targetVa user userVa count)
  else (copyBytes user userVa target targetVa count, target)

/-- A write's chunk, staged from the caller's memory and stored at the target, extends the
write by the chunk. -/
theorem copiedUpTo_write_chunk {targetVa userVa bytes now : NvU64} {user target u t : Memory}
    (stage : Memory) (hwrap : bytes.toNat + now.toNat < 2 ^ 64)
    (hcopied : (u, t) = copiedUpTo targetVa userVa true user target bytes) :
    (u, copyBytes t (targetVa + bytes) (copyBytes stage 0 u (userVa + bytes) now) 0 now) =
      copiedUpTo targetVa userVa true user target (bytes + now) := by
  simp only [copiedUpTo, if_true, Prod.mk.injEq] at hcopied ⊢
  obtain ⟨rfl, rfl⟩ := hcopied
  rw [copyBytes_copyBytes_zero, copyBytes_append _ _ _ _ _ _ hwrap]
  exact ⟨rfl, rfl⟩

/-- A read's chunk, loaded from the target into the staging page and copied out, extends the
read by the chunk. -/
theorem copiedUpTo_read_chunk {targetVa userVa bytes now : NvU64} {user target u t : Memory}
    (stage : Memory) (hwrap : bytes.toNat + now.toNat < 2 ^ 64)
    (hcopied : (u, t) = copiedUpTo targetVa userVa false user target bytes) :
    (copyBytes u (userVa + bytes) (copyBytes stage 0 t (targetVa + bytes) now) 0 now, t) =
      copiedUpTo targetVa userVa false user target (bytes + now) := by
  simp only [copiedUpTo, Bool.false_eq_true, if_false, Prod.mk.injEq] at hcopied ⊢
  obtain ⟨rfl, rfl⟩ := hcopied
  rw [copyBytes_copyBytes_zero, copyBytes_append _ _ _ _ _ _ hwrap]
  exact ⟨rfl, rfl⟩

/-- `state`'s events are `events` followed by a run that the monitor accepts from the start
and that ends at a loop head: the lock free, the staging page allocated, no GPU released, and
the GPUs retained as `retained_global_gpus`. -/
def AtLoopHead (events : List AccessEvent) (state : AccessState) : Prop :=
  ∃ added mapped, state.events = events ++ added ∧
    AccessMonitor.initial.run added = some ⟨false, state.retained, mapped, false, []⟩

theorem AtLoopHead.extend {events : List AccessEvent} {state next : AccessState}
    (more : List AccessEvent) (hhead : AtLoopHead events state) (hevents : next.events = state.events ++ more)
    (hrun : ∀ mapped, ∃ mapped', AccessMonitor.run ⟨false, state.retained, mapped, false, []⟩ more =
      some ⟨false, next.retained, mapped', false, []⟩) :
    AtLoopHead events next := by
  obtain ⟨added, mapped, hstate, hadded⟩ := hhead
  obtain ⟨mapped', hmore⟩ := hrun mapped
  exact ⟨added ++ more, mapped', by rw [hevents, hstate, List.append_assoc],
    by rw [AccessMonitor.run_append, hadded, Option.some_bind, hmore]⟩

/-- The events a run adds after a loop head, dropping the call's own `events`, are the ones it
added up to that head followed by the new ones. -/
theorem AtLoopHead.drop_append {events : List AccessEvent} {state : AccessState}
    (hhead : AtLoopHead events state) (more : List AccessEvent) :
    (state.events ++ more).drop events.length = state.events.drop events.length ++ more := by
  obtain ⟨added, -, hevents, -⟩ := hhead
  rw [hevents, List.append_assoc, List.drop_left, List.drop_left]

/-- The code at `exit` completes a trace that ended at a loop head. -/
theorem AtLoopHead.exitCleanup {events : List AccessEvent} {state : AccessState}
    (hhead : AtLoopHead events state) :
    ∃ added, (exitCleanup true state).events = events ++ added ∧ AccessMonitor.Complete added := by
  obtain ⟨added, mapped, hevents, hrun⟩ := hhead
  have hnodup := AccessMonitor.run_nodup hrun List.nodup_nil
  have hperm := List.perm_insertionSort (· ≤ ·) state.retained
  refine ⟨added ++ (.freeStage :: (state.retained.insertionSort (· ≤ ·)).map .releaseGpu),
    by simp [events_exitCleanup, hevents], ⟨false, state.retained, mapped, true,
      state.retained.insertionSort (· ≤ ·)⟩, ?_, rfl, hperm, .inr rfl⟩
  rw [AccessMonitor.run_append, hrun, Option.some_bind, AccessMonitor.run_cons]
  exact AccessMonitor.run_releases (hperm.nodup_iff.mpr hnodup) (fun gpu hgpu => hperm.mem_iff.mp hgpu)
    (fun _ _ => List.not_mem_nil _)

/-- A VA space whose GPUs, as `uvm_va_space_global_gpus` lists them at offsets of the request,
mix confidential-computing mode: one GPU in that mode and one not in it. -/
def AccessCalls.MixesConfComputing (calls : AccessCalls) (size : NvU64) : Prop :=
  ∃ bytes < size, ∃ gpu ∈ calls.globalGpus bytes, calls.confComputing gpu = true ∧
    ∃ bytes' < size, ∃ gpu' ∈ calls.globalGpus bytes', calls.confComputing gpu' = false

/-- What holds at the head of the loop of a call that started with the caller's memory `user`,
the VA space's memory `target` and the events `events`: `*bytes` within `size`, exactly the
first `*bytes` bytes moved, only GPUs listed at an offset of the request and not in
confidential-computing mode retained, a trace the
monitor accepts that ends at a loop head, and blocks accessed that cover the first `*bytes`
bytes. -/
structure LoopInv (calls : AccessCalls) (targetVa size userVa : NvU64) (isWrite : Bool)
    (user target : Memory) (events : List AccessEvent) (state : AccessState) : Prop where
  bytes_le : state.bytes ≤ size
  copied : (state.user, state.target) = copiedUpTo targetVa userVa isWrite user target state.bytes
  retained_ok : ∀ gpu ∈ state.retained, calls.confComputing gpu = false ∧
    ∃ bytes < size, gpu ∈ calls.globalGpus bytes
  trace : AtLoopHead events state
  blocks : ChunksCover targetVa size 0 (accessBlocks (state.events.drop events.length)) state.bytes

/-- What holds where the loop leaves with `status`, past `unlock_and_exit`'s code: `*bytes`
within `size` and equal to it exactly on `NV_OK`; the first `*bytes` bytes moved, or, on a
write whose ECC check failed, the chunk after them as well; a trace the monitor accepts that
ends with the lock free; and blocks accessed that cover the first `*bytes` bytes, followed, after
a failed access of the next chunk, by that chunk. -/
structure LoopEnd (targetVa size userVa : NvU64) (isWrite : Bool) (user target : Memory)
    (events : List AccessEvent) (status : NvStatus) (final : AccessState) : Prop where
  bytes_le : final.bytes ≤ size
  ok_iff : status = .ok ↔ final.bytes = size
  copied : (final.user, final.target) = copiedUpTo targetVa userVa isWrite user target final.bytes ∨
    isWrite = true ∧ status ≠ .ok ∧ final.bytes < size ∧
      (final.user, final.target) = copiedUpTo targetVa userVa isWrite user target
        (final.bytes + bytesNow targetVa size final.bytes)
  trace : AtLoopHead events final
  blocks : ChunksCover targetVa size 0 (accessBlocks (final.events.drop events.length)) final.bytes ∨
    final.bytes < size ∧ ∃ blocks, accessBlocks (final.events.drop events.length) =
      blocks ++ [(targetVa + final.bytes, bytesNow targetVa size final.bytes)] ∧
      ChunksCover targetVa size 0 blocks final.bytes

section Loop

variable {calls : AccessCalls} {targetVa size userVa : NvU64} {isWrite : Bool}
  {user target : Memory} {events : List AccessEvent}

theorem LoopInv.start (state : AccessState) :
    LoopInv calls targetVa size userVa isWrite state.user state.target state.events
      { state with retained := [], bytes := 0 } := by
  refine ⟨BitVec.le_def.mpr (Nat.zero_le _), ?_, fun _ hgpu => absurd hgpu (List.not_mem_nil _),
    ⟨[], [], by simp, rfl⟩, by simpa using ChunksCover.nil 0⟩
  cases isWrite <;> simp only [copiedUpTo, copyBytes_zero] <;> rfl

/-- An iteration that leaves the loop with `status`, having added `more` to the events and
accessed at most the next chunk, ends it. -/
theorem LoopInv.stop {state stopped : AccessState} {status : NvStatus} (more : List AccessEvent)
    (hinv : LoopInv calls targetVa size userVa isWrite user target events state)
    (hlt : state.bytes < size) (hstatus : status ≠ .ok) (hbytes : stopped.bytes = state.bytes)
    (hcopied : (stopped.user, stopped.target) = (state.user, state.target) ∨
      isWrite = true ∧ (stopped.user, stopped.target) = copiedUpTo targetVa userVa isWrite user
        target (state.bytes + bytesNow targetVa size state.bytes))
    (hevents : stopped.events = state.events ++ more)
    (hrun : ∀ mapped, ∃ mapped', AccessMonitor.run ⟨false, state.retained, mapped, false, []⟩ more =
      some ⟨false, stopped.retained, mapped', false, []⟩)
    (hblocks : accessBlocks more = [] ∨
      accessBlocks more = [(targetVa + state.bytes, bytesNow targetVa size state.bytes)]) :
    LoopEnd targetVa size userVa isWrite user target events status stopped := by
  refine ⟨hbytes ▸ hinv.bytes_le, ?_, ?_, hinv.trace.extend more hevents hrun, ?_⟩
  · rw [hbytes]
    exact iff_of_false hstatus fun heq => by rw [heq, BitVec.lt_def] at hlt; omega
  · rw [hbytes]
    rcases hcopied with hsame | ⟨hwrite, hchunk⟩
    · exact .inl (hsame.trans hinv.copied)
    · exact .inr ⟨hwrite, hstatus, hlt, hchunk⟩
  · rw [hevents, hinv.trace.drop_append, accessBlocks_append, hbytes]
    rcases hblocks with hnone | hblock
    · exact .inl (by simpa [hnone] using hinv.blocks)
    · exact .inr ⟨hlt, _, by rw [hblock], hinv.blocks⟩

theorem LoopInv.iterate {state : AccessState}
    (hinv : LoopInv calls targetVa size userVa isWrite user target events state)
    (hlt : state.bytes < size) :
    match accessIteration calls targetVa size userVa isWrite state with
    | .error _ => calls.MixesConfComputing size
    | .ok (.next next) => LoopInv calls targetVa size userVa isWrite user target events next ∧
        state.bytes < next.bytes
    | .ok (.unlockAndExit status stopped) => status ≠ .ok ∧
        LoopEnd targetVa size userVa isWrite user target events status (unlockAndExit status stopped).2
    | .ok (.exit status stopped) => status ≠ .ok ∧
        LoopEnd targetVa size userVa isWrite user target events status stopped := by
  obtain ⟨hpos, hfit, hpage⟩ := @bytesNow_spec targetVa _ _ hlt
  rcases hfind : calls.findCreate state.bytes with ⟨findStatus, isHmm⟩
  unfold accessIteration
  dsimp only
  generalize hnow : bytesNow targetVa size state.bytes = now at hpos hfit hpage
  generalize hs1 : (state.stageUserBytes isWrite (userVa + state.bytes) now).log .downReadRm = s1
  have hs1bytes : s1.bytes = state.bytes := by rw [← hs1]; simp
  simp only [hs1bytes, hfind]
  obtain ⟨hs1user, hs1target, hs1retained, hs1events, hs1stage⟩ :
      s1.user = state.user ∧ s1.target = state.target ∧ s1.retained = state.retained ∧
        s1.events = state.events ++ [.downReadRm] ∧ s1.stage = if isWrite then
          copyBytes state.stage 0 state.user (userVa + state.bytes) now else state.stage := by
    rw [← hs1]; simp
  by_cases hfound : findStatus ≠ .ok
  · rw [if_pos hfound]
    dsimp only
    rw [unlockAndExit_snd_of_ne hfound]
    refine ⟨hfound, hinv.stop [.downReadRm, .upReadRm] hlt hfound (by simp [hs1bytes])
      (.inl (by simp [hs1user, hs1target])) (by simp [hs1events]) (fun mapped => ?_) (.inl rfl)⟩
    simpa [hs1retained] using @AccessMonitor.run_iteration _ [] [] [] (fun monitor _ _ _ => ⟨[], by simp⟩) (by simp) mapped
  rw [if_neg hfound]
  rcases hretain : retainGlobalGpus calls (calls.globalGpus state.bytes) s1 with
    fault | ⟨gpuStatus, s2⟩
  · obtain ⟨gpu, hgpu, hcc, gpu', hgpu', hcc'⟩ :=
      retainGlobalGpus_error (fun gpu hgpu => (hinv.retained_ok gpu (hs1retained ▸ hgpu)).1) hretain
    refine ⟨state.bytes, hlt, gpu, hgpu, hcc, ?_⟩
    rcases List.mem_append.mp hgpu' with hretained | hlisted
    · exact (hinv.retained_ok gpu' (hs1retained ▸ hretained)).2.imp fun _ h => ⟨h.1, gpu', h.2, hcc'⟩
    · exact ⟨state.bytes, hlt, gpu', hlisted, hcc'⟩
  obtain ⟨added, gpuEvents, hs2, haddedOk, hgpuBlocks, hgpus⟩ := retainGlobalGpus_spec hretain
  rw [hs1retained] at hgpus
  dsimp only
  by_cases hmapped : gpuStatus ≠ .ok
  · rw [if_pos hmapped]
    dsimp only
    rw [unlockAndExit_snd_of_ne hmapped]
    refine ⟨hmapped, hinv.stop (.downReadRm :: gpuEvents ++ [] ++ [.upReadRm]) hlt hmapped
      (by simp [hs2, hs1bytes]) (.inl (by simp [hs2, hs1user, hs1target]))
      (by simp [hs2, hs1events]) (fun mapped => ?_) (.inl (by simp [hgpuBlocks, AccessEvent.block]))⟩
    simpa [hs2, hs1retained] using
      @AccessMonitor.run_iteration _ _ _ [] hgpus (by simp) mapped
  rw [if_neg hmapped]
  generalize hres : (if isHmm = true then calls.updateResidency s2.bytes else NvStatus.ok) = resStatus
  by_cases hresident : resStatus ≠ .ok
  · rw [if_pos hresident]
    dsimp only
    rw [unlockAndExit_snd_of_ne hresident]
    refine ⟨hresident, hinv.stop (.downReadRm :: gpuEvents ++ [] ++ [.upReadRm]) hlt hresident
      (by simp [hs2, hs1bytes]) (.inl (by simp [hs2, hs1user, hs1target]))
      (by simp [hs2, hs1events]) (fun mapped => ?_) (.inl (by simp [hgpuBlocks, AccessEvent.block]))⟩
    simpa [hs2, hs1retained] using
      @AccessMonitor.run_iteration _ _ _ [] hgpus (by simp) mapped
  rw [if_neg hresident]
  generalize hblock : toolsAccessVaBlock calls isWrite (targetVa + state.bytes) now
    (s2.log (.accessBlock (targetVa + state.bytes) now)) = accessed
  obtain ⟨blockStatus, s3⟩ := accessed
  obtain ⟨-, hs3bytes, hs3user, hs3retained, hs3events, hs3mem⟩ := toolsAccessVaBlock_spec hblock
  simp only [AccessState.target_log, AccessState.stage_log, hs2, hs1target, hs1stage] at hs3mem
  simp only [AccessState.bytes_log, AccessState.user_log, AccessState.retained_log,
    AccessState.events_log, hs2, hs1bytes, hs1user, hs1retained, hs1events]
    at hs3bytes hs3user hs3retained hs3events
  have hwrap : state.bytes.toNat + now.toNat < 2 ^ 64 := by have := size.isLt; omega
  have haccess : ∀ monitor : AccessMonitor, monitor.locked = true →
      monitor.run [.accessBlock (targetVa + state.bytes) now] = some monitor := fun monitor hlocked => by
    rw [AccessMonitor.run_cons, AccessMonitor.step, if_pos ⟨hlocked, hpos, hpage⟩]
    rfl
  have htrace := AccessMonitor.run_iteration hgpus haccess
  dsimp only
  generalize hecc : (if blockStatus = .ok then calls.checkEccError s3.bytes else blockStatus) =
    eccStatus
  by_cases hchecked : eccStatus ≠ .ok
  · rw [if_pos hchecked]
    dsimp only
    refine ⟨hchecked, hinv.stop (.downReadRm :: gpuEvents ++
        [.accessBlock (targetVa + state.bytes) now] ++ [.upReadRm]) hlt hchecked
      (by simp [hs3bytes]) ?_ (by simp [hs3events]) (by simpa [hs3retained] using htrace)
      (.inr (by simp [hgpuBlocks, AccessEvent.block, hnow]))⟩
    by_cases hblockOk : blockStatus ≠ .ok
    · rw [if_pos hblockOk] at hs3mem
      obtain ⟨hs3target, -⟩ := Prod.mk.inj hs3mem
      exact .inl (by simp [hs3user, hs3target])
    rw [if_neg hblockOk] at hs3mem
    cases isWrite
    · obtain ⟨hs3target, -⟩ := Prod.mk.inj hs3mem
      exact .inl (by simp [hs3user, hs3target])
    · obtain ⟨hs3target, -⟩ := Prod.mk.inj hs3mem
      refine .inr ⟨rfl, ?_⟩
      rw [hnow, ← copiedUpTo_write_chunk state.stage hwrap hinv.copied]
      simp [hs3user, hs3target]
  rw [if_neg hchecked]
  dsimp only
  have hblockOk : blockStatus = .ok := by
    by_contra hne
    rw [if_neg hne] at hecc
    exact hchecked (hecc ▸ hne)
  rw [if_neg (not_not.mpr hblockOk)] at hs3mem
  have hsum : (state.bytes + now).toNat = state.bytes.toNat + now.toNat := by
    rw [BitVec.toNat_add]
    exact Nat.mod_eq_of_lt hwrap
  refine ⟨⟨?_, ?_, ?_, hinv.trace.extend (.downReadRm :: gpuEvents ++
    [.accessBlock (targetVa + state.bytes) now] ++ [.upReadRm]) (by simp [hs3events])
      (by simpa [hs3retained] using htrace), ?_⟩, ?_⟩
  · simp only [AccessState.bytes_copyOutBytes, AccessState.bytes_log, hs3bytes, BitVec.le_def, hsum]
    omega
  · simp only [AccessState.bytes_copyOutBytes, AccessState.bytes_log, hs3bytes]
    cases isWrite
    · simp only [Bool.false_eq_true, if_false, Prod.mk.injEq] at hs3mem
      rw [← copiedUpTo_read_chunk state.stage hwrap hinv.copied]
      simp [hs3user, hs3mem.1, hs3mem.2]
    · simp only [if_true, Prod.mk.injEq] at hs3mem
      rw [← copiedUpTo_write_chunk state.stage hwrap hinv.copied]
      simp [hs3user, hs3mem.1]
  · intro gpu hgpu
    simp only [AccessState.retained_copyOutBytes, AccessState.retained_log, hs3retained,
      List.mem_append] at hgpu
    exact hgpu.elim (hinv.retained_ok gpu)
      fun hadded => ⟨(haddedOk gpu hadded).2, state.bytes, hlt, (haddedOk gpu hadded).1⟩
  · simp only [AccessState.events_copyOutBytes, AccessState.events_log, AccessState.bytes_copyOutBytes,
      AccessState.bytes_log, hs3events, hs3bytes, List.append_assoc, hinv.trace.drop_append,
      accessBlocks_append, accessBlocks_cons, hgpuBlocks, AccessEvent.block]
    rw [← hnow]
    simpa using hinv.blocks.extend hlt
  · simp only [AccessState.bytes_copyOutBytes, AccessState.bytes_log, hs3bytes, BitVec.lt_def, hsum]
    omega

theorem LoopInv.finish {state : AccessState}
    (hinv : LoopInv calls targetVa size userVa isWrite user target events state)
    (hdone : ¬state.bytes < size) :
    LoopEnd targetVa size userVa isWrite user target events .ok state := by
  have hsize : state.bytes = size := by
    have := hinv.bytes_le
    rw [BitVec.lt_def] at hdone
    rw [BitVec.le_def] at this
    exact BitVec.eq_of_toNat_eq (by omega)
  exact ⟨hinv.bytes_le, iff_of_true rfl hsize, .inl hinv.copied, hinv.trace, .inl hinv.blocks⟩

/-- The loop from a loop head returns when it has fuel for every byte left; it faults only in a
VA space with GPUs both in and out of confidential-computing mode, and where it returns,
`LoopEnd` holds. -/
theorem LoopInv.loop {fuel : Nat} {state : AccessState}
    (hinv : LoopInv calls targetVa size userVa isWrite user target events state)
    (hfuel : size.toNat ≤ state.bytes.toNat + fuel) :
    ∃ result, accessLoop calls targetVa size userVa isWrite fuel state = some result ∧
      match result with
      | .error _ => calls.MixesConfComputing size
      | .ok (status, final) => LoopEnd targetVa size userVa isWrite user target events status final := by
  induction fuel generalizing state with
  | zero =>
      have hdone : ¬state.bytes < size := by rw [BitVec.lt_def]; omega
      exact ⟨_, accessLoop_of_done hdone, hinv.finish hdone⟩
  | succ fuel ih =>
      by_cases hlt : state.bytes < size
      · have hiter := hinv.iterate hlt
        rw [accessLoop, if_pos hlt]
        rcases hresult : accessIteration calls targetVa size userVa isWrite state with
          fault | (next | ⟨status, stopped⟩ | ⟨status, stopped⟩) <;> rw [hresult] at hiter
        · exact ⟨_, rfl, hiter⟩
        · obtain ⟨hnext, hgrow⟩ := hiter
          rw [BitVec.lt_def] at hgrow
          exact ih hnext (by omega)
        · exact ⟨_, rfl, hiter.2⟩
        · exact ⟨_, rfl, hiter.2⟩
      · exact ⟨_, accessLoop_of_done hlt, hinv.finish hlt⟩

end Loop

/-! ### What a call guarantees -/

section Call

variable {calls : AccessCalls} {targetVa size userVa : NvU64} {isWrite : Bool}

/-- Where the call returns after the loop, `LoopEnd` held at `exit`. -/
theorem toolsAccessProcessMemory_loop (hallocated : calls.allocates = true) (state : AccessState) :
    ∃ result, toolsAccessProcessMemory calls targetVa size userVa isWrite state = some result ∧
      match result with
      | .error _ => calls.MixesConfComputing size
      | .ok (status, final) => ∃ atExit, final = exitCleanup true atExit ∧
          LoopEnd targetVa size userVa isWrite state.user state.target state.events status atExit := by
  obtain ⟨result, hloop, hresult⟩ := (@LoopInv.start calls targetVa size userVa isWrite state).loop
    (Nat.le_add_left _ _)
  rw [toolsAccessProcessMemory_of_allocates hallocated, hloop]
  rcases result with fault | ⟨status, atExit⟩
  · exact ⟨_, rfl, hresult⟩
  · exact ⟨_, rfl, atExit, rfl, hresult⟩

theorem toolsAccessProcessMemory_loopEnd (hallocated : calls.allocates = true)
    {state final : AccessState} {status : NvStatus}
    (h : toolsAccessProcessMemory calls targetVa size userVa isWrite state =
      some (.ok (status, final))) :
    ∃ atExit, final = exitCleanup true atExit ∧
      LoopEnd targetVa size userVa isWrite state.user state.target state.events status atExit := by
  obtain ⟨result, hresult, hend⟩ := toolsAccessProcessMemory_loop hallocated state
  rw [h] at hresult
  cases hresult
  exact hend

/-- The call returns: its loop never runs out of the `size` iterations it is given. It faults
only at the GPU loop's assertion, when `uvm_va_space_global_gpus` has listed, at offsets of the
request, a GPU in confidential-computing mode and a GPU not in it. -/
theorem toolsAccessProcessMemory_returns (calls : AccessCalls) (targetVa size userVa : NvU64)
    (isWrite : Bool) (state : AccessState) :
    ∃ result, toolsAccessProcessMemory calls targetVa size userVa isWrite state = some result ∧
      ∀ fault, result = .error fault →
        ∃ bytes < size, ∃ gpu ∈ calls.globalGpus bytes, calls.confComputing gpu = true ∧
          ∃ bytes' < size, ∃ gpu' ∈ calls.globalGpus bytes', calls.confComputing gpu' = false := by
  cases hallocated : calls.allocates
  · obtain ⟨status, final, hresult, -⟩ := toolsAccessProcessMemory_of_not_allocates hallocated state
    exact ⟨_, hresult, fun _ hfault => nomatch hfault⟩
  · obtain ⟨result, hresult, hend⟩ := toolsAccessProcessMemory_loop hallocated state
    refine ⟨result, hresult, fun fault hfault => ?_⟩
    subst hfault
    exact hend

/-- Calls that all succeed, in a VA space with one GPU, not in confidential-computing mode. -/
def succeedingCalls : AccessCalls :=
  ⟨true, true, .ok, true, fun _ => (.ok, false), fun _ => [1], fun _ => false, fun _ => .ok,
    fun _ => .ok, fun _ => .ok, fun _ => .ok⟩

/-- The same calls, except that the ECC check after the block access at `*bytes = 0x10`
fails with `-EIO`. -/
def eccFailingCalls : AccessCalls :=
  { succeedingCalls with checkEccError := fun bytes => if bytes = 0x10 then .ofErrno (-5) else .ok }

/-- A VA space whose page at `0x1000` holds 1s and whose page at `0x2000` holds 2s. -/
def straddlingTarget : Memory := fun addr => if addr < 0x2000 then 1 else 2

/-- That VA space, a caller buffer of 0s, and nothing done yet. -/
def straddlingState : AccessState := ⟨0, fun _ => 0, straddlingTarget, fun _ => 0, [], []⟩

/-- The loop head after the first iteration of a read of 32 bytes from `0x1FF0` into the buffer
at `0x5000`: the 16 bytes up to the page boundary loaded into the staging page and copied
out, with the one GPU retained and the staging page mapped on it. -/
def straddlingRead₁ : AccessState :=
  let stage := copyBytes (fun _ => 0) 0 straddlingTarget 0x1FF0 0x10
  ⟨0x10, copyBytes (fun _ => 0) 0x5000 stage 0 0x10, straddlingTarget, stage, [1],
    [.downReadRm, .retainGpu 1, .mapStage 1, .accessBlock 0x1FF0 0x10, .upReadRm]⟩

/-- ... and after the second: the 16 bytes past the boundary, with the GPU already retained. -/
def straddlingRead₂ : AccessState :=
  let stage := copyBytes straddlingRead₁.stage 0 straddlingTarget 0x2000 0x10
  ⟨0x20, copyBytes straddlingRead₁.user 0x5010 stage 0 0x10, straddlingTarget, stage, [1],
    straddlingRead₁.events ++ [.downReadRm, .accessBlock 0x2000 0x10, .upReadRm]⟩

/-- The read runs those two iterations and returns `NV_OK`. -/
theorem straddlingRead_eq :
    toolsAccessProcessMemory succeedingCalls 0x1FF0 0x20 0x5000 false straddlingState =
      some (.ok (.ok, exitCleanup true straddlingRead₂)) := by
  have first : accessIteration succeedingCalls 0x1FF0 0x20 0x5000 false
      { straddlingState with retained := [], bytes := 0 } = .ok (.next straddlingRead₁) := rfl
  have second : accessIteration succeedingCalls 0x1FF0 0x20 0x5000 false straddlingRead₁ =
      .ok (.next straddlingRead₂) := rfl
  rw [toolsAccessProcessMemory_of_allocates (rfl : succeedingCalls.allocates = true),
    show (0x20 : NvU64).toNat = 30 + 1 + 1 from rfl, accessLoop_of_next (by decide) first,
    accessLoop_of_next (by decide) second, accessLoop_of_done (by decide)]
  rfl

/-- The loop head after the first iteration of a write of 32 bytes from the buffer at `0x5000`
to `0x1FF0`, with the ECC check of `eccFailingCalls`: the first 16 bytes staged and stored up to
the page boundary. -/
def straddlingWrite₁ : AccessState :=
  let stage := copyBytes (fun _ => 0) 0 (fun _ => 0) 0x5000 0x10
  ⟨0x10, fun _ => 0, copyBytes straddlingTarget 0x1FF0 stage 0 0x10, stage, [1],
    [.downReadRm, .retainGpu 1, .mapStage 1, .accessBlock 0x1FF0 0x10, .upReadRm]⟩

/-- Where that write leaves the loop for `exit`: the next 16 bytes stored past the boundary
before the ECC check failed, and `*bytes` not moved past them. -/
def straddlingWriteExit : AccessState :=
  let stage := copyBytes straddlingWrite₁.stage 0 (fun _ => 0) 0x5010 0x10
  ⟨0x10, fun _ => 0, copyBytes straddlingWrite₁.target 0x2000 stage 0 0x10, stage, [1],
    straddlingWrite₁.events ++ [.downReadRm, .accessBlock 0x2000 0x10, .upReadRm]⟩

/-- The write runs those two iterations and returns the ECC check's status. -/
theorem straddlingWrite_eq :
    toolsAccessProcessMemory eccFailingCalls 0x1FF0 0x20 0x5000 true straddlingState =
      some (.ok (.ofErrno (-5), exitCleanup true straddlingWriteExit)) := by
  have first : accessIteration eccFailingCalls 0x1FF0 0x20 0x5000 true
      { straddlingState with retained := [], bytes := 0 } = .ok (.next straddlingWrite₁) := rfl
  have second : accessIteration eccFailingCalls 0x1FF0 0x20 0x5000 true straddlingWrite₁ =
      .ok (.exit (.ofErrno (-5)) straddlingWriteExit) := rfl
  rw [toolsAccessProcessMemory_of_allocates (rfl : eccFailingCalls.allocates = true),
    show (0x20 : NvU64).toNat = 30 + 1 + 1 from rfl, accessLoop_of_next (by decide) first,
    accessLoop_of_exit (by decide) second]
  rfl

/-- Every return leaves a trace the monitor accepts from the start and that leaves nothing held:
the lock taken and dropped in turn, each block accessed under the lock within one page, each GPU
retained once and the staging page mapped only on retained GPUs, the staging page freed outside
the lock, and every retained GPU released exactly once, after the staging page is freed if it
was mapped on it. -/
theorem toolsAccessProcessMemory_trace {state final : AccessState} {status : NvStatus}
    (h : toolsAccessProcessMemory calls targetVa size userVa isWrite state =
      some (.ok (status, final))) :
    ∃ added, final.events = state.events ++ added ∧ AccessMonitor.Complete added := by
  cases hallocated : calls.allocates
  · obtain ⟨status', final', hresult, -, -, -, -, hevents⟩ :=
      @toolsAccessProcessMemory_of_not_allocates calls targetVa size userVa isWrite hallocated
        state
    rw [h] at hresult
    cases hresult
    rcases hevents with hevents | hevents
    · exact ⟨[], by simp [hevents], AccessMonitor.initial, rfl, rfl, .nil, .inl rfl⟩
    · exact ⟨[.freeStage], hevents, ⟨false, [], [], true, []⟩, rfl, rfl, .nil, .inl rfl⟩
  · obtain ⟨atExit, rfl, hend⟩ := toolsAccessProcessMemory_loopEnd hallocated h
    exact hend.trace.exitCleanup

/-- The read of 32 bytes from `0x1FF0`, across the page boundary at `0x2000`: its complete
trace takes the lock once per page, maps the staging page on the one GPU at the first
iteration, and releases that GPU last. -/
theorem toolsAccessProcessMemory_trace_straddling :
    toolsAccessProcessMemory succeedingCalls 0x1FF0 0x20 0x5000 false straddlingState =
        some (.ok (.ok, exitCleanup true straddlingRead₂)) ∧
      (exitCleanup true straddlingRead₂).events = [.downReadRm, .retainGpu 1, .mapStage 1,
        .accessBlock 0x1FF0 0x10, .upReadRm, .downReadRm, .accessBlock 0x2000 0x10, .upReadRm,
        .freeStage, .releaseGpu 1] ∧
      ∃ added, (exitCleanup true straddlingRead₂).events = straddlingState.events ++ added ∧
        AccessMonitor.Complete added :=
  ⟨straddlingRead_eq, rfl, toolsAccessProcessMemory_trace straddlingRead_eq⟩

/-- When the allocations succeed, `*bytes` ends within `size`, and the status is `NV_OK` exactly
when it reaches `size`. -/
theorem toolsAccessProcessMemory_bytes (hallocated : calls.allocates = true)
    {state final : AccessState} {status : NvStatus}
    (h : toolsAccessProcessMemory calls targetVa size userVa isWrite state =
      some (.ok (status, final))) :
    final.bytes ≤ size ∧ (status = .ok ↔ final.bytes = size) := by
  obtain ⟨atExit, rfl, hend⟩ := toolsAccessProcessMemory_loopEnd hallocated h
  rw [bytes_exitCleanup]
  exact ⟨hend.bytes_le, hend.ok_iff⟩

/-- The write of 32 bytes to `0x1FF0` whose ECC check fails after the block access on the page
at `0x2000` returns that check's status with `*bytes = 0x10`, short of the size. -/
theorem toolsAccessProcessMemory_bytes_straddling :
    toolsAccessProcessMemory eccFailingCalls 0x1FF0 0x20 0x5000 true straddlingState =
        some (.ok (.ofErrno (-5), exitCleanup true straddlingWriteExit)) ∧
      eccFailingCalls.allocates = true ∧ (exitCleanup true straddlingWriteExit).bytes = 0x10 ∧
      (exitCleanup true straddlingWriteExit).bytes ≤ 0x20 ∧
      (NvStatus.ofErrno (-5) = .ok ↔ (exitCleanup true straddlingWriteExit).bytes = 0x20) :=
  ⟨straddlingWrite_eq, rfl, rfl, toolsAccessProcessMemory_bytes (rfl : eccFailingCalls.allocates = true) straddlingWrite_eq⟩

/-- When the allocations succeed, the blocks a returning call accesses are the chunks of the
range in order: each starts where the one before ended, is not empty, stays within the range and
within one page of the target, and runs to the end of the range or of the page. They cover the
`*bytes` bytes the call reports, followed, when the access of the next chunk failed, by that
chunk; nothing outside the range is accessed. -/
theorem toolsAccessProcessMemory_blocks (hallocated : calls.allocates = true)
    {state final : AccessState} {status : NvStatus}
    (h : toolsAccessProcessMemory calls targetVa size userVa isWrite state =
      some (.ok (status, final))) :
    ∃ added, final.events = state.events ++ added ∧
      (ChunksCover targetVa size 0 (accessBlocks added) final.bytes ∨
        final.bytes < size ∧ ∃ blocks, accessBlocks added =
          blocks ++ [(targetVa + final.bytes, bytesNow targetVa size final.bytes)] ∧
          ChunksCover targetVa size 0 blocks final.bytes) := by
  obtain ⟨atExit, rfl, hend⟩ := toolsAccessProcessMemory_loopEnd hallocated h
  obtain ⟨added, -, hevents, -⟩ := hend.trace
  have hdrop : atExit.events.drop state.events.length = added := by
    rw [hevents, List.drop_left]
  refine ⟨added ++ ([.freeStage] ++ (atExit.retained.insertionSort (· ≤ ·)).map .releaseGpu),
    by rw [events_exitCleanup, hevents, List.append_assoc]; rfl, ?_⟩
  simpa [bytes_exitCleanup, AccessEvent.block, hdrop] using hend.blocks

/-- The read of 32 bytes from `0x1FF0` accesses two blocks of 16 bytes, one on each side of the
page boundary at `0x2000`. -/
theorem toolsAccessProcessMemory_blocks_straddling :
    toolsAccessProcessMemory succeedingCalls 0x1FF0 0x20 0x5000 false straddlingState =
        some (.ok (.ok, exitCleanup true straddlingRead₂)) ∧ succeedingCalls.allocates = true ∧
      accessBlocks (exitCleanup true straddlingRead₂).events = [(0x1FF0, 0x10), (0x2000, 0x10)] ∧
      ∃ added, (exitCleanup true straddlingRead₂).events = straddlingState.events ++ added ∧
        (ChunksCover 0x1FF0 0x20 0 (accessBlocks added) (exitCleanup true straddlingRead₂).bytes ∨
          (exitCleanup true straddlingRead₂).bytes < 0x20 ∧ ∃ blocks, accessBlocks added =
            blocks ++ [(0x1FF0 + (exitCleanup true straddlingRead₂).bytes,
              bytesNow 0x1FF0 0x20 (exitCleanup true straddlingRead₂).bytes)] ∧
            ChunksCover 0x1FF0 0x20 0 blocks (exitCleanup true straddlingRead₂).bytes) :=
  ⟨straddlingRead_eq, rfl, rfl, toolsAccessProcessMemory_blocks (rfl : succeedingCalls.allocates = true) straddlingRead_eq⟩

end Call

end UvmTools
