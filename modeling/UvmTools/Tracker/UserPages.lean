import UvmTools.Basic
import Mathlib.Data.List.Count

/-!
# A tracker's user buffers

`map_user_pages` pins the user pages of a buffer, takes a kernel virtual range from
`heap_virtual_page`, and maps each page into it; `unmap_user_pages` is the undo that
`destroy_event_tracker` runs on the record ring, the control block and the counter array.
The undo rounds the size up to a page count and passes that count to the kernel's `unmap`,
whose length is in bytes, and it never gives the virtual range back to its heap. It unpins
every page once, but of a buffer of more than one page only the first page is unmapped,
and the range stays allocated.

Every failing exit of `map_user_pages` leaves `*addr` and `*pages` NULL and undoes its pins,
but one of them returns `NV_OK`: when `allocate` finds no kernel range, the jump to `fail`
keeps the status `check_vmas` left.
-/

namespace UvmTools

/-- `PAGE_SIZE`, which the port also spells `PAGESIZE`. -/
def pageSize : Nat := 4096

/-- `DIV_ROUND_UP`. -/
def divRoundUp (n d : Nat) : Nat := (n + d - 1) / d

/-- What a tracker's buffers change in the kernel: the kernel page table by virtual page
number, the ranges taken from `heap_virtual_page` (start and length in bytes), and the pin
count of each user page. -/
structure KernelMemory where
  mapped : Nat → Option Nat
  allocated : List (Nat × Nat)
  pins : Nat → Nat

namespace KernelMemory

/-- `map(virtual, page, PAGESIZE, prot)`. -/
def map (memory : KernelMemory) (virtual page : Nat) : KernelMemory :=
  { memory with mapped := Function.update memory.mapped (virtual / pageSize) (some page) }

/-- `unmap(virtual, length)`: drops the mapping of every page that the `length` bytes from
`virtual` reach. -/
def unmap (memory : KernelMemory) (virtual length : Nat) : KernelMemory :=
  { memory with
    mapped := fun page =>
      if virtual < (page + 1) * pageSize ∧ page * pageSize < virtual + length then none
      else memory.mapped page }

/-- `allocate(heap_virtual_page, length)` returning `virtual`. -/
def allocate (memory : KernelMemory) (virtual length : Nat) : KernelMemory :=
  { memory with allocated := (virtual, length) :: memory.allocated }

/-- `NV_PIN_USER_PAGES` pinning `pages`. -/
def pin (memory : KernelMemory) (pages : List Nat) : KernelMemory :=
  { memory with pins := fun page => memory.pins page + pages.count page }

end KernelMemory

/-- `uvm_put_user_pages_dirty(pages, page_count)`: unpins each of the first `page_count`
pages (after marking it dirty). -/
def uvmPutUserPagesDirty (memory : KernelMemory) (pages : List Nat) (pageCount : Nat) :
    KernelMemory :=
  { memory with pins := fun page => memory.pins page - (pages.take pageCount).count page }

/-- What the calls `map_user_pages` makes outside this file return: whether
`uvm_api_range_invalid` rejects the range, whether `uvm_kvmalloc` of the page array
succeeds, the status of `check_vmas`, what `NV_PIN_USER_PAGES` returns (the pages it pinned,
or a negative errno), and where `allocate` puts the kernel range (`none`:
`INVALID_ADDRESS`), which is page aligned. -/
structure MapCalls where
  rangeInvalid : Bool
  pagesAllocated : Bool
  vmasStatus : NvStatus
  pinned : Except Int (List Nat)
  virtual : Option Nat
  aligned : ∀ start, virtual = some start → start % pageSize = 0

/-- What `map_user_pages(user_va, size, &addr, &pages)` leaves: its status, `*addr` (0 for
NULL), `*pages` (`none` for NULL), and the kernel memory. -/
structure MapResult where
  status : NvStatus
  addr : Nat
  pages : Option (List Nat)
  memory : KernelMemory

/-- The mapping loop of `map_user_pages`: page `i` at `virtual + i * PAGESIZE` for each
`i < count`, in that order. -/
def mapPages (memory : KernelMemory) (virtual : Nat) (pages : List Nat) : Nat → KernelMemory
  | 0 => memory
  | i + 1 => (mapPages memory virtual pages i).map (virtual + i * pageSize) (pages.getD i 0)

/-- `map_user_pages`. Its `fail` label unpins the pages a short `NV_PIN_USER_PAGES` did pin,
or turns a negative count into the status, and frees the page array. A failed `allocate`
also goes there, with the status still `NV_OK`; so does an `allocate` that returns address
0, after the pages are mapped there. -/
def mapUserPages (memory : KernelMemory) (size : Nat) (calls : MapCalls) : MapResult :=
  let numPages := divRoundUp size pageSize
  if calls.rangeInvalid then ⟨.errInvalidAddress, 0, none, memory⟩
  else if !calls.pagesAllocated then ⟨.errNoMemory, 0, none, memory⟩
  else if calls.vmasStatus ≠ .ok then ⟨calls.vmasStatus, 0, none, memory⟩
  else
    match calls.pinned with
    | .error errno => ⟨.ofErrno errno, 0, none, memory⟩
    | .ok pinned =>
        let fail (status : NvStatus) (memory : KernelMemory) : MapResult :=
          ⟨status, 0, none, uvmPutUserPagesDirty memory pinned pinned.length⟩
        let memory := memory.pin pinned
        if pinned.length ≠ numPages then fail .errInvalidArgument memory
        else
          match calls.virtual with
          | none => fail .ok memory
          | some virtual =>
              let memory :=
                mapPages (memory.allocate virtual (numPages * pageSize)) virtual pinned numPages
              if virtual = 0 then fail .ok memory else ⟨.ok, virtual, some pinned, memory⟩

/-- `unmap_user_pages(pages, addr, size)`. -/
def unmapUserPages (memory : KernelMemory) (pages : List Nat) (addr size : Nat) : KernelMemory :=
  let size := divRoundUp size pageSize
  uvmPutUserPagesDirty (memory.unmap addr size) pages size

section MapPages

variable {memory : KernelMemory} {virtual : Nat} {pages : List Nat}

@[simp] theorem allocated_mapPages (count : Nat) :
    (mapPages memory virtual pages count).allocated = memory.allocated := by
  induction count with
  | zero => rfl
  | succ i inductionHypothesis => exact inductionHypothesis

@[simp] theorem pins_mapPages (count : Nat) :
    (mapPages memory virtual pages count).pins = memory.pins := by
  induction count with
  | zero => rfl
  | succ i inductionHypothesis => exact inductionHypothesis

/-- From a page-aligned start, the loop maps page `i` of the list at the `i`-th page of the
range and leaves every other page. -/
theorem mapped_mapPages (haligned : virtual % pageSize = 0) (count page : Nat) :
    (mapPages memory virtual pages count).mapped page =
      if virtual / pageSize ≤ page ∧ page < virtual / pageSize + count then
        some (pages.getD (page - virtual / pageSize) 0)
      else memory.mapped page := by
  induction count with
  | zero => simp only [mapPages]; split_ifs <;> first | rfl | omega
  | succ i inductionHypothesis =>
      have hpage : (virtual + i * pageSize) / pageSize = virtual / pageSize + i := by
        unfold pageSize at haligned ⊢
        omega
      simp only [mapPages, KernelMemory.map, hpage]
      by_cases hat : page = virtual / pageSize + i
      · subst hat
        rw [Function.update_same, if_pos (by omega), Nat.add_sub_cancel_left]
      · rw [Function.update_noteq hat, inductionHypothesis]
        split_ifs <;> first | rfl | omega

end MapPages

/-- Unpinning every page a pin took gives each page its pin count back, whatever was mapped
or allocated in between. -/
theorem pins_uvmPutUserPagesDirty {memory memory' : KernelMemory} {pinned : List Nat}
    (hpins : memory'.pins = (memory.pin pinned).pins) :
    (uvmPutUserPagesDirty memory' pinned pinned.length).pins = memory.pins := by
  funext page
  simp only [uvmPutUserPagesDirty, hpins, KernelMemory.pin, List.take_length, Nat.add_sub_cancel]

/-- The two ways out of `map_user_pages`: it returns the pinned pages mapped from a non-NULL
kernel range, or `*addr` and `*pages` are NULL and every pin it took is undone. -/
theorem mapUserPages_exit (memory : KernelMemory) (size : Nat) (calls : MapCalls) :
    (∃ virtual pinned, calls.virtual = some virtual ∧ virtual ≠ 0 ∧ calls.pinned = .ok pinned ∧
      pinned.length = divRoundUp size pageSize ∧
      mapUserPages memory size calls = ⟨.ok, virtual, some pinned,
        mapPages ((memory.pin pinned).allocate virtual (divRoundUp size pageSize * pageSize))
          virtual pinned (divRoundUp size pageSize)⟩) ∨
    ((mapUserPages memory size calls).addr = 0 ∧ (mapUserPages memory size calls).pages = none ∧
      (mapUserPages memory size calls).memory.pins = memory.pins) := by
  generalize hresult : mapUserPages memory size calls = result
  unfold mapUserPages at hresult
  dsimp only at hresult
  by_cases hrange : calls.rangeInvalid = true
  · rw [if_pos hrange] at hresult
    exact .inr (hresult ▸ ⟨rfl, rfl, rfl⟩)
  rw [if_neg hrange] at hresult
  by_cases hallocated : (!calls.pagesAllocated) = true
  · rw [if_pos hallocated] at hresult
    exact .inr (hresult ▸ ⟨rfl, rfl, rfl⟩)
  rw [if_neg hallocated] at hresult
  by_cases hvmas : calls.vmasStatus ≠ .ok
  · rw [if_pos hvmas] at hresult
    exact .inr (hresult ▸ ⟨rfl, rfl, rfl⟩)
  rw [if_neg hvmas] at hresult
  split at hresult
  next => exact .inr (hresult ▸ ⟨rfl, rfl, rfl⟩)
  next pinned hpinned =>
    split at hresult
    next => exact .inr (hresult ▸ ⟨rfl, rfl, pins_uvmPutUserPagesDirty rfl⟩)
    next hlength =>
      split at hresult
      next => exact .inr (hresult ▸ ⟨rfl, rfl, pins_uvmPutUserPagesDirty rfl⟩)
      next virtual hvirtual =>
        split at hresult
        next => exact .inr (hresult ▸
          ⟨rfl, rfl, pins_uvmPutUserPagesDirty (by simp [KernelMemory.allocate])⟩)
        next hzero =>
          exact .inl ⟨virtual, pinned, hvirtual, hzero, hpinned, not_not.mp hlength, hresult.symm⟩

/-- A call of `map_user_pages` that returns a page array succeeded: `allocate` gave `addr`,
the array holds the `ceil(size / PAGE_SIZE)` pinned pages, and they are mapped from `addr`
on. -/
theorem mapUserPages_ok {memory memory' : KernelMemory} {size addr : Nat} {calls : MapCalls}
    {pages : List Nat} (hmap : mapUserPages memory size calls = ⟨.ok, addr, some pages, memory'⟩) :
    calls.virtual = some addr ∧ pages.length = divRoundUp size pageSize ∧
      memory' = mapPages ((memory.pin pages).allocate addr (divRoundUp size pageSize * pageSize))
        addr pages (divRoundUp size pageSize) := by
  rcases mapUserPages_exit memory size calls with
    ⟨virtual, pinned, hvirtual, -, -, hlength, hresult⟩ | ⟨-, hnone, -⟩
  · rw [hresult] at hmap
    cases hmap
    exact ⟨hvirtual, hlength, rfl⟩
  · rw [hmap] at hnone
    cases hnone

/-- `map_user_pages` returns `NV_OK` without a page array exactly when every step before
`allocate` passed, the pin took the whole buffer, and `allocate` gave no usable range:
`INVALID_ADDRESS`, or address 0. -/
theorem mapUserPages_ok_none_iff (memory : KernelMemory) (size : Nat) (calls : MapCalls) :
    (mapUserPages memory size calls).status = .ok ∧ (mapUserPages memory size calls).pages = none ↔
      calls.rangeInvalid = false ∧ calls.pagesAllocated = true ∧ calls.vmasStatus = .ok ∧
        (∃ pinned, calls.pinned = .ok pinned ∧ pinned.length = divRoundUp size pageSize) ∧
        (calls.virtual = none ∨ calls.virtual = some 0) := by
  obtain ⟨rangeInvalid, pagesAllocated, vmasStatus, pinned, virtual, aligned⟩ := calls
  unfold mapUserPages
  dsimp only
  cases rangeInvalid
  · cases pagesAllocated
    · simp
    by_cases hvmas : vmasStatus = .ok
    · cases pinned with
      | error errno => simp [hvmas]
      | ok pinned =>
          by_cases hlength : pinned.length = divRoundUp size pageSize
          · cases virtual with
            | none => simp [hvmas, hlength]
            | some virtual => by_cases hzero : virtual = 0 <;> simp [hvmas, hlength, hzero]
          · simp [hvmas, hlength]
    · simp [hvmas]
  · simp

/-- Every exit of `map_user_pages`, over every size and every outcome of the calls it makes.
A page array comes back only with `NV_OK`, a non-NULL `*addr` from which page `i` maps entry
`i`, and each of its pages pinned once more. Without one, `*addr` and `*pages` are NULL and
every pin the call took is undone, but the status is `NV_OK` when `allocate` gave no kernel
range: the caller then takes the NULL buffers for a success. -/
theorem mapUserPages_exits (memory : KernelMemory) (size : Nat) (calls : MapCalls) :
    (∀ pages, (mapUserPages memory size calls).pages = some pages →
      (mapUserPages memory size calls).status = .ok ∧ (mapUserPages memory size calls).addr ≠ 0 ∧
        pages.length = divRoundUp size pageSize ∧
        (∀ i, i < divRoundUp size pageSize →
          (mapUserPages memory size calls).memory.mapped
            ((mapUserPages memory size calls).addr / pageSize + i) = pages[i]?) ∧
        ∀ page, (mapUserPages memory size calls).memory.pins page =
          memory.pins page + pages.count page) ∧
    ((mapUserPages memory size calls).pages = none →
      (mapUserPages memory size calls).addr = 0 ∧
        (mapUserPages memory size calls).memory.pins = memory.pins) ∧
    ((mapUserPages memory size calls).status = .ok ∧
        (mapUserPages memory size calls).pages = none ↔
      calls.rangeInvalid = false ∧ calls.pagesAllocated = true ∧ calls.vmasStatus = .ok ∧
        (∃ pinned, calls.pinned = .ok pinned ∧ pinned.length = divRoundUp size pageSize) ∧
        (calls.virtual = none ∨ calls.virtual = some 0)) := by
  refine ⟨fun pages hpages => ?_, fun hnone => ?_, mapUserPages_ok_none_iff memory size calls⟩
  -- The fields are read while the result is still a variable: read through the record
  -- literal, the kernel would evaluate the page count `divRoundUp size pageSize`.
  · generalize hresult : mapUserPages memory size calls = result at hpages ⊢
    obtain ⟨status, addr, pages', mapped⟩ := result
    dsimp only at hpages ⊢
    subst hpages
    rcases mapUserPages_exit memory size calls with
      ⟨virtual, pinned, hvirtual, hzero, -, hlength, hexit⟩ | ⟨-, hnone, -⟩
    · rw [hexit] at hresult
      cases hresult
      have haligned := calls.aligned _ hvirtual
      refine ⟨rfl, hzero, hlength, fun i hi => ?_, fun page => congrFun (pins_mapPages _) page⟩
      rw [mapped_mapPages haligned, if_pos (by omega), Nat.add_sub_cancel_left,
        List.getD_eq_getElem?_getD, List.getElem?_eq_getElem (by omega)]
      rfl
    · rw [hresult] at hnone
      cases hnone
  · rcases mapUserPages_exit memory size calls with ⟨_, _, _, _, _, _, hresult⟩ | ⟨haddr, -, hpins⟩
    · rw [hresult] at hnone
      cases hnone
    · exact ⟨haddr, hpins⟩

/-- After a successful `map_user_pages` of `size` bytes, `unmap_user_pages(pages, addr, size)`
unpins each page once, but the kernel range stays allocated, and it unmaps only the pages
within `ceil(size / PAGE_SIZE)` bytes of `addr`: every page `i` of the buffer with
`i * PAGE_SIZE` at least that page count stays mapped. -/
theorem unmapUserPages_after_map {memory mapped : KernelMemory} {size addr : Nat}
    {calls : MapCalls} {pages : List Nat}
    (hmap : mapUserPages memory size calls = ⟨.ok, addr, some pages, mapped⟩) :
    (unmapUserPages mapped pages addr size).pins = memory.pins ∧
      (addr, divRoundUp size pageSize * pageSize) ∈
          (unmapUserPages mapped pages addr size).allocated ∧
      ∀ i, i < divRoundUp size pageSize → divRoundUp size pageSize ≤ i * pageSize →
        (unmapUserPages mapped pages addr size).mapped (addr / pageSize + i) = pages[i]? := by
  obtain ⟨hvirtual, hlength, hmapped⟩ := mapUserPages_ok hmap
  have haligned := calls.aligned addr hvirtual
  refine ⟨?_, ?_, fun i hi hreach => ?_⟩
  -- As in `mapUserPages_exits`, the fields of `mapped` are read before it is replaced.
  · rw [unmapUserPages, ← hlength]
    refine pins_uvmPutUserPagesDirty ?_
    show mapped.pins = _
    rw [hmapped, pins_mapPages]
    rfl
  · show (addr, _) ∈ mapped.allocated
    rw [hmapped, allocated_mapPages]
    exact List.mem_cons_self _ _
  · have hbeyond : ¬ (addr < (addr / pageSize + i + 1) * pageSize ∧
        (addr / pageSize + i) * pageSize < addr + divRoundUp size pageSize) := by
      unfold pageSize at haligned hreach ⊢
      omega
    simp only [unmapUserPages, uvmPutUserPagesDirty, KernelMemory.unmap, if_neg hbeyond]
    rw [hmapped, mapped_mapPages haligned, if_pos (by omega), Nat.add_sub_cancel_left,
      List.getD_eq_getElem?_getD, List.getElem?_eq_getElem (by omega)]
    rfl

/-- A kernel with nothing mapped, allocated or pinned. -/
def noKernelMemory : KernelMemory := ⟨fun _ => none, [], fun _ => 0⟩

/-- A two-page buffer: its user pages 100 and 101 pin, and `allocate` puts the kernel range
at page 16. -/
def twoPageMapCalls : MapCalls where
  rangeInvalid := false
  pagesAllocated := true
  vmasStatus := .ok
  pinned := .ok [100, 101]
  virtual := some (16 * pageSize)
  aligned _ hstart := by cases hstart; rfl

/-- `map_user_pages` of the two-page buffer. -/
def twoPageMapped : MapResult := mapUserPages noKernelMemory (2 * pageSize) twoPageMapCalls

/-- `map_user_pages` of a two-page buffer succeeds at page 16; `unmap_user_pages` with the
same size unpins both pages, but leaves page 17 mapped to the second user page and the
range allocated. -/
theorem unmapUserPages_two_pages :
    twoPageMapped.status = .ok ∧ twoPageMapped.addr = 16 * pageSize ∧
      twoPageMapped.pages = some [100, 101] ∧
      (unmapUserPages twoPageMapped.memory [100, 101] twoPageMapped.addr (2 * pageSize)).pins =
        noKernelMemory.pins ∧
      (unmapUserPages twoPageMapped.memory [100, 101] twoPageMapped.addr (2 * pageSize)).mapped 17 =
        some 101 ∧
      (16 * pageSize, 2 * pageSize) ∈
        (unmapUserPages twoPageMapped.memory [100, 101] twoPageMapped.addr
            (2 * pageSize)).allocated := by
  obtain ⟨hpins, hallocated, hpages⟩ := unmapUserPages_after_map
    (show twoPageMapped = ⟨.ok, 16 * pageSize, some [100, 101], twoPageMapped.memory⟩ from rfl)
  exact ⟨rfl, rfl, rfl, hpins, hpages 1 (by decide) (by decide), hallocated⟩

/-! ## Runs of attaches -/

/-- `MAX_PAGE_COUNT`, the bound the file declares on how often the kernel may retain one user
page. Nothing in the file reads it. -/
def maxPageCount : Nat := 1 <<< 20

/-- Modelled from the spec: the `map_user_pages` calls of successive attaches, each of `size`
bytes with what the calls it makes return, on the kernel memory the one before left. Their
results, in order. -/
def mapUserPagesRun : KernelMemory → List (Nat × MapCalls) → List MapResult
  | _, [] => []
  | memory, (size, calls) :: rest =>
      mapUserPages memory size calls :: mapUserPagesRun (mapUserPages memory size calls).memory rest

/-- A one-page `map_user_pages` whose calls all succeed and pin `page` returns `NV_OK` and
pins the page once more, whatever its pin count was. -/
theorem mapUserPages_one_page (memory : KernelMemory) {calls : MapCalls} {page virtual : Nat}
    (hrange : calls.rangeInvalid = false) (hallocated : calls.pagesAllocated = true)
    (hvmas : calls.vmasStatus = .ok) (hpinned : calls.pinned = .ok [page])
    (hvirtual : calls.virtual = some virtual) (hzero : virtual ≠ 0) :
    (mapUserPages memory pageSize calls).status = .ok ∧
      (mapUserPages memory pageSize calls).memory.pins page = memory.pins page + 1 := by
  have hone : divRoundUp pageSize pageSize = 1 := rfl
  simp [mapUserPages, hrange, hallocated, hvmas, hpinned, hvirtual, hzero, hone,
    KernelMemory.pin, KernelMemory.allocate]

/-- Attaches that map the same one-page buffer, whose calls all succeed: call `i` of the run
returns `NV_OK` and leaves the page pinned `i + 1` more times than before the run, with no
bound. -/
theorem mapUserPagesRun_pins_grow (memory : KernelMemory) {calls : MapCalls} {page virtual : Nat}
    (hrange : calls.rangeInvalid = false) (hallocated : calls.pagesAllocated = true)
    (hvmas : calls.vmasStatus = .ok) (hpinned : calls.pinned = .ok [page])
    (hvirtual : calls.virtual = some virtual) (hzero : virtual ≠ 0) {n i : Nat} (hi : i < n) :
    (mapUserPagesRun memory (List.replicate n (pageSize, calls)))[i]?.map
        (fun result => (result.status, result.memory.pins page)) =
      some (.ok, memory.pins page + (i + 1)) := by
  induction n generalizing memory i with
  | zero => omega
  | succ n ih =>
      obtain ⟨hstatus, hpins⟩ :=
        mapUserPages_one_page memory hrange hallocated hvmas hpinned hvirtual hzero
      rw [List.replicate_succ, mapUserPagesRun]
      cases i with
      | zero => simp [hstatus, hpins]
      | succ i =>
          rw [List.getElem?_cons_succ, ih _ (by omega), hpins]
          simp only [Nat.add_assoc, Nat.add_comm 1]

/-- The one-page buffer at user page 100, mapped at kernel page 16. -/
def onePageMapCalls : MapCalls where
  rangeInvalid := false
  pagesAllocated := true
  vmasStatus := .ok
  pinned := .ok [100]
  virtual := some (16 * pageSize)
  aligned _ hstart := by cases hstart; rfl

/-- `MAX_PAGE_COUNT + 1` attaches of the same one-page buffer: the last `map_user_pages`
returns `NV_OK` and leaves the page pinned more than `MAX_PAGE_COUNT` times. -/
theorem map_user_pages_past_max_page_count :
    ∃ pins, (mapUserPagesRun noKernelMemory
        (List.replicate (maxPageCount + 1) (pageSize, onePageMapCalls)))[maxPageCount]?.map
          (fun result => (result.status, result.memory.pins 100)) = some (.ok, pins) ∧
      maxPageCount < pins :=
  ⟨_, mapUserPagesRun_pins_grow noKernelMemory rfl rfl rfl rfl rfl (by decide)
    (Nat.lt_succ_self maxPageCount), by omega⟩

end UvmTools
