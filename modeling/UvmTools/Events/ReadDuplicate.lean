import UvmTools.Events.Fault
import UvmTools.Tracker.UserPages

/-!
# The processors of a read-duplicate event

For each page it reports, `uvm_tools_record_read_duplicate` clears the 64-bit field
`processors` and sets in it, for each processor the page is resident on, the value of
`1 << uvm_id_value(id)`. That shift is of the `int` `1`. Below id 31 it gives bit `id`. At
31 it gives the sign bit, and the conversion to `NvU64` for the `|=` copies that bit into
bits 32 to 63. From 32 on the shift is undefined. So the field is the set of resident
processors only when none of them has an id of 31 or more.

`uvm_tools_record_read_duplicate_invalidate` has no such field. Past the tests of
`tools.enabled` and of its event type, it fills one entry with the destination processor,
`PAGE_SIZE` and one timestamp, and records it once per page with the page's address, after
asserting that the page is read-duplicated. Over a consistent registry the tests skip only
collectors nobody listens to, so the call fails exactly when a listened-to collector is given
a page that is not read-duplicated
(`Registry.Consistent.uvmToolsRecordReadDuplicateInvalidate_eq`).
-/

namespace UvmTools

/-- `1 << n` on the `int` `1`, as GCC computes it, converted to the `NvU64` of the `|=`: the
32-bit shift, sign-extended. `none` for a count of 32 or more, where the shift is
undefined. -/
def intOneShiftLeft (n : Nat) : Option NvU64 :=
  if n < 32 then some (((1 : BitVec 32) <<< n).signExtend 64) else none

/-- A defined shift sets bit `n`, and at `n = 31` every bit above it too. -/
theorem getLsbD_intOneShiftLeft {n : Nat} (hn : n < 32) (i : Nat) :
    (((1 : BitVec 32) <<< n).signExtend 64).getLsbD i = true ↔
      i = n ∨ 31 = n ∧ 31 < i ∧ i < 64 := by
  simp only [BitVec.getLsbD_signExtend, BitVec.getLsbD_shiftLeft, BitVec.msb_eq_getLsbD_last]
  by_cases hi : i < 32 <;>
    simp only [hi, if_true, if_false, BitVec.ofNat_eq_ofNat, BitVec.getLsbD_one,
      decide_eq_true_eq, true_and, Bool.and_eq_true, Bool.not_eq_true',
      decide_eq_false_iff_not] <;>
    omega

/-- The step of the loop: `processors |= (1 << id)`. -/
def orIntOneShiftLeft (processors : NvU64) (id : Nat) : Option NvU64 :=
  (processors ||| ·) <$> intOneShiftLeft id

/-- The `processors` field of one page: from 0, `processors |= (1 << uvm_id_value(id))` for
each id of `resident_processors`, in increasing order, as `for_each_id_in_mask` walks the mask
of `UVM_ID_MAX_PROCESSORS` bits. `none` once a shift is undefined. -/
def readDuplicateProcessors (maxProcessors : Nat) (residentProcessors : Nat → Bool) :
    Option NvU64 :=
  ((List.range maxProcessors).filter residentProcessors).foldlM orIntOneShiftLeft 0

/-- The loop reaches an undefined shift exactly when it walks an id of 32 or more. -/
theorem foldlM_orIntOneShiftLeft_eq_none_iff (ids : List Nat) (processors : NvU64) :
    ids.foldlM orIntOneShiftLeft processors = none ↔ ∃ id ∈ ids, 32 ≤ id := by
  induction ids generalizing processors with
  | nil => simp
  | cons id ids ih =>
      rw [List.foldlM_cons]
      by_cases hid : id < 32
      · simp only [orIntOneShiftLeft, intOneShiftLeft, if_pos hid, Option.map_eq_map,
          Option.map_some', Option.bind_eq_bind, Option.some_bind, ih, List.mem_cons,
          exists_eq_or_imp, show ¬32 ≤ id by omega, false_or]
      · simp only [orIntOneShiftLeft, intOneShiftLeft, if_neg hid, Option.map_eq_map,
          Option.map_none', Option.bind_eq_bind, Option.none_bind, true_iff]
        exact ⟨id, List.mem_cons_self _ _, by omega⟩

/-- When every shift is defined, the loop sets the bit of each id it walks, and bits 31 to 63
if it walks 31. -/
theorem getLsbD_foldlM_orIntOneShiftLeft {ids : List Nat} {processors result : NvU64}
    (h : ids.foldlM orIntOneShiftLeft processors = some result) (i : Nat) :
    result.getLsbD i = true ↔
      processors.getLsbD i = true ∨ i ∈ ids ∨ 31 ∈ ids ∧ 31 < i ∧ i < 64 := by
  induction ids generalizing processors with
  | nil =>
      cases h
      simp
  | cons id ids ih =>
      rw [List.foldlM_cons] at h
      by_cases hid : id < 32
      · simp only [orIntOneShiftLeft, intOneShiftLeft, if_pos hid, Option.map_eq_map,
          Option.map_some', Option.bind_eq_bind, Option.some_bind] at h
        rw [ih h, BitVec.getLsbD_or, Bool.or_eq_true, getLsbD_intOneShiftLeft hid,
          List.mem_cons, List.mem_cons, or_and_right]
        simp only [or_assoc, or_comm, or_left_comm]
      · simp [orIntOneShiftLeft, intOneShiftLeft, hid] at h

/-- Every resident set of ids below `UVM_ID_MAX_PROCESSORS`: the field is undefined exactly
when an id of 32 or more is resident, and otherwise has the bit of each resident id set and
no other bit, except that a resident id 31 sets bits 32 to 63 as well. -/
theorem readDuplicateProcessors_bits (maxProcessors : Nat) (residentProcessors : Nat → Bool) :
    (readDuplicateProcessors maxProcessors residentProcessors = none ↔
      ∃ id, 32 ≤ id ∧ id < maxProcessors ∧ residentProcessors id = true) ∧
    ∀ processors, readDuplicateProcessors maxProcessors residentProcessors = some processors →
      ∀ i, processors.getLsbD i = true ↔
        (i < maxProcessors ∧ residentProcessors i = true) ∨
          (31 < maxProcessors ∧ residentProcessors 31 = true ∧ 31 < i ∧ i < 64) := by
  refine ⟨?_, fun processors h i => ?_⟩
  · rw [readDuplicateProcessors, foldlM_orIntOneShiftLeft_eq_none_iff]
    simp only [List.mem_filter, List.mem_range]
    constructor
    · rintro ⟨id, ⟨hlt, hres⟩, hge⟩
      exact ⟨id, hge, hlt, hres⟩
    · rintro ⟨id, hge, hlt, hres⟩
      exact ⟨id, ⟨hlt, hres⟩, hge⟩
  · rw [getLsbD_foldlM_orIntOneShiftLeft h, List.mem_filter, List.mem_filter, List.mem_range,
      List.mem_range]
    simp only [BitVec.ofNat_eq_ofNat, BitVec.getLsbD_zero, Bool.false_eq_true, false_or,
      and_assoc]

/-- The `address` and `processors` of the `UvmEventReadDuplicateInfo` recorded for a page. -/
structure ReadDuplicateInfo where
  address : NvU64
  processors : NvU64
  deriving DecidableEq, Repr

/-- The events `uvm_tools_record_read_duplicate` records while `UvmEventTypeReadDuplicate` is
enabled: for each page of `page_mask` in `region`, in order, its address
`uvm_va_block_cpu_page_address` and the `processors` of the processors it is resident on.
One entry serves every page, but its `processors` is cleared before each. `none` once a shift
is undefined. -/
def uvmToolsRecordReadDuplicate (maxProcessors : Nat) (pages : List Nat)
    (cpuPageAddress : Nat → NvU64) (residentProcessors : Nat → Nat → Bool) :
    Option (List ReadDuplicateInfo) :=
  pages.mapM fun page =>
    ReadDuplicateInfo.mk (cpuPageAddress page) <$>
      readDuplicateProcessors maxProcessors (residentProcessors page)

/-- Every page reported and every resident set: the recording reaches an undefined shift
exactly when a page has a resident id of 32 or more. Otherwise the event of each page carries
its address and has the bit of each of its resident ids set and no other bit, except that a
resident id 31 sets bits 32 to 63 as well. -/
theorem uvmToolsRecordReadDuplicate_processors (maxProcessors : Nat) (pages : List Nat)
    (cpuPageAddress : Nat → NvU64) (residentProcessors : Nat → Nat → Bool) :
    (uvmToolsRecordReadDuplicate maxProcessors pages cpuPageAddress residentProcessors = none ↔
      ∃ page ∈ pages, ∃ id, 32 ≤ id ∧ id < maxProcessors ∧ residentProcessors page id = true) ∧
    ∀ infos, uvmToolsRecordReadDuplicate maxProcessors pages cpuPageAddress residentProcessors =
        some infos →
      List.Forall₂ (fun page info => info.address = cpuPageAddress page ∧
        ∀ i, info.processors.getLsbD i = true ↔
          (i < maxProcessors ∧ residentProcessors page i = true) ∨
            (31 < maxProcessors ∧ residentProcessors page 31 = true ∧ 31 < i ∧ i < 64))
        pages infos := by
  unfold uvmToolsRecordReadDuplicate
  induction pages with
  | nil =>
      refine ⟨⟨fun h => (by rw [List.mapM_nil] at h; cases h), fun ⟨_, hmem, _⟩ => by cases hmem⟩,
        fun infos h => ?_⟩
      rw [List.mapM_nil] at h
      cases h
      exact .nil
  | cons page pages ih =>
      have hpage := readDuplicateProcessors_bits maxProcessors (residentProcessors page)
      rw [List.mapM_cons]
      cases hprocessors : readDuplicateProcessors maxProcessors (residentProcessors page) with
      | none =>
          refine ⟨⟨fun _ => ⟨page, List.mem_cons_self _ _, hpage.1.mp hprocessors⟩,
            fun _ => rfl⟩, fun infos h => ?_⟩
          cases h
      | some processors =>
          have hdefined : ¬∃ id, 32 ≤ id ∧ id < maxProcessors ∧ residentProcessors page id = true :=
            fun hid => by rw [hpage.1.mpr hid] at hprocessors; cases hprocessors
          cases hrest : pages.mapM (fun page =>
              ReadDuplicateInfo.mk (cpuPageAddress page) <$>
                readDuplicateProcessors maxProcessors (residentProcessors page)) with
          | none =>
              refine ⟨⟨fun _ => ?_, fun _ => rfl⟩, fun infos h => by cases h⟩
              obtain ⟨page', hmem, hid⟩ := ih.1.mp hrest
              exact ⟨page', List.mem_cons_of_mem _ hmem, hid⟩
          | some rest =>
              refine ⟨⟨fun h => (by cases h), fun ⟨page', hmem, hid⟩ => ?_⟩, fun infos h => ?_⟩
              · rcases List.mem_cons.mp hmem with rfl | hmem
                · exact absurd hid hdefined
                · rw [ih.1.mpr ⟨page', hmem, hid⟩] at hrest
                  cases hrest
              · cases h
                exact .cons ⟨rfl, hpage.2 processors hprocessors⟩ (ih.2 rest hrest)

/-- A page resident on processor 31 alone, with `UVM_ID_MAX_PROCESSORS` above 31, is reported
with bit 32 of `processors` set. -/
theorem read_duplicate_of_processor_31 :
    ∃ infos, uvmToolsRecordReadDuplicate 33 [0] (fun _ => 0) (fun _ id => id == 31) =
      some infos ∧ ∃ info ∈ infos, info.processors.getLsbD 32 = true := by
  obtain ⟨-, hinfos⟩ :=
    uvmToolsRecordReadDuplicate_processors 33 [0] (fun _ => 0) (fun _ id => id == 31)
  refine ⟨_, rfl, ?_⟩
  obtain ⟨⟨-, hbits⟩, -⟩ := List.forall₂_cons.mp (hinfos _ rfl)
  exact ⟨_, List.mem_singleton_self _, (hbits 32).mpr (.inr ⟨by decide, rfl, by decide, by decide⟩)⟩

/-- `UvmEventReadDuplicateInvalidateInfo`, the member of the entry
`uvm_tools_record_read_duplicate_invalidate` records: after the `memset`, the event type,
`uvm_id_value(dst)`, `PAGE_SIZE`, `NV_GETTIME()` and the page's address. -/
structure UvmEventReadDuplicateInvalidateInfo where
  eventType : Nat
  residentIndex : Nat
  size : NvU64
  timeStamp : NvU64
  address : NvU64
  deriving DecidableEq, Repr, Inhabited

instance : UvmEventEntry UvmEventReadDuplicateInvalidateInfo :=
  ⟨UvmEventReadDuplicateInvalidateInfo.eventType⟩

/-- The entry as recorded for a page at `address`: one entry serves every page, and only its
`address` changes between them. -/
def readDuplicateInvalidateEntry (readDuplicateInvalidate dst : Nat) (now address : NvU64) :
    UvmEventReadDuplicateInvalidateInfo :=
  { eventType := readDuplicateInvalidate
    residentIndex := dst
    size := BitVec.ofNat 64 pageSize
    timeStamp := now
    address := address }

/-- The loop of `uvm_tools_record_read_duplicate_invalidate` over the pages of `page_mask` in
`region`: for each, the assertion that it is in `read_duplicated_pages`, then
`uvm_tools_record_event` of the entry with its address `uvm_va_block_cpu_page_address`. -/
def recordEachReadDuplicateInvalidate {Entry : Type} [UvmEventEntry Entry] (ids : ToolsIds)
    (state : Registry) (v : Nat) (entry : NvU64 → Entry) (pages : List Nat)
    (cpuPageAddress : Nat → NvU64) (readDuplicated : Nat → Bool)
    (queues : Nat → UvmToolsQueue Entry) : Except Fault (Nat → UvmToolsQueue Entry) :=
  pages.foldlM (fun queues page =>
    if readDuplicated page then state.uvmToolsRecordEvent ids v (entry (cpuPageAddress page)) queues
    else .error .assertion) queues

namespace Registry

/-- `uvm_tools_record_read_duplicate_invalidate` on collector `v`, with `readDuplicateInvalidate`
the value of `UvmEventTypeReadDuplicateInvalidate` (the header is not part of the file):
nothing while `tools.enabled` is clear or the event type is not enabled, and otherwise the
loop over the pages with the entry for `dst` and `now`. -/
def uvmToolsRecordReadDuplicateInvalidate (ids : ToolsIds) (state : Registry)
    (v readDuplicateInvalidate dst : Nat) (now : NvU64) (pages : List Nat)
    (cpuPageAddress : Nat → NvU64) (readDuplicated : Nat → Bool)
    (queues : Nat → UvmToolsQueue UvmEventReadDuplicateInvalidateInfo) :
    Except Fault (Nat → UvmToolsQueue UvmEventReadDuplicateInvalidateInfo) :=
  if !(state.vaSpaces v).enabled then .ok queues
  else if (state.vaSpaces v).toolsIsEventEnabled readDuplicateInvalidate then
    recordEachReadDuplicateInvalidate ids state v
      (readDuplicateInvalidateEntry readDuplicateInvalidate dst now) pages cpuPageAddress
      readDuplicated queues
  else .ok queues

variable {ids : ToolsIds} {state : Registry}

/-- The loop passes its assertions exactly when every page is read-duplicated; the
recordings between them never fail on a type below `UvmEventNumTypesAll`, so it is then the
recording of the pages' entries, in page order. -/
theorem recordEachReadDuplicateInvalidate_eq {Entry : Type} [UvmEventEntry Entry] (v : Nat)
    (entry : NvU64 → Entry) (hentry : ∀ address, UvmEventEntry.eventType (entry address) <
      ids.eventNumTypesAll) (cpuPageAddress : Nat → NvU64) (readDuplicated : Nat → Bool) :
    ∀ (pages : List Nat) (queues : Nat → UvmToolsQueue Entry),
      recordEachReadDuplicateInvalidate ids state v entry pages cpuPageAddress readDuplicated
          queues =
        if pages.all readDuplicated then
          (pages.map fun page => entry (cpuPageAddress page)).foldlM
            (fun queues entry => state.uvmToolsRecordEvent ids v entry queues) queues
        else .error .assertion
  | [], _ => rfl
  | page :: pages, queues => by
      have hrest := recordEachReadDuplicateInvalidate_eq v entry hentry cpuPageAddress
        readDuplicated pages
      unfold recordEachReadDuplicateInvalidate at hrest ⊢
      rw [List.foldlM_cons, List.map_cons, List.foldlM_cons, List.all_cons]
      cases hpage : readDuplicated page
      · rfl
      · rw [if_pos rfl, uvmToolsRecordEvent, if_pos (hentry _)]
        exact hrest _

/-- Over a consistent registry, `uvm_tools_record_read_duplicate_invalidate` fails exactly when
its collector listens to the event type and some page it reports is not in
`read_duplicated_pages`. Otherwise it enqueues one entry per page, in page order, on the queue
of each queue tracker of the collector subscribed to the type, and changes no other queue; the
entries carry the type, `uvm_id_value(dst)`, `PAGE_SIZE`, the one timestamp and their page's
address. -/
theorem Consistent.uvmToolsRecordReadDuplicateInvalidate_eq (hc : state.Consistent ids)
    (v e dst : Nat) (now : NvU64) (pages : List Nat) (cpuPageAddress : Nat → NvU64)
    (readDuplicated : Nat → Bool)
    (queues : Nat → UvmToolsQueue UvmEventReadDuplicateInvalidateInfo) :
    state.uvmToolsRecordReadDuplicateInvalidate ids v e dst now pages cpuPageAddress
        readDuplicated queues =
      if (state.vaSpaces v).toolsIsEventEnabled e = true ∧ pages.all readDuplicated = false then
        .error .assertion
      else .ok fun t => if SubscribedQueue ids state v e t then
        (pages.map fun page => readDuplicateInvalidateEntry e dst now (cpuPageAddress page)).foldl
          (fun queue entry => (enqueueEvent entry queue).1) (queues t)
        else queues t := by
  unfold uvmToolsRecordReadDuplicateInvalidate
  by_cases henabled : (state.vaSpaces v).toolsIsEventEnabled e = true
  · have he := hc.lt_eventNumTypesAll henabled
    have hon : (state.vaSpaces v).enabled = true := by
      rw [hc.enabled, toolsAreEnabled_of_queues_ne_nil he (by
        simpa [ToolsVaSpace.toolsIsEventEnabled] using henabled)]
    rw [if_neg (by simp [hon]), if_pos henabled,
      recordEachReadDuplicateInvalidate_eq v (readDuplicateInvalidateEntry e dst now) (fun _ => he)]
    cases hall : pages.all readDuplicated
    · exact (if_neg Bool.false_ne_true).trans (if_pos ⟨henabled, rfl⟩).symm
    · rw [if_pos rfl, if_neg fun h => absurd h.2 (by decide)]
      exact hc.foldlM_uvmToolsRecordEvent_eq v e he _
        (fun _ hmem => by obtain ⟨_, -, rfl⟩ := List.mem_map.mp hmem; rfl) queues
  · have hsame : (fun t => if SubscribedQueue ids state v e t then
        (pages.map fun page => readDuplicateInvalidateEntry e dst now (cpuPageAddress page)).foldl
          (fun queue entry => (enqueueEvent entry queue).1) (queues t) else queues t) = queues :=
      funext fun t => if_neg (hc.not_subscribed_of_disabled henabled t)
    rw [hsame]
    simp [henabled]

end Registry

/-- Two read-duplicated pages invalidated on the collector of a queue tracker subscribed to
type 5, through a fresh ring of four slots: the ring then holds their two entries, in page
order, each with its page's address. -/
theorem uvmToolsRecordReadDuplicateInvalidate_two_pages :
    (queueSubscribed sampleIds (BitVec.twoPow 64 5)).uvmToolsRecordReadDuplicateInvalidate sampleIds
        0 5 1 7 [1, 2] (fun page => BitVec.ofNat 64 (0x1000 * page)) (fun _ => true)
        (fun _ => freshQueue 4 1) =
      (if ((queueSubscribed sampleIds (BitVec.twoPow 64 5)).vaSpaces 0).toolsIsEventEnabled 5 = true ∧
          [1, 2].all (fun _ => true) = false then .error .assertion
      else .ok fun t => if Registry.SubscribedQueue sampleIds
          (queueSubscribed sampleIds (BitVec.twoPow 64 5)) 0 5 t then
        ([1, 2].map fun page => readDuplicateInvalidateEntry 5 1 7 (BitVec.ofNat 64 (0x1000 * page))).foldl
          (fun queue entry => (enqueueEvent entry queue).1) (freshQueue 4 1)
        else freshQueue 4 1) ∧
    ((queueSubscribed sampleIds (BitVec.twoPow 64 5)).uvmToolsRecordReadDuplicateInvalidate
        sampleIds 0 5 1 7 [1, 2] (fun page => BitVec.ofNat 64 (0x1000 * page)) (fun _ => true)
        (fun _ => freshQueue 4 1)).map (fun queues => (queues 0).window.map
          UvmEventReadDuplicateInvalidateInfo.address) = .ok [0x1000, 0x2000] :=
  ⟨Registry.Consistent.uvmToolsRecordReadDuplicateInvalidate_eq
    (reachable_consistent (queueSubscribed_run _ _)) _ _ _ _ _ _ _ _, rfl⟩

end UvmTools
