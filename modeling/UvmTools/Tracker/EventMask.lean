import UvmTools.Basic

/-!
# The event mask of an attach

`mask_contains_invalid_events` checks the 64-bit mask a queue tracker asks for against the
event types of `uvm_types.h`: the regular ones from `1` to `UvmEventNumTypes - 1`, and the
test events `UvmEventTestTypesFirst` to `UvmEventTestTypesLast` only when the module parameter
`uvm_enable_builtin_tests` is set. Bit `0`, `UvmEventTypeInvalid`, is never valid. The check
is written with the kernel's bitmap helpers on bitmaps of `EVENT_FLAGS_BITS` bits; over every
mask it accepts exactly those whose bits all name valid event types.
-/

namespace UvmTools

/-- `bitmap_set(map, start, count)` on a bitmap of `EVENT_FLAGS_BITS` bits: bits `start` to
`start + count - 1` are set. -/
def bitmapSet (map : NvU64) (start count : Nat) : NvU64 :=
  map ||| BitVec.ofNat 64 (2 ^ count - 1) <<< start

theorem getLsbD_bitmapSet (map : NvU64) (start count i : Nat) :
    (bitmapSet map start count).getLsbD i = true ↔
      map.getLsbD i = true ∨ i < 64 ∧ start ≤ i ∧ i < start + count := by
  simp only [bitmapSet, BitVec.getLsbD_or, BitVec.getLsbD_shiftLeft, BitVec.getLsbD_ofNat,
    Nat.testBit_two_pow_sub_one, Bool.or_eq_true, Bool.and_eq_true, Bool.not_eq_true',
    decide_eq_true_eq, decide_eq_false_iff_not]
  exact or_congr_right (by omega)

/-- The event-type constants of `uvm_types.h` that `mask_contains_invalid_events` reads, in
the order its `BUILD_BUG_ON`s check: the test events follow the regular ones and have a bit in
an `NvU64`. -/
structure EventTypeRanges where
  /-- `UvmEventNumTypes`. -/
  numTypes : Nat
  /-- `UvmEventTestTypesFirst`. -/
  testTypesFirst : Nat
  /-- `UvmEventTestTypesLast`. -/
  testTypesLast : Nat
  numTypes_le_testTypesFirst : numTypes ≤ testTypesFirst
  testTypesFirst_le_testTypesLast : testTypesFirst ≤ testTypesLast
  testTypesLast_lt : testTypesLast < 64

/-- `valid_events_mask` of `mask_contains_invalid_events`: the regular event types from `1`,
and `tests_events_mask` too when `uvm_enable_builtin_tests` is set. -/
def validEventsMask (ranges : EventTypeRanges) (uvmEnableBuiltinTests : Bool) : NvU64 :=
  let testsEventsMask :=
    bitmapSet 0 ranges.testTypesFirst (ranges.testTypesLast - ranges.testTypesFirst + 1)
  let validEventsMask := bitmapSet 0 1 (ranges.numTypes - 1)
  if uvmEnableBuiltinTests then validEventsMask ||| testsEventsMask else validEventsMask

/-- `mask_contains_invalid_events`: whether `bitmap_andnot` of the mask and
`valid_events_mask` leaves a bit set. The info message it prints for test events asked for
without `uvm_enable_builtin_tests` changes nothing. -/
def maskContainsInvalidEvents (ranges : EventTypeRanges) (uvmEnableBuiltinTests : Bool)
    (eventFlags : NvU64) : Bool :=
  (eventFlags &&& ~~~validEventsMask ranges uvmEnableBuiltinTests) != 0

/-- The valid event types: `1` to `UvmEventNumTypes - 1`, and the test events when
`uvm_enable_builtin_tests` is set. -/
theorem getLsbD_validEventsMask (ranges : EventTypeRanges) (uvmEnableBuiltinTests : Bool)
    {i : Nat} (hi : i < 64) :
    (validEventsMask ranges uvmEnableBuiltinTests).getLsbD i = true ↔
      (1 ≤ i ∧ i < ranges.numTypes) ∨
        (uvmEnableBuiltinTests = true ∧ ranges.testTypesFirst ≤ i ∧ i ≤ ranges.testTypesLast) := by
  have hlast := ranges.testTypesFirst_le_testTypesLast
  cases uvmEnableBuiltinTests <;>
    simp only [validEventsMask, BitVec.getLsbD_or, Bool.or_eq_true, getLsbD_bitmapSet,
      BitVec.ofNat_eq_ofNat, BitVec.getLsbD_zero, Bool.false_eq_true, if_true, if_false,
      false_or, true_and, false_and, or_false] <;>
    omega

/-- `mask_contains_invalid_events` accepts a mask exactly when every bit it sets is a regular
event type other than `UvmEventTypeInvalid`, or a test event with `uvm_enable_builtin_tests`
set. -/
theorem maskContainsInvalidEvents_eq_false_iff (ranges : EventTypeRanges)
    (uvmEnableBuiltinTests : Bool) (eventFlags : NvU64) :
    maskContainsInvalidEvents ranges uvmEnableBuiltinTests eventFlags = false ↔
      ∀ i, eventFlags.getLsbD i = true → (1 ≤ i ∧ i < ranges.numTypes) ∨
        (uvmEnableBuiltinTests = true ∧ ranges.testTypesFirst ≤ i ∧ i ≤ ranges.testTypesLast) := by
  rw [maskContainsInvalidEvents, bne_eq_false_iff_eq]
  constructor
  · intro hzero i hi
    have hword : i < 64 :=
      Nat.lt_of_not_le fun hge => by rw [BitVec.getLsbD_ge _ _ hge] at hi; cases hi
    have hbit := congrArg (fun x : NvU64 => x.getLsbD i) hzero
    simp only [BitVec.getLsbD_and, BitVec.getLsbD_not, hi, hword, decide_True, Bool.true_and,
      BitVec.ofNat_eq_ofNat, BitVec.getLsbD_zero, Bool.not_eq_false'] at hbit
    exact (getLsbD_validEventsMask ranges uvmEnableBuiltinTests hword).mp hbit
  · intro hvalid
    refine BitVec.eq_of_getLsbD_eq fun i => ?_
    cases hflag : eventFlags.getLsbD i
    · simp [BitVec.getLsbD_and, hflag]
    · rw [BitVec.getLsbD_and, BitVec.getLsbD_not, hflag,
        (getLsbD_validEventsMask ranges uvmEnableBuiltinTests i.isLt).mpr (hvalid i hflag)]
      simp

/-- With four regular event types and the test events `60` to `63`: `UvmEventTypeInvalid` is
refused, a test event only with `uvm_enable_builtin_tests`. -/
example : maskContainsInvalidEvents ⟨4, 60, 63, by decide, by decide, by decide⟩ false 1 = true ∧
    maskContainsInvalidEvents ⟨4, 60, 63, by decide, by decide, by decide⟩ false (1 <<< 60) = true ∧
    maskContainsInvalidEvents ⟨4, 60, 63, by decide, by decide, by decide⟩ true (1 <<< 60 ||| 2) =
      false := by decide

end UvmTools
