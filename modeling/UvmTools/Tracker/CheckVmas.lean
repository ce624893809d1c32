import UvmTools.Basic
import Mathlib.Data.List.Pairwise

/-!
# `check_vmas`

Before it pins a buffer, `map_user_pages` has `check_vmas` walk the process's VMAs over the
buffer's range: from `start_va`, it looks up the VMA holding the current address, refuses a
hole or an nvidia-uvm file mapping, and goes on from the VMA's end until that reaches
`start_va + size`. The loop is given with explicit fuel.

For every layout of disjoint VMAs and every `vmap_from_vaddr` that returns the VMA holding
its argument, the walk ends within `size` iterations, because each VMA ends past the address
it was looked up at. It accepts the range exactly when every address in it lies in a VMA that
is not an nvidia-uvm mapping.
-/

namespace UvmTools

/-- A VMA as `check_vmas` reads it: its range `node.r`, and whether its file is an nvidia-uvm
one (`uvm_file_is_nvidia_uvm(vma->fd)`). -/
structure Vma where
  rangeStart : NvU64
  rangeEnd : NvU64
  isNvidiaUvm : Bool
  deriving DecidableEq, Repr

/-- The VMA's half-open range holds `addr`. -/
def Vma.Contains (vma : Vma) (addr : NvU64) : Prop :=
  vma.rangeStart ≤ addr ∧ addr < vma.rangeEnd

instance (vma : Vma) (addr : NvU64) : Decidable (vma.Contains addr) :=
  inferInstanceAs (Decidable (_ ∧ _))

/-- The loop of `check_vmas` at `addr`, with `fuel` iterations left (`none` once they run
out): the VMA holding `addr` must exist, start at or below it and not be an nvidia-uvm
mapping; the walk goes on from its end while that is below `region_end`. -/
def checkVmasLoop (vmapFromVaddr : NvU64 → Option Vma) (regionEnd : NvU64) :
    Nat → NvU64 → Option NvStatus
  | 0, _ => none
  | fuel + 1, addr =>
      match vmapFromVaddr addr with
      | none => some .errInvalidArgument
      | some vma =>
          if ¬addr ≥ vma.rangeStart ∨ vma.isNvidiaUvm = true then some .errInvalidArgument
          else if vma.rangeEnd < regionEnd then
            checkVmasLoop vmapFromVaddr regionEnd fuel vma.rangeEnd
          else some .ok

/-- `check_vmas(p, start_va, size)`, given `fuel` iterations. -/
def checkVmas (vmapFromVaddr : NvU64 → Option Vma) (startVa size : NvU64) (fuel : Nat) :
    Option NvStatus :=
  checkVmasLoop vmapFromVaddr (startVa + size) fuel startVa

/-- Modelled from the spec: a process's VMAs, disjoint half-open ranges. -/
structure VmaLayout where
  vmas : List Vma
  disjoint : vmas.Pairwise fun vma vma' =>
    vma.rangeEnd ≤ vma'.rangeStart ∨ vma'.rangeEnd ≤ vma.rangeStart

/-- Modelled from the spec: `vmap_from_vaddr` returns the VMA of the layout that holds its
argument, or `INVALID_ADDRESS` (`none`) when no VMA does. -/
structure VmapFromVaddr (layout : VmaLayout) (vmapFromVaddr : NvU64 → Option Vma) : Prop where
  some_mem : ∀ addr vma, vmapFromVaddr addr = some vma → vma ∈ layout.vmas ∧ vma.Contains addr
  none_not_mem : ∀ addr, vmapFromVaddr addr = none → ∀ vma ∈ layout.vmas, ¬vma.Contains addr

namespace VmaLayout

variable (layout : VmaLayout)

/-- Looking the address up in the list meets the contract of `vmap_from_vaddr`. -/
theorem vmapFromVaddr_find :
    VmapFromVaddr layout fun addr => layout.vmas.find? fun vma => decide (vma.Contains addr) where
  some_mem addr vma h := ⟨List.mem_of_find?_eq_some h, by simpa using List.find?_some h⟩
  none_not_mem addr h vma hmem hcontains :=
    absurd (decide_eq_true hcontains) (by simpa using List.find?_eq_none.mp h vma hmem)

/-- At most one VMA holds an address. -/
theorem eq_of_contains {vma vma' : Vma} (hmem : vma ∈ layout.vmas) (hmem' : vma' ∈ layout.vmas)
    {addr : NvU64} (hcontains : vma.Contains addr) (hcontains' : vma'.Contains addr) :
    vma = vma' := by
  by_contra hne
  have hsymm : Symmetric fun vma vma' : Vma =>
      vma.rangeEnd ≤ vma'.rangeStart ∨ vma'.rangeEnd ≤ vma.rangeStart :=
    fun _ _ h => h.symm
  have hdisjoint := layout.disjoint.forall hsymm hmem hmem' hne
  simp only [Vma.Contains, BitVec.le_def, BitVec.lt_def] at hcontains hcontains' hdisjoint
  omega

end VmaLayout

/-- Every address from `addr` up to `region_end` lies in a VMA that is not an nvidia-uvm
mapping. -/
def CoveredFrom (layout : VmaLayout) (regionEnd addr : NvU64) : Prop :=
  ∀ addr' : NvU64, addr ≤ addr' → addr' < regionEnd →
    ∃ vma ∈ layout.vmas, vma.Contains addr' ∧ vma.isNvidiaUvm = false

section Loop

variable {layout : VmaLayout} {vmapFromVaddr : NvU64 → Option Vma}
  (hvmap : VmapFromVaddr layout vmapFromVaddr) (regionEnd : NvU64)

include hvmap in
/-- From an address below `region_end`, the loop ends within as many iterations as there are
addresses left, with `NV_OK` exactly when they are all covered, and otherwise with
`NV_ERR_INVALID_ARGUMENT`. -/
theorem checkVmasLoop_spec (fuel : Nat) (addr : NvU64) (haddr : addr < regionEnd)
    (hfuel : regionEnd.toNat - addr.toNat ≤ fuel) :
    ∃ status, checkVmasLoop vmapFromVaddr regionEnd fuel addr = some status ∧
      (status = .ok ∨ status = .errInvalidArgument) ∧
      (status = .ok ↔ CoveredFrom layout regionEnd addr) := by
  induction fuel generalizing addr with
  | zero =>
      rw [BitVec.lt_def] at haddr
      omega
  | succ fuel ih =>
      rw [checkVmasLoop]
      cases hvma : vmapFromVaddr addr with
      | none =>
          refine ⟨_, rfl, .inr rfl, by simp, fun hcovered => ?_⟩
          obtain ⟨vma, hmem, hcontains, -⟩ := hcovered addr (BitVec.le_refl addr) haddr
          exact (hvmap.none_not_mem addr hvma vma hmem hcontains).elim
      | some vma =>
          obtain ⟨hmem, hstart, hend⟩ := hvmap.some_mem addr vma hvma
          dsimp only
          by_cases huvm : vma.isNvidiaUvm = true
          · rw [if_pos (.inr huvm)]
            refine ⟨_, rfl, .inr rfl, by simp, fun hcovered => ?_⟩
            obtain ⟨vma', hmem', hcontains', hfalse⟩ := hcovered addr (BitVec.le_refl addr) haddr
            rw [layout.eq_of_contains hmem' hmem hcontains' ⟨hstart, hend⟩, huvm] at hfalse
            cases hfalse
          have hcovers : ∀ addr' : NvU64, addr ≤ addr' → addr' < vma.rangeEnd →
              ∃ vma ∈ layout.vmas, vma.Contains addr' ∧ vma.isNvidiaUvm = false :=
            fun addr' hge hlt => ⟨vma, hmem, ⟨BitVec.le_trans hstart hge, hlt⟩, by simpa using huvm⟩
          rw [if_neg (not_or.mpr ⟨not_not.mpr hstart, huvm⟩)]
          by_cases hnext : vma.rangeEnd < regionEnd
          · rw [if_pos hnext]
            rw [BitVec.lt_def] at haddr hend
            obtain ⟨status, hloop, hstatus, hiff⟩ :=
              ih vma.rangeEnd hnext (by rw [BitVec.lt_def] at hnext; omega)
            refine ⟨status, hloop, hstatus, hiff.trans ⟨fun hcovered addr' hge hlt => ?_,
              fun hcovered addr' hge hlt => hcovered addr' ?_ hlt⟩⟩
            · by_cases hbelow : addr' < vma.rangeEnd
              · exact hcovers addr' hge hbelow
              · rw [BitVec.lt_def] at hbelow
                exact hcovered addr' (by rw [BitVec.le_def]; omega) hlt
            · rw [BitVec.le_def] at hge ⊢
              omega
          · rw [if_neg hnext]
            refine ⟨_, rfl, .inl rfl, iff_of_true rfl fun addr' hge hlt => hcovers addr' hge ?_⟩
            rw [BitVec.lt_def] at hlt hnext ⊢
            omega

end Loop

/-- For every layout of disjoint VMAs, every `vmap_from_vaddr` that keeps its contract, and
every range of `size > 0` bytes that does not wrap, `check_vmas` ends within `size`
iterations, with the same status for any more fuel, and returns `NV_OK` exactly when every
address of the range lies in a VMA that is not an nvidia-uvm mapping. -/
theorem checkVmas_ok_iff_covered (layout : VmaLayout) {vmapFromVaddr : NvU64 → Option Vma}
    (hvmap : VmapFromVaddr layout vmapFromVaddr) {startVa size : NvU64} (hsize : 0 < size.toNat)
    (hwrap : startVa.toNat + size.toNat < 2 ^ 64) :
    ∃ status, (∀ fuel, size.toNat ≤ fuel →
        checkVmas vmapFromVaddr startVa size fuel = some status) ∧
      (status = .ok ↔ ∀ addr : NvU64, startVa ≤ addr → addr.toNat < startVa.toNat + size.toNat →
        ∃ vma ∈ layout.vmas, vma.Contains addr ∧ vma.isNvidiaUvm = false) := by
  have hend : (startVa + size).toNat = startVa.toNat + size.toNat := by
    rw [BitVec.toNat_add, Nat.mod_eq_of_lt hwrap]
  have hlt : startVa < startVa + size := by rw [BitVec.lt_def, hend]; omega
  obtain ⟨status, -, hstatus, hiff⟩ :=
    checkVmasLoop_spec hvmap (startVa + size) size.toNat startVa hlt (by omega)
  refine ⟨status, fun fuel hfuel => ?_, ?_⟩
  · obtain ⟨status', hloop, hstatus', hiff'⟩ :=
      checkVmasLoop_spec hvmap (startVa + size) fuel startVa hlt (by omega)
    rw [checkVmas, hloop]
    rcases hstatus with rfl | rfl <;> rcases hstatus' with rfl | rfl
    · rfl
    · cases hiff'.mpr (hiff.mp rfl)
    · cases hiff.mpr (hiff'.mp rfl)
    · rfl
  · rw [hiff, CoveredFrom]
    simp only [BitVec.lt_def, hend]

/-- One VMA, `[0x1000, 0x3000)`, of an ordinary file. -/
def oneVmaLayout : VmaLayout := ⟨[⟨0x1000, 0x3000, false⟩], List.pairwise_singleton _ _⟩

/-- `check_vmas` over the VMA's range, with `vmap_from_vaddr` looking the address up. -/
theorem checkVmas_one_vma :
    ∃ status, (∀ fuel, (0x2000 : NvU64).toNat ≤ fuel →
        checkVmas (fun addr => oneVmaLayout.vmas.find? fun vma => decide (vma.Contains addr))
          0x1000 0x2000 fuel = some status) ∧
      (status = .ok ↔ ∀ addr : NvU64, 0x1000 ≤ addr →
        addr.toNat < (0x1000 : NvU64).toNat + (0x2000 : NvU64).toNat →
        ∃ vma ∈ oneVmaLayout.vmas, vma.Contains addr ∧ vma.isNvidiaUvm = false) :=
  checkVmas_ok_iff_covered oneVmaLayout oneVmaLayout.vmapFromVaddr_find (by decide) (by decide)

end UvmTools
