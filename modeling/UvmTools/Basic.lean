import Mathlib.Data.List.Basic
import Mathlib.Algebra.Group.Nat.Basic

/-!
# Machine words, faults and runs

The fixed-width integer types of the driver, the one fact the tools layer reads from
every ring record (its leading event-type discriminant), the ways a modelled call can
fail, and labelled runs of a transition relation.
-/

namespace UvmTools

/-- `NvU32`. -/
abbrev NvU32 := BitVec 32

/-- `NvU64`. -/
abbrev NvU64 := BitVec 64

/-- `NvU8`, a byte. -/
abbrev NvU8 := BitVec 8

/-- A ring record, `UvmEventEntry`: a tagged union whose every variant starts with
the `NvU8` discriminant `eventData.eventType`. -/
class UvmEventEntry (Entry : Type) where
  /-- `entry->eventData.eventType`. -/
  eventType : Entry → Nat

/-- How a modelled call can end other than by returning. -/
inductive Fault where
  /-- A `UVM_ASSERT` failed; the spec makes these fatal. -/
  | assertion
  /-- A record was written through a cast to a record of another kind (undefined
  behaviour in C). -/
  | reinterpretedRecord
  /-- A NULL record pointer was followed. -/
  | nullRecord
  /-- The head of a list was taken for one of its entries (`list_first_entry` on an empty
  list, or `list_next_entry` past the last entry). -/
  | listHeadAsEntry
  deriving DecidableEq, Repr

/-- `NV_STATUS`, with the codes this file returns. -/
inductive NvStatus where
  | ok
  | errInvalidAddress
  | errNoMemory
  | errInvalidArgument
  /-- `errno_to_nv_status` of a negative errno. -/
  | ofErrno (errno : Int)
  deriving DecidableEq, Repr

/-- Zero or more labelled steps of a transition relation, labels oldest first. -/
inductive Steps {State Label : Type} (step : State → Label → State → Prop) :
    State → List Label → State → Prop where
  | refl (state : State) : Steps step state [] state
  | step {start middle next : State} {labels : List Label} {label : Label}
      (prior : Steps step start labels middle) (transition : step middle label next) :
      Steps step start (labels ++ [label]) next

namespace Steps

variable {State Label : Type} {step : State → Label → State → Prop}

/-- A run of one step. -/
theorem single {start next : State} {label : Label} (transition : step start label next) :
    Steps step start [label] next :=
  .step (.refl _) transition

/-- Compose two runs that meet. -/
theorem trans {start middle finish : State} {labels more : List Label}
    (first : Steps step start labels middle) (second : Steps step middle more finish) :
    Steps step start (labels ++ more) finish := by
  induction second with
  | refl => simpa using first
  | step _ transition inductionHypothesis =>
      simpa [List.append_assoc] using Steps.step inductionHypothesis transition

/-- The last step of a run that ends with a given label. -/
theorem last_step {start finish : State} {labels : List Label} {label : Label}
    (run : Steps step start (labels ++ [label]) finish) :
    ∃ middle, Steps step start labels middle ∧ step middle label finish := by
  generalize hlabels : labels ++ [label] = all at run
  cases run with
  | refl => simp at hlabels
  | step prior transition =>
      obtain ⟨rfl, hlast⟩ := List.append_inj' hlabels rfl
      cases List.singleton_inj.mp hlast
      exact ⟨_, prior, transition⟩

/-- A property every step keeps holds at the end of every run from a state where it holds. -/
theorem invariant {property : State → Prop}
    (preserved : ∀ {state label next}, property state → step state label next → property next)
    {start finish : State} {labels : List Label} (holds : property start)
    (run : Steps step start labels finish) : property finish := by
  induction run with
  | refl => exact holds
  | step _ transition inductionHypothesis => exact preserved inductionHypothesis transition

/-- A step that keeps `invariant` and is matched by an abstract step under `abstraction`
turns every run into an abstract run with the same labels. -/
theorem simulate {Abstract : Type} {abstractStep : Abstract → Label → Abstract → Prop}
    {invariant : State → Prop} {abstraction : State → Abstract}
    (matched : ∀ {state label next}, invariant state → step state label next →
      invariant next ∧ abstractStep (abstraction state) label (abstraction next))
    {start finish : State} {labels : List Label} (holds : invariant start)
    (run : Steps step start labels finish) :
    invariant finish ∧ Steps abstractStep (abstraction start) labels (abstraction finish) := by
  induction run with
  | refl => exact ⟨holds, .refl _⟩
  | step _ transition inductionHypothesis =>
      have next := matched inductionHypothesis.1 transition
      exact ⟨next.1, .step inductionHypothesis.2 next.2⟩

end Steps

/-- Counting over a list after one of its entries is replaced, without truncated
subtraction. -/
theorem countP_set_add {α : Type} {l : List α} {i : Nat} {a : α} (h : l[i]? = some a) (b : α)
    (p : α → Bool) :
    (l.set i b).countP p + (if p a then 1 else 0) = l.countP p + (if p b then 1 else 0) := by
  obtain ⟨hi, rfl⟩ := List.getElem?_eq_some_iff.mp h
  have hle := List.boole_getElem_le_countP p l i hi
  rw [List.countP_set p l i b hi]
  omega

/-- Two entries at different indices that both satisfy `p` count twice. -/
theorem two_le_countP {α : Type} {p : α → Bool} {a b : α} :
    ∀ {l : List α} {i j : Nat}, l[i]? = some a → l[j]? = some b → i ≠ j → p a → p b →
      2 ≤ l.countP p
  | [], _, _, hi, _, _, _, _ => by simp at hi
  | _ :: _, 0, 0, _, _, hij, _, _ => absurd rfl hij
  | x :: rest, 0, j + 1, hi, hj, _, ha, hb => by
      rw [List.getElem?_cons_zero, Option.some.injEq] at hi
      rw [List.getElem?_cons_succ] at hj
      subst hi
      have : 0 < rest.countP p := List.countP_pos_iff.mpr ⟨b, List.getElem?_mem hj, hb⟩
      rw [List.countP_cons_of_pos p rest ha]
      omega
  | x :: rest, i + 1, 0, hi, hj, _, ha, hb => by
      rw [List.getElem?_cons_zero, Option.some.injEq] at hj
      rw [List.getElem?_cons_succ] at hi
      subst hj
      have : 0 < rest.countP p := List.countP_pos_iff.mpr ⟨a, List.getElem?_mem hi, ha⟩
      rw [List.countP_cons_of_pos p rest hb]
      omega
  | x :: rest, i + 1, j + 1, hi, hj, hij, ha, hb => by
      rw [List.getElem?_cons_succ] at hi hj
      have := two_le_countP hi hj (fun h => hij (congrArg (· + 1) h)) ha hb
      rw [List.countP_cons]
      omega

/-- Counting over `0, …, n - 1` with the predicate changed at one index only. -/
theorem countP_range_add {n t : Nat} {p q : Nat → Bool} (hoff : ∀ i, i ≠ t → p i = q i) :
    (List.range n).countP p + (if t < n ∧ q t = true then 1 else 0) =
      (List.range n).countP q + (if t < n ∧ p t = true then 1 else 0) := by
  induction n with
  | zero => simp
  | succ n inductionHypothesis =>
      rw [List.range_succ, List.countP_append, List.countP_append, List.countP_singleton,
        List.countP_singleton]
      by_cases hn : n = t
      · subst hn
        have hrest : (List.range n).countP p = (List.range n).countP q :=
          List.countP_congr fun i hi => by rw [hoff i (by rw [List.mem_range] at hi; omega)]
        cases hp : p n <;> cases hq : q n <;> simp [hrest]
      · rw [hoff n hn]
        have hlt : t < n + 1 ↔ t < n := by omega
        simp only [hlt]
        omega

/-- Entries of three kinds, each entry of at most one kind and each of them an `r`-entry,
count at most the `r`-entries. -/
theorem countP_add_countP_add_countP_le {α : Type} {p q s r : α → Bool} :
    ∀ {l : List α}, (∀ x ∈ l, (if p x then 1 else 0) + (if q x then 1 else 0) +
        (if s x then 1 else 0) ≤ if r x then 1 else 0) →
      l.countP p + l.countP q + l.countP s ≤ l.countP r
  | [], _ => by simp
  | x :: rest, hle => by
      have hx := hle x (List.mem_cons_self x rest)
      have hrest := countP_add_countP_add_countP_le fun y hy => hle y (List.mem_cons_of_mem x hy)
      simp only [List.countP_cons]
      omega

/-- A 32-bit count moved by the same steps as a tally stays equal to it while the tally
stays below `2 ^ 32`. -/
theorem toNat_eq_of_moved {removed added : Prop} [Decidable removed] [Decidable added]
    {count count' : NvU32} {tally tally' : Nat}
    (hcount : count' + (if removed then 1 else 0) = count + (if added then 1 else 0))
    (htally : tally' + (if removed then 1 else 0) = tally + (if added then 1 else 0))
    (hcounted : count.toNat = tally) (hroom : tally' < 2 ^ 32) : count'.toNat = tally' := by
  have htoNat := congrArg BitVec.toNat hcount
  by_cases hremoved : removed <;> by_cases hadded : added <;>
    simp only [hremoved, hadded, if_true, if_false, BitVec.toNat_add] at htoNat htally <;>
    simp at htoNat <;> omega

/-- Writing back the entry a list already holds changes nothing. -/
theorem set_eq_self_of_getElem? {α : Type} {l : List α} {i : Nat} {a : α} (h : l[i]? = some a) :
    l.set i a = l := by
  apply List.ext_getElem?
  intro j
  by_cases hij : i = j
  · subst hij
    rw [List.getElem?_set_self (List.getElem?_eq_some_iff.mp h).1, h]
  · rw [List.getElem?_set_ne hij]

end UvmTools
