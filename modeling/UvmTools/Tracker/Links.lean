import UvmTools.Tracker.Registry

/-!
# A tracker's links

`insert_event_tracker` and `remove_event_tracker` keep a tracker's nodes, its
`*subscribed_mask` and `g_tools_enabled_event_count` in step. The insertion links only the
lists whose bit is not subscribed yet, and the removal unlinks only those whose bit is. So
over any sequence of calls with any masks, for each list below `list_count`, the tracker's
node is linked once exactly while its bit is set. Each count is the tracker's link plus what
the other trackers contribute. `list_add` never meets a linked node, `list_del` never an
unlinked one, and the removal's assertion that the count is positive holds as long as what
the other trackers contribute is below `0xFFFFFFFF`: the counts are `NvU32`, and from
`0xFFFFFFFF` the link's `++` wraps the count to 0, so the removal that follows fails its
assertion (`tracker_count_wraps_at_max`). Bits at or above `list_count` are recorded in the
mask and never linked.
-/

namespace UvmTools

/-- Modelled from the spec: a call a tracker makes on its lists, with any mask. -/
inductive TrackerCall where
  | insert (mask : NvU64)
  | remove (mask : NvU64)
  deriving DecidableEq, Repr

/-- The lists of one kind of a collector, `g_tools_enabled_event_count` and a tracker's
`*subscribed_mask`: what `insert_event_tracker` and `remove_event_tracker` read and write. -/
structure TrackerLists where
  lists : Nat → List Nat
  counts : Nat → NvU32
  subscribed : NvU64

/-- A call of tracker `node` on lists of `list_count` entries. -/
def TrackerCall.run (node listCount : Nat) : TrackerCall → TrackerLists → Except Fault TrackerLists
  | .insert mask, state =>
      let inserted := insertEventTracker node listCount mask state.subscribed state.lists
        state.counts
      .ok ⟨inserted.lists, inserted.counts, inserted.subscribed⟩
  | .remove mask, state =>
      (removeEventTracker node listCount mask state.subscribed state.lists state.counts).map
        fun removed => ⟨removed.lists, removed.counts, removed.subscribed⟩

/-- Modelled from the spec: the calls one after another, stopping at a failed assertion. -/
def runTrackerCalls (node listCount : Nat) (calls : List TrackerCall) (state : TrackerLists) :
    Except Fault TrackerLists :=
  calls.foldlM (fun state call => call.run node listCount state) state

/-- The tracker's node `i` is linked into list `i`, once, exactly while bit `i` is set, and
count `i` is what the other trackers contribute, `base i`, plus that link. -/
structure TrackerLinked (node listCount : Nat) (base : Nat → NvU32) (state : TrackerLists) :
    Prop where
  linked : ∀ i < listCount,
    (state.lists i).count node = if state.subscribed.getLsbD i then 1 else 0
  counted : ∀ i < listCount,
    state.counts i = base i + if state.subscribed.getLsbD i then 1 else 0

/-- What a call does to the tracker's node `i` for each list below `list_count`: the insertion
links it only where it is not linked, and the removal unlinks it only where it is linked and
counted. -/
def LinksSafely (node listCount : Nat) (state : TrackerLists) : TrackerCall → Prop
  | .insert mask => ∀ i < listCount,
      (mask &&& ~~~state.subscribed).getLsbD i = true → node ∉ state.lists i
  | .remove mask => ∀ i < listCount,
      (mask &&& state.subscribed).getLsbD i = true → node ∈ state.lists i ∧ state.counts i ≠ 0

/-- A bit of `x & ~y` is a bit of `x` that `y` lacks. -/
theorem getLsbD_and_not (x y : NvU64) (i : Nat) :
    (x &&& ~~~y).getLsbD i = (x.getLsbD i && !y.getLsbD i) := by
  by_cases hi : i < 64
  · simp [BitVec.getLsbD_and, hi]
  · simp [BitVec.getLsbD_ge _ _ (Nat.le_of_not_lt hi)]

section Calls

variable {node listCount : Nat} {base : Nat → NvU32} {state : TrackerLists}
  (hroom : ∀ i < listCount, base i + 1 ≠ 0)

theorem TrackerLinked.mem_iff (hlinked : TrackerLinked node listCount base state) {i : Nat}
    (hi : i < listCount) : node ∈ state.lists i ↔ state.subscribed.getLsbD i = true := by
  rw [← List.count_pos_iff, hlinked.linked i hi]
  split <;> simp_all

include hroom in
/-- Under the invariant every call links and unlinks safely. -/
theorem TrackerLinked.linksSafely (hlinked : TrackerLinked node listCount base state)
    (call : TrackerCall) : LinksSafely node listCount state call := by
  cases call with
  | insert mask =>
      intro i hi hinserts
      rw [hlinked.mem_iff hi]
      simp_all [BitVec.getLsbD_and, BitVec.getLsbD_not]
  | remove mask =>
      intro i hi hremoves
      have hbit : state.subscribed.getLsbD i = true := by
        simp_all [BitVec.getLsbD_and]
      refine ⟨(hlinked.mem_iff hi).mpr hbit, ?_⟩
      rw [hlinked.counted i hi, if_pos hbit]
      exact hroom i hi

/-- An insertion keeps the invariant. -/
theorem TrackerLinked.insert (hlinked : TrackerLinked node listCount base state) (mask : NvU64) :
    ∃ next, (TrackerCall.insert mask).run node listCount state = .ok next ∧
      TrackerLinked node listCount base next := by
  refine ⟨_, rfl, fun i hi => ?_, fun i hi => ?_⟩ <;>
    have hcount := hlinked.linked i hi <;>
    have hcounted := hlinked.counted i hi <;>
    simp only [insertEventTracker, hi, decide_True, Bool.true_and, getLsbD_and_not,
      BitVec.getLsbD_or] <;>
    cases hsub : state.subscribed.getLsbD i <;> cases hmask : mask.getLsbD i <;>
    simp_all [BitVec.add_zero]

include hroom in
/-- A removal passes its assertion and keeps the invariant. -/
theorem TrackerLinked.remove (hlinked : TrackerLinked node listCount base state) (mask : NvU64) :
    ∃ next, (TrackerCall.remove mask).run node listCount state = .ok next ∧
      TrackerLinked node listCount base next := by
  have hassert : ∀ i ∈ List.range listCount,
      ¬(decide (i < listCount) && (mask &&& state.subscribed).getLsbD i &&
        state.counts i == 0) = true := by
    intro i hmem
    have hi := List.mem_range.mp hmem
    have hnext := hroom i hi
    rw [hlinked.counted i hi]
    cases hsub : state.subscribed.getLsbD i <;> simp_all [BitVec.getLsbD_and]
  simp only [TrackerCall.run, removeEventTracker]
  rw [if_neg (by simpa only [List.any_eq_true, not_exists, not_and] using hassert)]
  refine ⟨_, rfl, fun i hi => ?_, fun i hi => ?_⟩
  · have hcount := hlinked.linked i hi
    simp only [hi, decide_True, Bool.true_and, getLsbD_and_not]
    simp only [BitVec.getLsbD_and]
    cases hsub : state.subscribed.getLsbD i <;> cases hmask : mask.getLsbD i <;>
      simp only [hsub, hmask, Bool.and_true, Bool.and_false, Bool.not_true, Bool.not_false,
        if_true, if_false, Bool.false_eq_true, List.count_erase_self] at hcount ⊢ <;>
      omega
  · have hcounted := hlinked.counted i hi
    simp only [hi, decide_True, Bool.true_and, getLsbD_and_not]
    simp only [BitVec.getLsbD_and]
    cases hsub : state.subscribed.getLsbD i <;> cases hmask : mask.getLsbD i <;>
      simp_all [BitVec.add_sub_cancel]

include hroom in
/-- Every call from a state with the invariant passes its assertions and keeps it. -/
theorem TrackerLinked.run (hlinked : TrackerLinked node listCount base state)
    (call : TrackerCall) : ∃ next, call.run node listCount state = .ok next ∧
      TrackerLinked node listCount base next := by
  cases call with
  | insert mask => exact hlinked.insert mask
  | remove mask => exact hlinked.remove hroom mask

/-- A new tracker, subscribed to nothing and on no list, has the invariant, with the counts
as they are. -/
theorem trackerLinked_unsubscribed {lists : Nat → List Nat} {counts : Nat → NvU32}
    (hnot : ∀ i < listCount, node ∉ lists i) :
    TrackerLinked node listCount counts ⟨lists, counts, 0⟩ where
  linked i hi := by simpa using List.count_eq_zero_of_not_mem (hnot i hi)
  counted _ _ := by simp

include hroom in
/-- Over any sequence of `insert_event_tracker` and `remove_event_tracker` calls with any
masks, from a tracker whose node is linked exactly where its bits are set and counted, while
what the other trackers contribute to each count is below `0xFFFFFFFF`: no call fails its
assertion, the node stays linked once exactly where its bit is set below `list_count` with
each count following, and the next call, whatever it is, links only unlinked nodes and
unlinks only linked and counted ones. -/
theorem runTrackerCalls_links (hstart : TrackerLinked node listCount base state)
    (calls : List TrackerCall) :
    ∃ final, runTrackerCalls node listCount calls state = .ok final ∧
      TrackerLinked node listCount base final ∧ ∀ call, LinksSafely node listCount final call := by
  induction calls generalizing state with
  | nil => exact ⟨state, rfl, hstart, hstart.linksSafely hroom⟩
  | cons call calls ih =>
      obtain ⟨next, hnext, hlinked⟩ := hstart.run hroom call
      obtain ⟨final, hfinal, hrest⟩ := ih hlinked
      refine ⟨final, ?_, hrest⟩
      rw [runTrackerCalls, List.foldlM_cons, hnext]
      exact hfinal

end Calls

/-- A new tracker on eight lists, beside others that count 5 everywhere, subscribes to lists 1
and 2, then to 0 and 1, then drops 1, then everything. -/
theorem runTrackerCalls_links_new :
    (∀ i < 8, (fun _ => (5 : NvU32)) i + 1 ≠ 0) ∧
      ∃ final, runTrackerCalls 0 8 [.insert 6, .insert 3, .remove 2, .remove 0xFF]
          ⟨fun _ => [], fun _ => 5, 0⟩ = .ok final ∧
        TrackerLinked 0 8 (fun _ => 5) final ∧ ∀ call, LinksSafely 0 8 final call :=
  have hroom : ∀ i < 8, (fun _ => (5 : NvU32)) i + 1 ≠ 0 := fun _ _ =>
    (by decide : (5 : NvU32) + 1 ≠ 0)
  ⟨hroom, runTrackerCalls_links hroom
    (trackerLinked_unsubscribed fun _ _ => List.not_mem_nil _) _⟩

/-- From a count of `0xFFFFFFFF`, linking list 0 wraps it to 0, and unlinking it fails the
removal's assertion. -/
theorem tracker_count_wraps_at_max :
    runTrackerCalls 0 1 [.insert 1, .remove 1] ⟨fun _ => [], fun _ => 0xFFFFFFFF, 0⟩ =
      .error .assertion := rfl

end UvmTools
