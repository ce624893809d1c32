import UvmTools.Deferred.Pipeline

/-!
# One flush walks its snapshot

`tools_schedule_completed_events` counts the entries of `g_tools_channel_list` and takes a
reference on each under `g_tools_channel_list_lock`, walks `channel_count` entries from the
list head without the lock, and drops a reference of the first `channel_count` entries
under the lock again. Between these, other threads append channels, drop references and
run flushes of their own.

Followed through any run of the pipeline, one flush visits exactly the channels of its
snapshot, in list order, once each, and releases exactly those: channels only join the
list at its tail, and a channel the flush retains cannot leave it.
-/

namespace UvmTools

/-- What one flush shows of a run. -/
inductive FlushEvent where
  /-- The retain loop, with the entries it counted. -/
  | retained (channels : List Nat)
  /-- `uvm_channel_update_progress_all` on a channel. -/
  | visited (channel : Nat)
  /-- The release loop, with the entries it dropped a reference of. -/
  | released (channels : List Nat)
  deriving DecidableEq, Repr

/-- All a flush shows: its snapshot, each channel of it visited in list order, and the
release of the snapshot. A flush that counted no channel returns after its retain loop. -/
def returnedTrace (snapshot : List Nat) : List FlushEvent :=
  .retained snapshot :: if snapshot = [] then [] else snapshot.map .visited ++ [.released snapshot]

/-- Past `tools_schedule_completed_events`. -/
def FlushPhase.returned : FlushPhase → Bool
  | .scheduled | .draining _ | .done => true
  | _ => false

/-- What a flush has shown by its phase (`none`: not begun), and that while it holds its
references its snapshot is the head of `list`. -/
inductive FlushHistory (list : List Nat) : Option FlushPhase → List FlushEvent → Prop
  | notBegun : FlushHistory list none []
  | retained {snapshot : List Nat} (hhead : list.take snapshot.length = snapshot)
      (hcounted : snapshot ≠ []) :
      FlushHistory list (some (.retained snapshot.length)) [.retained snapshot]
  | walking {snapshot : List Nat} {i : Nat} {cursor : Option Nat}
      (hhead : list.take snapshot.length = snapshot) (hcounted : snapshot ≠ []) :
      FlushHistory list (some (.walking snapshot.length i cursor))
        (.retained snapshot :: (snapshot.take i).map .visited)
  | visited {snapshot : List Nat} {i channel : Nat}
      (hhead : list.take snapshot.length = snapshot) (hcounted : snapshot ≠ []) :
      FlushHistory list (some (.visited snapshot.length i channel))
        (.retained snapshot :: (snapshot.take (i + 1)).map .visited)
  | returned {phase : FlushPhase} {snapshot : List Nat} (hreturned : phase.returned = true)
      (hnodup : snapshot.Nodup) :
      FlushHistory list (some phase) (returnedTrace snapshot)

namespace FlushHistory

variable {list list' : List Nat} {trace : List FlushEvent}

/-- The history depends on the retained entries of the list only. -/
theorem of_take {phase : Option FlushPhase} (history : FlushHistory list phase trace)
    (htake : ∀ flush, phase = some flush →
      list'.take flush.retainedCount = list.take flush.retainedCount) :
    FlushHistory list' phase trace := by
  cases history with
  | notBegun => exact .notBegun
  | retained hhead hcounted => exact .retained ((htake _ rfl).trans hhead) hcounted
  | walking hhead hcounted => exact .walking ((htake _ rfl).trans hhead) hcounted
  | visited hhead hcounted => exact .visited ((htake _ rfl).trans hhead) hcounted
  | returned hreturned hnodup => exact .returned hreturned hnodup

/-- The retain loop's snapshot is the whole list. -/
theorem retain :
    FlushHistory list (some (.afterRetain list.length)) [.retained list] := by
  unfold FlushPhase.afterRetain
  split
  · rename_i hempty
    rw [List.length_eq_zero.mp hempty]
    exact .returned rfl List.nodup_nil
  · rename_i hcounted
    exact .retained (List.take_length list) fun hnil => hcounted (hnil ▸ rfl)

theorem firstEntry {channelCount : Nat} {cursor : Option Nat}
    (history : FlushHistory list (some (.retained channelCount)) trace) :
    FlushHistory list (some (.walking channelCount 0 cursor)) trace := by
  cases history with
  | retained hhead hcounted => exact .walking hhead hcounted
  | returned hreturned => cases hreturned

/-- The progress loop visits the snapshot's `i`-th channel. -/
theorem visit {channelCount i channel : Nat}
    (history : FlushHistory list (some (.walking channelCount i (some channel))) trace)
    (hloop : i < channelCount) (hcursor : list[i]? = some channel) :
    FlushHistory list (some (.visited channelCount i channel)) (trace ++ [.visited channel]) := by
  cases history with
  | @walking snapshot _ _ hhead hcounted =>
      have hat : snapshot[i]? = some channel := by
        rw [← hhead, List.getElem?_take_of_lt hloop]
        exact hcursor
      have htrace : (FlushEvent.retained snapshot :: (snapshot.take i).map .visited) ++
          [.visited channel] = .retained snapshot :: (snapshot.take (i + 1)).map .visited := by
        rw [List.take_succ, hat]
        simp
      rw [htrace]
      exact .visited hhead hcounted
  | returned hreturned => cases hreturned

theorem advance {channelCount i channel : Nat} {cursor : Option Nat}
    (history : FlushHistory list (some (.visited channelCount i channel)) trace) :
    FlushHistory list (some (.walking channelCount (i + 1) cursor)) trace := by
  cases history with
  | visited hhead hcounted => exact .walking hhead hcounted
  | returned hreturned => cases hreturned

/-- Once the progress loop has counted to `channel_count`, it has visited the whole
snapshot, and the release loop walks the snapshot again. -/
theorem release {channelCount i : Nat} {cursor : Option Nat}
    (history : FlushHistory list (some (.walking channelCount i cursor)) trace)
    (hwithin : i ≤ channelCount) (hdone : ¬ i < channelCount) (hnodup : list.Nodup) :
    FlushHistory list' (some .scheduled) (trace ++ [.released (list.take channelCount)]) := by
  cases history with
  | @walking snapshot _ _ hhead hcounted =>
      have htrace : FlushEvent.retained snapshot ::
          (snapshot.map .visited ++ [.released snapshot]) =
          returnedTrace snapshot := by
        rw [returnedTrace, if_neg hcounted]
      rw [List.take_of_length_le (by omega : snapshot.length ≤ i), hhead, List.cons_append, htrace]
      exact .returned rfl (hhead ▸ hnodup.sublist (List.take_sublist _ _))
  | returned hreturned => cases hreturned

end FlushHistory

end UvmTools
