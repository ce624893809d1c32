import UvmTools.Deferred.Records
import Mathlib.Data.List.Nodup

/-!
# The pending-channel list

`g_tools_channel_list` links every channel with a non-zero `pending_event_count`, once,
in the order the channels got their first reference. New channels go to the tail, and a
channel leaves only when its count drops to zero. So whatever keeps a reference on each
of the list's first `n` entries keeps those `n` entries at the head of the list: this is
what lets `tools_schedule_completed_events` walk its snapshot without the lock. This
module gives the loops of that function over the list, and the list operations they use.
-/

namespace UvmTools

section Prefixes

variable {l l' : List Nat} {n : Nat}

/-- Unlinking a channel that is not among the first `n` entries keeps them. -/
theorem take_prefix_erase {channel : Nat}
    (h : channel ∉ l.take n) : l.take n <+: l.erase channel := by
  conv => rhs; rw [← List.take_append_drop n l, List.erase_append_right _ h]
  exact List.prefix_append _ _

/-- A list no longer than `l` that starts with the first `n` entries of `l` has those
same first `n` entries. -/
theorem take_eq_of_take_prefix (h : l.take n <+: l') (hlength : l'.length ≤ l.length) :
    l'.take n = l.take n := by
  by_cases hn : n ≤ l.length
  · have htake := List.prefix_iff_eq_take.mp h
    rw [List.length_take, Nat.min_eq_left hn] at htake
    exact htake.symm
  · rw [List.take_of_length_le (by omega)] at h ⊢
    rw [← h.eq_of_length_le hlength]
    exact (List.take_of_length_le (show l.length ≤ n by omega)).symm

end Prefixes

namespace ToolsChannels

/-- What the channel side keeps: `g_tools_channel_list` holds each channel at most once,
and exactly the channels whose count is not zero. -/
structure Linked (channels : ToolsChannels) : Prop where
  nodup : channels.channelList.Nodup
  mem_iff : ∀ channel, channel ∈ channels.channelList ↔ 0 < channels.pendingEventCount channel

variable {channels : ToolsChannels}

/-- A linked channel is in the list once when its count is not zero, and not at all
when it is. -/
theorem Linked.count_eq (hlinked : channels.Linked) (channel : Nat) :
    channels.channelList.count channel =
      if 0 < channels.pendingEventCount channel then 1 else 0 := by
  split_ifs with hpos
  · exact List.count_eq_one_of_mem hlinked.nodup ((hlinked.mem_iff channel).2 hpos)
  · exact List.count_eq_zero_of_not_mem (mt (hlinked.mem_iff channel).1 hpos)

/-- Taking a reference only appends to the list. -/
theorem prefix_addPendingEventForChannel (channel : Nat) :
    channels.channelList <+: (channels.addPendingEventForChannel channel).channelList := by
  unfold addPendingEventForChannel
  split
  · exact List.prefix_append _ _
  · exact List.prefix_refl _

theorem Linked.addPendingEventForChannel (hlinked : channels.Linked) (channel : Nat) :
    (channels.addPendingEventForChannel channel).Linked := by
  constructor
  · unfold ToolsChannels.addPendingEventForChannel
    split
    · rename_i hzero
      exact hlinked.nodup.append (List.nodup_singleton _) fun c hc hc' => by
        rw [List.mem_singleton.mp hc'] at hc
        exact absurd ((hlinked.mem_iff _).1 hc) (by omega)
    · exact hlinked.nodup
  · intro other
    simp only [pendingEventCount_addPendingEventForChannel, ToolsChannels.addPendingEventForChannel]
    by_cases hother : other = channel
    · subst hother
      split <;> simp_all [hlinked.mem_iff]
      omega
    · split <;> simp [hother, hlinked.mem_iff]

/-- Dropping a reference of a counted channel succeeds; it unlinks the channel when the
count reaches zero, which keeps any first `n` entries the channel is not among, or that it
is among with another reference. -/
theorem removePendingEventForChannel_spec (hlinked : channels.Linked) {channel : Nat}
    (hpos : 0 < channels.pendingEventCount channel) :
    ∃ channels', channels.removePendingEventForChannel channel = .ok channels' ∧
      channels'.Linked ∧ List.Sublist channels'.channelList channels.channelList ∧
      (∀ other, channels'.pendingEventCount other + (if other = channel then 1 else 0) =
        channels.pendingEventCount other) ∧
      ∀ n, (channel ∈ channels.channelList.take n → 2 ≤ channels.pendingEventCount channel) →
        channels.channelList.take n <+: channels'.channelList := by
  refine ⟨_, removePendingEventForChannel_eq_ok _ _ hpos, ⟨?_, fun other => ?_⟩, ?_,
    fun other => ?_, fun n hkept => ?_⟩
  · dsimp only
    split
    · exact hlinked.nodup.erase _
    · exact hlinked.nodup
  · by_cases hother : other = channel
    · subst hother
      split <;> simp_all [hlinked.nodup.not_mem_erase, hlinked.mem_iff]
      omega
    · dsimp only
      split <;> simp [hother, hlinked.nodup.mem_erase_iff, hlinked.mem_iff]
  · dsimp only
    split
    · exact List.erase_sublist _ _
    · exact List.Sublist.refl _
  · by_cases hother : other = channel
    · subst hother; simp; omega
    · simp [hother]
  · dsimp only
    split
    · exact take_prefix_erase fun hmem => by have := hkept hmem; omega
    · exact List.take_prefix _ _

/-- The retain loop of `tools_schedule_completed_events`, under
`g_tools_channel_list_lock`: one more reference on every listed channel. -/
def retainChannels (channels : ToolsChannels) : ToolsChannels :=
  { channels with
    pendingEventCount := channels.channelList.foldl
      (fun counts channel => Function.update counts channel (counts channel + 1))
      channels.pendingEventCount }

theorem foldl_retain (list : List Nat) (counts : Nat → Nat) (channel : Nat) :
    list.foldl (fun counts channel => Function.update counts channel (counts channel + 1))
      counts channel = counts channel + list.count channel := by
  induction list generalizing counts with
  | nil => rfl
  | cons head rest inductionHypothesis =>
      rw [List.foldl_cons, inductionHypothesis, List.count_cons]
      by_cases hhead : channel = head
      · subst hhead; simp; omega
      · simp [Function.update, hhead, Ne.symm hhead]

@[simp] theorem pendingEventCount_retainChannels (channel : Nat) :
    channels.retainChannels.pendingEventCount channel =
      channels.pendingEventCount channel + channels.channelList.count channel :=
  foldl_retain _ _ _

@[simp] theorem channelList_retainChannels :
    channels.retainChannels.channelList = channels.channelList := rfl

theorem Linked.retainChannels (hlinked : channels.Linked) : channels.retainChannels.Linked where
  nodup := hlinked.nodup
  mem_iff channel := by
    rw [channelList_retainChannels, pendingEventCount_retainChannels, hlinked.count_eq]
    split_ifs with hpos <;> simp [hlinked.mem_iff, hpos]

end ToolsChannels

/-- The release loop of `tools_schedule_completed_events`, under
`g_tools_channel_list_lock`: drop one reference of each channel walked, in list order.
The loop reads each entry's successor before unlinking it, so it walks the entries the
list had when it started. -/
def releaseChannels : List Nat → ToolsChannels → Except Fault ToolsChannels
  | [], channels => .ok channels
  | channel :: rest, channels =>
      match channels.removePendingEventForChannel channel with
      | .ok channels => releaseChannels rest channels
      | .error fault => .error fault

/-- Releasing distinct counted channels succeeds and drops one reference of each; any
first `n` entries stay at the head of the list when each released channel among them has
another reference. -/
theorem releaseChannels_spec {released : List Nat} {channels : ToolsChannels}
    (hlinked : channels.Linked) (hnodup : released.Nodup)
    (hpos : ∀ channel ∈ released, 0 < channels.pendingEventCount channel) :
    ∃ channels', releaseChannels released channels = .ok channels' ∧ channels'.Linked ∧
      List.Sublist channels'.channelList channels.channelList ∧
      (∀ other, channels'.pendingEventCount other + released.count other =
        channels.pendingEventCount other) ∧
      ∀ n, (∀ channel ∈ released, channel ∈ channels.channelList.take n →
          2 ≤ channels.pendingEventCount channel) →
        channels.channelList.take n <+: channels'.channelList := by
  induction released generalizing channels with
  | nil => exact
      ⟨channels, rfl, hlinked, List.Sublist.refl _, by simp, fun n _ => List.take_prefix _ _⟩
  | cons channel rest inductionHypothesis =>
      obtain ⟨hfresh, hrest⟩ := List.nodup_cons.mp hnodup
      obtain ⟨first, hremove, hlinked₁, hsub₁, hcount₁, hstarts₁⟩ :=
        ToolsChannels.removePendingEventForChannel_spec hlinked
            (hpos channel (List.mem_cons_self _ _))
      have hcount :
          ∀ other ∈ rest, first.pendingEventCount other = channels.pendingEventCount other :=
        fun other hother => by
          have := hcount₁ other
          rw [if_neg (fun h : other = channel => hfresh (h ▸ hother))] at this
          exact this
      obtain ⟨last, hrelease, hlinked₂, hsub₂, hcount₂, hstarts₂⟩ := inductionHypothesis
          hlinked₁ hrest
        fun other hother => hcount other hother ▸ hpos other (List.mem_cons_of_mem _ hother)
      refine ⟨last, by rw [releaseChannels, hremove]; exact hrelease, hlinked₂, hsub₂.trans hsub₁,
        fun other => ?_, fun n hkept => ?_⟩
      · have hfirst := hcount₁ other
        have hlast := hcount₂ other
        rw [List.count_cons]
        by_cases hother : other = channel
        · subst hother
          rw [if_pos rfl] at hfirst
          rw [beq_self_eq_true, if_pos rfl]
          omega
        · rw [if_neg hother] at hfirst
          rw [if_neg (by rw [beq_iff_eq]; exact fun h => hother h.symm)]
          omega
      · have hhead := hstarts₁ n (hkept channel (List.mem_cons_self _ _))
        have htake := take_eq_of_take_prefix hhead hsub₁.length_le
        rw [← htake]
        refine hstarts₂ n fun other hother hmem => ?_
        rw [hcount other hother]
        exact hkept other (List.mem_cons_of_mem _ hother) (htake ▸ hmem)

/-- `list_first_entry` on `g_tools_channel_list`; `none` stands for the list head, which
is what an empty list gives. -/
def listFirstEntry (list : List Nat) : Option Nat := list.head?

/-- `list_next_entry` on `g_tools_channel_list`: the entry after `channel`, `none` for the
list head after the last entry. An unlinked channel's node points at itself
(`list_del_init`, and `INIT_LIST_HEAD` when the channel was created). -/
def nextEntry (list : List Nat) (channel : Nat) : Option Nat :=
  if channel ∈ list then list[list.indexOf channel + 1]? else some channel

/-- On a list without duplicates, the entry after the `i`-th is the `i + 1`-th. -/
theorem nextEntry_eq {list : List Nat} {i channel : Nat} (hnodup : list.Nodup)
    (hat : list[i]? = some channel) : nextEntry list channel = list[i + 1]? := by
  obtain ⟨hi, rfl⟩ := List.getElem?_eq_some_iff.mp hat
  simp [nextEntry, List.getElem_mem, List.indexOf_getElem hnodup i hi]

end UvmTools
