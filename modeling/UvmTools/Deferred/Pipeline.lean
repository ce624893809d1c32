import UvmTools.Deferred.Dispatch
import UvmTools.Deferred.Channels

/-!
# The deferred-completion pipeline

All of the deferred path at once, in any interleaving: pushes begun, submissions on the
pushes still being built, completions, any number of `uvm_tools_flush_events` calls each
stepping through `tools_schedule_completed_events`, and the worker of `g_tools_queue`.
The submissions, the callbacks, and the retain and release loops hold
`g_tools_channel_list_lock` and are one step each; the progress loop of a flush runs
without the lock and takes one step per read of the list.

In every reachable state each channel's `pending_event_count` is the number of its
records whose push has not completed plus the number of flushes retaining it, the channel
is linked once exactly when that count is not zero, and every
`remove_pending_event_for_channel` the pipeline can make finds a positive count.
-/

namespace UvmTools

/-- Where one `uvm_tools_flush_events` call is. -/
inductive FlushPhase where
  /-- Past the retain loop, which counted `channelCount` channels. -/
  | retained (channelCount : Nat)
  /-- At iteration `i` of the progress loop, about to visit `channel` (`none`: the list
  head). -/
  | walking (channelCount i : Nat) (channel : Option Nat)
  /-- At iteration `i` of the progress loop, having visited `channel`. -/
  | visited (channelCount i : Nat) (channel : Nat)
  /-- `tools_schedule_completed_events` has returned. -/
  | scheduled
  /-- In `nv_kthread_q_flush`, until the worker has run `mark` items. -/
  | draining (mark : Nat)
  /-- Returned. -/
  | done
  deriving DecidableEq, Repr

namespace FlushPhase

/-- Where a flush goes after its retain loop: one that counted no channel returns. -/
def afterRetain (channelCount : Nat) : FlushPhase :=
  if channelCount = 0 then .scheduled else .retained channelCount

/-- The references a flush holds on the list's first entries: its `channel_count` from
its retain loop to its release loop. -/
def retainedCount : FlushPhase → Nat
  | .retained channelCount | .walking channelCount .. | .visited channelCount .. => channelCount
  | _ => 0

@[simp] theorem retainedCount_walking (channelCount i : Nat) (channel : Option Nat) :
    (walking channelCount i channel).retainedCount = channelCount := rfl

@[simp] theorem retainedCount_scheduled : scheduled.retainedCount = 0 := rfl

@[simp] theorem retainedCount_afterRetain (channelCount : Nat) :
    (afterRetain channelCount).retainedCount = channelCount := by
  unfold afterRetain
  split <;> simp_all [retainedCount]

/-- The progress loop's cursor is the list's `i`-th entry. -/
def CursorAt (list : List Nat) : FlushPhase → Prop
  | .walking channelCount i channel => i ≤ channelCount ∧ (i < channelCount → channel = list[i]?)
  | .visited channelCount i channel => i < channelCount ∧ list[i]? = some channel
  | _ => True

/-- The cursor depends on the retained entries only. -/
theorem CursorAt.of_take {flush : FlushPhase} {list list' : List Nat}
    (htake : list'.take flush.retainedCount = list.take flush.retainedCount)
    (hcursor : flush.CursorAt list) : flush.CursorAt list' := by
  have hentry : ∀ {i}, i < flush.retainedCount → list'[i]? = list[i]? := fun hi => by
    rw [← List.getElem?_take_of_lt hi, htake, List.getElem?_take_of_lt hi]
  cases flush with
  | walking channelCount i channel =>
      exact ⟨hcursor.1, fun hi => (hcursor.2 hi).trans (hentry hi).symm⟩
  | visited channelCount i channel => exact ⟨hcursor.1, (hentry hcursor.1).trans hcursor.2⟩
  | _ => trivial

end FlushPhase

/-- The state of the deferred path: the channels and the pushes by index, the flushes
by index, and `g_tools_queue` with the number of items its worker has run. -/
structure Pipeline extends PushTable where
  flushes : List FlushPhase
  queue : List OnCompleteData
  processed : Nat

/-- No push, no flush, no reference, nothing queued. -/
def initialPipeline : Pipeline :=
  { channels := ⟨fun _ => 0, []⟩, pushes := [], flushes := [], queue := [], processed := 0 }

/-- What a step shows. -/
inductive PipelineEvent where
  | pushBegun (channel : Nat)
  | submitted (call : SubmitCall)
  | completed (push : Nat)
  | retained (flush : Nat) (channels : List Nat)
  | firstEntry (flush : Nat)
  | visited (flush : Nat) (channel : Nat)
  | advanced (flush : Nat)
  | released (flush : Nat) (channels : List Nat)
  | queueFlushed (flush : Nat)
  | finished (flush : Nat)
  | dispatched (actions : List WorkerAction)

/-- One step of one thread of the deferred path. -/
inductive PipelineStep : Pipeline → PipelineEvent → Pipeline → Prop where
  /-- `uvm_push_begin` on a channel. -/
  | beginPush (state : Pipeline) (channel : Nat) :
      PipelineStep state (.pushBegun channel)
        { state with pushes := state.pushes ++ [UvmPush.fresh channel] }
  /-- A submission call on a push still being built. -/
  | submit {state : Pipeline} {call : SubmitCall} {push : UvmPush} {table : PushTable}
      (hpush : state.pushes[call.push]? = some push) (hopen : push.completed = false)
      (happly : call.apply state.toPushTable = .ok table) :
      PipelineStep state (.submitted call) { state with toPushTable := table }
  /-- The channel code sees a push complete, once, and calls its callback. -/
  | complete {state : Pipeline} {p : Nat} {push : UvmPush} (now : NvU64)
      (memory : NvU64 → NvU64) {channels : ToolsChannels} {queue : List OnCompleteData}
      (hpush : state.pushes[p]? = some push) (hopen : push.completed = false)
      (hcomplete : completePush now memory push state.channels state.queue = .ok
          (channels, queue)) :
      PipelineStep state (.completed p)
        { state with
          channels := channels
          queue := queue
          pushes := state.pushes.set p { push with completed := true } }
  /-- A new flush runs the retain loop. -/
  | retain (state : Pipeline) :
      PipelineStep state (.retained state.flushes.length state.channels.channelList)
        { state with
          channels := state.channels.retainChannels
          flushes := state.flushes ++ [.afterRetain state.channels.channelList.length] }
  /-- `list_first_entry`, before the progress loop. -/
  | firstEntry {state : Pipeline} {f channelCount : Nat}
      (hphase : state.flushes[f]? = some (.retained channelCount)) :
      PipelineStep state (.firstEntry f)
        { state with
          flushes := state.flushes.set f
            (.walking channelCount 0 (listFirstEntry state.channels.channelList)) }
  /-- `uvm_channel_update_progress_all` on the cursor. -/
  | visit {state : Pipeline} {f channelCount i channel : Nat}
      (hphase : state.flushes[f]? = some (.walking channelCount i (some channel)))
      (hloop : i < channelCount) :
      PipelineStep state (.visited f channel)
        { state with flushes := state.flushes.set f (.visited channelCount i channel) }
  /-- `list_next_entry` on the cursor. -/
  | advance {state : Pipeline} {f channelCount i channel : Nat}
      (hphase : state.flushes[f]? = some (.visited channelCount i channel)) :
      PipelineStep state (.advanced f)
        { state with
          flushes := state.flushes.set f
            (.walking channelCount (i + 1) (nextEntry state.channels.channelList channel)) }
  /-- The release loop, once the progress loop has counted to `channel_count`. -/
  | release {state : Pipeline} {f channelCount i : Nat} {cursor : Option Nat}
      {channels : ToolsChannels}
      (hphase : state.flushes[f]? = some (.walking channelCount i cursor))
      (hdone : ¬ i < channelCount)
      (hrelease : releaseChannels (state.channels.channelList.take channelCount) state.channels =
        .ok channels) :
      PipelineStep state (.released f (state.channels.channelList.take channelCount))
        { state with channels := channels, flushes := state.flushes.set f .scheduled }
  /-- `nv_kthread_q_flush` queues its marker behind every item scheduled so far. -/
  | queueFlush {state : Pipeline} {f : Nat} (hphase : state.flushes[f]? = some .scheduled) :
      PipelineStep state (.queueFlushed f)
        { state with
          flushes := state.flushes.set f (.draining (state.processed + state.queue.length)) }
  /-- The worker has reached the marker. -/
  | finish {state : Pipeline} {f mark : Nat} (hphase : state.flushes[f]? = some (.draining mark))
      (hdrained : mark ≤ state.processed) :
      PipelineStep state (.finished f) { state with flushes := state.flushes.set f .done }
  /-- The worker runs the oldest scheduled item. -/
  | dispatch {state : Pipeline} {item : OnCompleteData} {rest : List OnCompleteData}
      {actions : List WorkerAction} (hqueue : state.queue = item :: rest)
      (hrun : runQueueItem item = .ok actions) :
      PipelineStep state (.dispatched actions)
        { state with queue := rest, processed := state.processed + 1 }

/-- The channel a push's record is counted on until the push completes. -/
def UvmPush.pendingChannel (push : UvmPush) : Option Nat :=
  if push.completed then none else push.recordChannel

/-- The number of flushes whose retained entries of `list` hold `channel`. -/
def retainingFlushes (flushes : List FlushPhase) (list : List Nat) (channel : Nat) : Nat :=
  flushes.countP fun flush => channel ∈ list.take flush.retainedCount

namespace Pipeline

/-- The number of records on `channel` whose push has not completed. -/
def pendingRecords (state : Pipeline) (channel : Nat) : Nat :=
  state.pushes.countP fun push => push.pendingChannel = some channel

/-- The number of flushes retaining `channel`. -/
def retainers (state : Pipeline) (channel : Nat) : Nat :=
  retainingFlushes state.flushes state.channels.channelList channel

/-- The invariant of the pipeline. -/
structure Consistent (state : Pipeline) : Prop where
  /-- The list holds each channel once, exactly those with a non-zero count. -/
  linked : state.channels.Linked
  /-- Each count is the pending records on the channel plus the flushes retaining it. -/
  counted : ∀ channel, state.channels.pendingEventCount channel =
    state.pendingRecords channel + state.retainers channel
  /-- A flush retains no more entries than the list has. -/
  retainedWithin : ∀ flush ∈ state.flushes,
    flush.retainedCount ≤ state.channels.channelList.length
  /-- Each progress loop's cursor is the entry it counted to. -/
  cursorAt : ∀ flush ∈ state.flushes, flush.CursorAt state.channels.channelList
  /-- Each push's callback matches its record. -/
  wellFormed : ∀ push ∈ state.pushes, push.WellFormed

theorem consistent_initialPipeline : initialPipeline.Consistent where
  linked := ⟨List.nodup_nil, fun _ => by simp [initialPipeline]⟩
  counted _ := rfl
  retainedWithin _ hflush := by simp [initialPipeline] at hflush
  cursorAt _ hflush := by simp [initialPipeline] at hflush
  wellFormed _ hpush := by simp [initialPipeline] at hpush

/-- From `state` to `next`, every flush that keeps its references keeps its retained
entries. -/
def PrefixesKept (state next : Pipeline) : Prop :=
  ∀ (f : Nat) (phase phase' : FlushPhase), state.flushes[f]? = some phase →
    next.flushes[f]? = some phase' →
    phase'.retainedCount = phase.retainedCount →
    next.channels.channelList.take phase.retainedCount =
      state.channels.channelList.take phase.retainedCount

end Pipeline

section Retaining

variable {flushes : List FlushPhase} {list list' : List Nat}

@[simp] theorem FlushPhase.cursorAt_afterRetain (channelCount : Nat) :
    (FlushPhase.afterRetain channelCount).CursorAt list := by
  unfold FlushPhase.afterRetain
  split <;> trivial

/-- Changing one flush for one with as many references leaves who retains what. -/
theorem retainingFlushes_set {f : Nat} {old new : FlushPhase} (hf : flushes[f]? = some old)
    (hsame : new.retainedCount = old.retainedCount) (channel : Nat) :
    retainingFlushes (flushes.set f new) list channel = retainingFlushes flushes list channel := by
  have := countP_set_add hf new fun flush => decide (channel ∈ list.take flush.retainedCount)
  simp only [hsame] at this
  unfold retainingFlushes
  omega

/-- Who retains what depends on the retained entries only. -/
theorem retainingFlushes_of_take
    (htake : ∀ flush ∈ flushes, list'.take flush.retainedCount = list.take flush.retainedCount)
    (channel : Nat) :
    retainingFlushes flushes list' channel = retainingFlushes flushes list channel :=
  List.countP_congr fun flush hflush => by rw [htake flush hflush]

/-- A list that starts with the first `n` entries of `list`, `n` within `list`, has those
entries first. -/
theorem take_kept {n : Nat} (hn : n ≤ list.length) (hstarts : list.take n <+: list') :
    list'.take n = list.take n ∧ n ≤ list'.length := by
  have hlength : (list.take n).length = n := by simp [hn]
  refine ⟨?_, hlength ▸ hstarts.length_le⟩
  have htake := List.prefix_iff_eq_take.mp hstarts
  rw [hlength] at htake
  exact htake.symm

/-- A change of the list that keeps every flush's retained entries at its head keeps those
entries, the bound on each count, and each cursor. -/
theorem flushes_kept (hwithin : ∀ flush ∈ flushes, flush.retainedCount ≤ list.length)
    (hcursor : ∀ flush ∈ flushes, flush.CursorAt list)
    (hkept : ∀ flush ∈ flushes, list.take flush.retainedCount <+: list') :
    (∀ flush ∈ flushes, list'.take flush.retainedCount = list.take flush.retainedCount) ∧
      (∀ flush ∈ flushes, flush.retainedCount ≤ list'.length) ∧
      ∀ flush ∈ flushes, flush.CursorAt list' := by
  have hboth := fun flush hflush => take_kept (hwithin flush hflush) (hkept flush hflush)
  exact ⟨fun flush hflush => (hboth flush hflush).1, fun flush hflush => (hboth flush hflush).2,
    fun flush hflush => (hcursor flush hflush).of_take (hboth flush hflush).1⟩

end Retaining

namespace Pipeline

variable {state : Pipeline}

/-- A channel counted by a pending record and by a retaining flush has two references. -/
theorem Consistent.two_le_of_retained (hconsistent : state.Consistent) {channel : Nat}
    (hrecord : 0 < state.pendingRecords channel) (hretained : 0 < state.retainers channel) :
    2 ≤ state.channels.pendingEventCount channel := by
  rw [hconsistent.counted]
  omega

/-- A step that leaves the flushes alone and changes the channels keeping every flush's
retained entries at the head of the list keeps the invariant when it keeps the counts. -/
theorem Consistent.of_channels (hconsistent : state.Consistent) {next : Pipeline}
    (hflushes : next.flushes = state.flushes) (hlinked : next.channels.Linked)
    (hkept : ∀ flush ∈ state.flushes,
      state.channels.channelList.take flush.retainedCount <+: next.channels.channelList)
    (hcounted : ∀ channel, next.channels.pendingEventCount channel =
      next.pendingRecords channel + state.retainers channel)
    (hwellFormed : ∀ push ∈ next.pushes, push.WellFormed) :
    next.Consistent ∧ PrefixesKept state next := by
  obtain ⟨htake, hwithin, hcursor⟩ :=
    flushes_kept hconsistent.retainedWithin hconsistent.cursorAt hkept
  refine ⟨⟨hlinked, fun channel => ?_, hflushes ▸ hwithin, hflushes ▸ hcursor, hwellFormed⟩,
    fun f phase _ hphase _ _ => htake phase (List.getElem?_mem hphase)⟩
  rw [hcounted, retainers, retainers, hflushes, retainingFlushes_of_take htake channel]

theorem Consistent.beginPush (hconsistent : state.Consistent) (channel : Nat) :
    ({ state with pushes := state.pushes ++ [UvmPush.fresh channel] } : Pipeline).Consistent := by
  refine ⟨hconsistent.linked, fun other => ?_, hconsistent.retainedWithin,
    hconsistent.cursorAt, fun push hpush => ?_⟩
  · simp [hconsistent.counted, pendingRecords, retainers, UvmPush.fresh, UvmPush.pendingChannel,
      UvmPush.recordChannel]
  · rcases List.mem_append.mp hpush with hold | hnew
    · exact hconsistent.wellFormed push hold
    · obtain rfl := List.mem_singleton.mp hnew
      exact ⟨rfl, fun _ hdata => by cases hdata⟩

/-- A record is pending on its channel while its push has not completed. -/
theorem pendingChannel_eq {push : UvmPush} (hopen : push.completed = false) :
    push.pendingChannel = push.recordChannel := by
  simp [UvmPush.pendingChannel, hopen]

theorem Consistent.submit (hconsistent : state.Consistent) {call : SubmitCall} {push : UvmPush}
    {table : PushTable} (hpush : state.pushes[call.push]? = some push)
    (hopen : push.completed = false) (happly : call.apply state.toPushTable = .ok table) :
    ({ state with toPushTable := table } : Pipeline).Consistent ∧
      PrefixesKept state { state with toPushTable := table } := by
  have hpush₁ : state.toPushTable.pushes[call.push]? = some push := hpush
  unfold SubmitCall.apply at happly
  rw [hpush₁] at happly
  dsimp only at happly
  split at happly
  · rename_i channels push' hrun
    cases happly
    have submitted := SubmitCall.run_ok hrun
    have hopen' : push'.completed = false := submitted.completed_eq.trans hopen
    have hgrows : state.channels.channelList <+: channels.channelList ∧ channels.Linked := by
      rcases submitted.channels_eq with heq | ⟨-, channel, -, heq⟩
      · cases heq; exact ⟨List.prefix_refl _, hconsistent.linked⟩
      · cases heq
        exact ⟨ToolsChannels.prefix_addPendingEventForChannel channel,
          hconsistent.linked.addPendingEventForChannel channel⟩
    refine hconsistent.of_channels rfl hgrows.2
      (fun flush _ => (List.take_prefix _ _).trans hgrows.1) (fun channel => ?_)
          fun other hother => ?_
    · have hcount := submitted.count_eq channel
      have hset :=
        countP_set_add hpush push' fun push => decide (push.pendingChannel = some channel)
      have hold := hconsistent.counted channel
      simp only [decide_eq_true_eq, pendingChannel_eq hopen, pendingChannel_eq hopen'] at hset
      unfold pendingRecords at hold ⊢
      dsimp only at hcount ⊢
      omega
    · rcases List.mem_or_eq_of_mem_set hother with hold | rfl
      · exact hconsistent.wellFormed other hold
      · exact submitted.wellFormed (hconsistent.wellFormed push (List.getElem?_mem hpush))
  · cases happly

/-- A push pending on a channel counts among its pending records. -/
theorem pendingRecords_pos {p : Nat} {push : UvmPush}
    {channel : Nat} (hpush : state.pushes[p]? = some push)
    (hpending : push.pendingChannel = some channel) : 0 < state.pendingRecords channel :=
  List.countP_pos_iff.mpr ⟨push, List.getElem?_mem hpush, by simpa using hpending⟩

theorem Consistent.complete (hconsistent : state.Consistent) {p : Nat} {push : UvmPush}
    {now : NvU64} {memory : NvU64 → NvU64} {channels : ToolsChannels}
    {queue : List OnCompleteData} (hpush : state.pushes[p]? = some push)
    (hopen : push.completed = false)
    (hcomplete : completePush now memory push state.channels state.queue = .ok (channels, queue)) :
    ({ state with
        channels := channels
        queue := queue
        pushes := state.pushes.set p { push with completed := true } } : Pipeline).Consistent ∧
      PrefixesKept state { state with
        channels := channels
        queue := queue
        pushes := state.pushes.set p { push with completed := true } } := by
  have hwf := hconsistent.wellFormed push (List.getElem?_mem hpush)
  have hset := fun channel => countP_set_add hpush { push with completed := true }
    fun push => decide (push.pendingChannel = some channel)
  have hwellFormed : ∀ other ∈ state.pushes.set p { push with completed := true },
      other.WellFormed :=
    fun other hother => by
      rcases List.mem_or_eq_of_mem_set hother with hold | rfl
      · exact hconsistent.wellFormed other hold
      · exact ⟨hwf.callback, hwf.completable⟩
  have hafter : ({ push with completed := true } : UvmPush).pendingChannel = none := rfl
  rw [completePush_eq hwf] at hcomplete
  split at hcomplete
  · rename_i hnone
    cases hcomplete
    have hbefore : push.pendingChannel = none := by
      simp [UvmPush.pendingChannel, UvmPush.recordChannel, hnone]
    refine hconsistent.of_channels rfl hconsistent.linked (fun flush _ => List.take_prefix _ _)
      (fun channel => ?_) hwellFormed
    have hthis := hset channel
    have hold := hconsistent.counted channel
    simp only [hbefore, hafter, reduceCtorEq, decide_False, Bool.false_eq_true, if_false] at hthis
    unfold pendingRecords at hold ⊢
    dsimp only
    omega
  · rename_i data hdata
    have hbefore : push.pendingChannel = some data.channel := by
      simp [UvmPush.pendingChannel, UvmPush.recordChannel, hopen, hdata]
    have hrecord := pendingRecords_pos hpush hbefore
    obtain ⟨channels', hremove, hlinked, -, hcount, hstarts⟩ :=
      ToolsChannels.removePendingEventForChannel_spec hconsistent.linked
        (show 0 < state.channels.pendingEventCount data.channel by rw [hconsistent.counted]; omega)
    simp only [scheduleCompleted, OnCompleteData.channel_complete, hremove] at hcomplete
    cases hcomplete
    refine hconsistent.of_channels rfl hlinked (fun flush hflush => hstarts _ fun hmem =>
        hconsistent.two_le_of_retained hrecord
          (List.countP_pos_iff.mpr ⟨flush, hflush, decide_eq_true hmem⟩))
      (fun channel => ?_) hwellFormed
    have hthis := hset channel
    have hold := hconsistent.counted channel
    have hcountChannel := hcount channel
    simp only [hbefore, hafter, reduceCtorEq, decide_False, Bool.false_eq_true, if_false,
      Option.some.injEq, decide_eq_true_eq] at hthis
    unfold pendingRecords at hold ⊢
    dsimp only
    by_cases hchannel : channel = data.channel
    · rw [if_pos hchannel.symm] at hthis
      rw [if_pos hchannel] at hcountChannel
      omega
    · rw [if_neg (Ne.symm hchannel)] at hthis
      rw [if_neg hchannel] at hcountChannel
      omega

theorem Consistent.retain (hconsistent : state.Consistent) :
    ({ state with
        channels := state.channels.retainChannels
        flushes := state.flushes ++ [.afterRetain state.channels.channelList.length] } :
      Pipeline).Consistent := by
  refine ⟨hconsistent.linked.retainChannels, fun channel => ?_, fun flush hflush => ?_,
    fun flush hflush => ?_, hconsistent.wellFormed⟩
  · have hold := hconsistent.counted channel
    have hlisted : state.channels.channelList.count channel =
        if channel ∈ state.channels.channelList then 1 else 0 := by
      split_ifs with hmem
      · exact List.count_eq_one_of_mem hconsistent.linked.nodup hmem
      · exact List.count_eq_zero_of_not_mem hmem
    simp only [ToolsChannels.pendingEventCount_retainChannels, hlisted, pendingRecords, retainers,
      retainingFlushes, List.countP_append, List.countP_singleton,
      FlushPhase.retainedCount_afterRetain, ToolsChannels.channelList_retainChannels,
      List.take_length, decide_eq_true_eq]
    unfold pendingRecords retainers retainingFlushes at hold
    omega
  · rcases List.mem_append.mp hflush with hold | hnew
    · exact hconsistent.retainedWithin flush hold
    · obtain rfl := List.mem_singleton.mp hnew
      simp
  · rcases List.mem_append.mp hflush with hold | hnew
    · exact hconsistent.cursorAt flush hold
    · obtain rfl := List.mem_singleton.mp hnew
      exact FlushPhase.cursorAt_afterRetain _

/-- Moving one flush to a phase with as many references and a cursor in place keeps the
invariant. -/
theorem Consistent.setFlush (hconsistent : state.Consistent) {f : Nat} {old new : FlushPhase}
    (hf : state.flushes[f]? = some old) (hsame : new.retainedCount = old.retainedCount)
    (hcursor : new.CursorAt state.channels.channelList) :
    ({ state with flushes := state.flushes.set f new } : Pipeline).Consistent := by
  have hold := List.getElem?_mem hf
  refine ⟨hconsistent.linked, fun channel => ?_, fun flush hflush => ?_, fun flush hflush => ?_,
    hconsistent.wellFormed⟩
  · rw [hconsistent.counted]
    exact congrArg _ (retainingFlushes_set hf hsame channel).symm
  · rcases List.mem_or_eq_of_mem_set hflush with hflush | rfl
    · exact hconsistent.retainedWithin flush hflush
    · exact hsame ▸ hconsistent.retainedWithin old hold
  · rcases List.mem_or_eq_of_mem_set hflush with hflush | rfl
    · exact hconsistent.cursorAt flush hflush
    · exact hcursor

/-- The entries a flush retains have no duplicates and are counted. -/
theorem Consistent.retained_nodup (hconsistent : state.Consistent) (channelCount : Nat) :
    (state.channels.channelList.take channelCount).Nodup :=
  hconsistent.linked.nodup.sublist (List.take_sublist _ _)

/-- A flush's release loop finds every channel it releases counted, and drops one
reference of each; a channel another flush also retains keeps a reference, so every
other flush's retained entries stay at the head of the list. -/
theorem Consistent.release (hconsistent : state.Consistent) {f channelCount i : Nat}
    {cursor : Option Nat} (hphase : state.flushes[f]? = some (.walking channelCount i cursor)) :
    ∃ channels, releaseChannels (state.channels.channelList.take channelCount) state.channels =
        .ok channels ∧
      ({ state with channels := channels, flushes := state.flushes.set f .scheduled } :
        Pipeline).Consistent ∧
      PrefixesKept state
          { state with channels := channels, flushes := state.flushes.set f .scheduled } := by
  obtain ⟨channels, hrelease, hlinked, -, hcount, hstarts⟩ :=
    releaseChannels_spec hconsistent.linked (hconsistent.retained_nodup channelCount)
      fun channel hchannel => (hconsistent.linked.mem_iff channel).1 (List.mem_of_mem_take hchannel)
  -- every other flush retains entries that stay at the head of the list
  have hkept : ∀ (j : Nat) (flush : FlushPhase), (state.flushes.set f .scheduled)[j]? = some flush →
      state.channels.channelList.take flush.retainedCount <+: channels.channelList := by
    intro j flush hflush
    by_cases hj : f = j
    · subst hj
      rw [List.getElem?_set_self (List.getElem?_eq_some_iff.mp hphase).1] at hflush
      cases hflush
      exact List.nil_prefix
    · rw [List.getElem?_set_ne hj] at hflush
      refine hstarts _ fun channel hchannel hmem => ?_
      have htwice : 2 ≤ state.retainers channel :=
        two_le_countP hphase hflush hj (decide_eq_true hchannel) (decide_eq_true hmem)
      rw [hconsistent.counted]
      omega
  have hwithin : ∀ flush ∈ state.flushes.set f .scheduled,
      flush.retainedCount ≤ state.channels.channelList.length := fun flush hflush => by
    rcases List.mem_or_eq_of_mem_set hflush with hflush | rfl
    · exact hconsistent.retainedWithin flush hflush
    · exact Nat.zero_le _
  have hcursor : ∀ flush ∈ state.flushes.set f .scheduled,
      flush.CursorAt state.channels.channelList := fun flush hflush => by
    rcases List.mem_or_eq_of_mem_set hflush with hflush | rfl
    · exact hconsistent.cursorAt flush hflush
    · trivial
  obtain ⟨htake, hwithin', hcursor'⟩ := flushes_kept hwithin hcursor fun flush hflush => by
    obtain ⟨j, hj⟩ := List.getElem?_of_mem hflush
    exact hkept j flush hj
  refine ⟨channels, hrelease,
      ⟨hlinked, fun channel => ?_, hwithin', hcursor', hconsistent.wellFormed⟩,
    fun j phase phase' _ hnext hsame => hsame ▸ htake phase' (List.getElem?_mem hnext)⟩
  have hold := hconsistent.counted channel
  have hreleased := hcount channel
  have hset := countP_set_add hphase FlushPhase.scheduled
    fun flush => decide (channel ∈ state.channels.channelList.take flush.retainedCount)
  have hlisted : (state.channels.channelList.take channelCount).count channel =
      if channel ∈ state.channels.channelList.take channelCount then 1 else 0 := by
    split_ifs with hmem
    · exact List.count_eq_one_of_mem (hconsistent.retained_nodup channelCount) hmem
    · exact List.count_eq_zero_of_not_mem hmem
  simp only [FlushPhase.retainedCount_walking, FlushPhase.retainedCount_scheduled, List.take_zero,
    List.not_mem_nil, decide_False, Bool.false_eq_true, if_false, decide_eq_true_eq] at hset
  unfold retainers retainingFlushes at hold
  show channels.pendingEventCount channel =
    state.pendingRecords channel + retainingFlushes _ channels.channelList channel
  rw [retainingFlushes_of_take htake, retainingFlushes]
  split_ifs at hset hlisted <;> omega

/-- Completing an open push of a consistent state succeeds. -/
theorem Consistent.complete_ok (hconsistent : state.Consistent) {p : Nat} {push : UvmPush}
    (hpush : state.pushes[p]? = some push) (hopen : push.completed = false) (now : NvU64)
    (memory : NvU64 → NvU64) :
    ∃ channels queue, completePush now memory push state.channels state.queue = .ok
        (channels, queue) := by
  rw [completePush_eq (hconsistent.wellFormed push (List.getElem?_mem hpush))]
  split
  · exact ⟨_, _, rfl⟩
  · rename_i data hdata
    have hrecord := pendingRecords_pos hpush
      (show push.pendingChannel = some data.channel by
        simp [UvmPush.pendingChannel, UvmPush.recordChannel, hopen, hdata])
    exact ⟨_, _, (scheduleCompleted_eq_ok _ _ _
      (by rw [OnCompleteData.channel_complete, hconsistent.counted]; omega)).choose_spec⟩

end Pipeline

/-- Every step keeps the invariant, and keeps the retained entries of every flush that
keeps its references. -/
theorem PipelineStep.consistent {state next : Pipeline} {event : PipelineEvent}
    (hconsistent : state.Consistent) (step : PipelineStep state event next) :
    next.Consistent ∧ state.PrefixesKept next := by
  cases step with
  | beginPush channel => exact ⟨hconsistent.beginPush channel, fun _ _ _ _ _ _ => rfl⟩
  | submit hpush hopen happly => exact hconsistent.submit hpush hopen happly
  | complete now memory hpush hopen hcomplete => exact hconsistent.complete hpush hopen hcomplete
  | retain => exact ⟨hconsistent.retain, fun _ _ _ _ _ _ => rfl⟩
  | firstEntry hphase =>
      exact ⟨hconsistent.setFlush hphase rfl ⟨Nat.zero_le _, fun _ => List.head?_eq_getElem? _⟩,
        fun _ _ _ _ _ _ => rfl⟩
  | visit hphase hloop =>
      exact ⟨hconsistent.setFlush hphase rfl
          ⟨hloop, ((hconsistent.cursorAt _ (List.getElem?_mem hphase)).2 hloop).symm⟩,
        fun _ _ _ _ _ _ => rfl⟩
  | advance hphase =>
      have hcursor := hconsistent.cursorAt _ (List.getElem?_mem hphase)
      exact ⟨hconsistent.setFlush hphase rfl
          ⟨hcursor.1, fun _ => nextEntry_eq hconsistent.linked.nodup hcursor.2⟩,
        fun _ _ _ _ _ _ => rfl⟩
  | release hphase _ hrelease =>
      obtain ⟨channels, hreleased, hnext, hkept⟩ := hconsistent.release hphase
      rw [hrelease] at hreleased
      cases hreleased
      exact ⟨hnext, hkept⟩
  | queueFlush hphase => exact ⟨hconsistent.setFlush hphase rfl trivial, fun _ _ _ _ _ _ => rfl⟩
  | finish hphase _ => exact ⟨hconsistent.setFlush hphase rfl trivial, fun _ _ _ _ _ _ => rfl⟩
  | dispatch _ _ =>
      exact ⟨⟨hconsistent.linked, hconsistent.counted, hconsistent.retainedWithin,
        hconsistent.cursorAt, hconsistent.wellFormed⟩, fun _ _ _ _ _ _ => rfl⟩

/-- Every state the pipeline reaches is consistent. -/
theorem Steps.consistent {events : List PipelineEvent} {state : Pipeline}
    (run : Steps PipelineStep initialPipeline events state) : state.Consistent :=
  @Steps.invariant _ _ _ Pipeline.Consistent
      (fun hconsistent step => (step.consistent hconsistent).1)
    _ _ _ Pipeline.consistent_initialPipeline run

/-- Under any interleaving of pushes begun, submissions, completions (once per push),
flushes and the worker, from the initial state: every channel's `pending_event_count` is
the number of its records whose push has not completed plus the number of flushes
retaining it; the channel is in `g_tools_channel_list` once when that count is not zero
and not at all when it is zero; and every completion and every release loop the state
allows succeeds, so the `UVM_ASSERT(pending_event_count > 0)` of
`remove_pending_event_for_channel` never fails and no count goes below zero. -/
theorem pendingEventCount_tracks_pending {events : List PipelineEvent} {state : Pipeline}
    (run : Steps PipelineStep initialPipeline events state) :
    (∀ channel, state.channels.pendingEventCount channel =
      state.pendingRecords channel + state.retainers channel) ∧
    (∀ channel, state.channels.channelList.count channel =
      if 0 < state.channels.pendingEventCount channel then 1 else 0) ∧
    (∀ (p : Nat) (push : UvmPush) (now : NvU64) (memory : NvU64 → NvU64),
      state.pushes[p]? = some push → push.completed = false →
      ∃ channels queue, completePush now memory push state.channels state.queue =
        .ok (channels, queue)) ∧
    (∀ (f channelCount i : Nat) (cursor : Option Nat),
      state.flushes[f]? = some (.walking channelCount i cursor) →
      ∃ channels, releaseChannels (state.channels.channelList.take channelCount) state.channels =
        .ok channels) := by
  have hconsistent := run.consistent
  exact ⟨hconsistent.counted, hconsistent.linked.count_eq,
    fun _ _ now memory hpush hopen => hconsistent.complete_ok hpush hopen now memory,
    fun _ _ _ _ hphase => (hconsistent.release hphase).imp fun _ h => h.1⟩

/-- A replay broadcast with the replay event enabled and its record allocated. -/
def sampleBroadcastReplay : BroadcastReplay :=
  { gpuId := 0, batchId := 1, clientType := .gpc, replayEnabled := true, allocated := true
    now := 7, timestampAddr := 64 }

/-- A push begun on channel 5, a replay broadcast on it, then one flush through its
release loop. -/
def sampleFlushEvents : List PipelineEvent :=
  [.pushBegun 5, .submitted (.broadcastReplay 0 sampleBroadcastReplay), .retained 0 [5],
    .firstEntry 0, .visited 0 5, .advanced 0, .released 0 [5]]

/-- Where `sampleFlushEvents` leads: the replay record still counts on channel 5, and the
flush has dropped its reference. -/
def sampleFlushed : Pipeline :=
  let channels := ToolsChannels.addPendingEventForChannel ⟨fun _ => 0, []⟩ 5
  { channels := (releaseChannels [5] channels.retainChannels).toOption.getD channels
    pushes := [{ UvmPush.fresh 5 with
      onComplete := some .onReplayComplete
      onCompleteData := some (.replay (sampleBroadcastReplay.replay 5)) }]
    flushes := [.scheduled], queue := [], processed := 0 }

theorem sampleFlushRun : Steps PipelineStep initialPipeline sampleFlushEvents sampleFlushed := by
  have begun := Steps.single (PipelineStep.beginPush initialPipeline 5)
  have submitted := begun.step (@PipelineStep.submit _ (.broadcastReplay 0 sampleBroadcastReplay)
    _ _ rfl rfl rfl)
  have retained := submitted.step (PipelineStep.retain _)
  have walking := retained.step (@PipelineStep.firstEntry _ 0 1 rfl)
  have visited := walking.step (@PipelineStep.visit _ 0 1 0 5 rfl (by decide))
  have advanced := visited.step (@PipelineStep.advance _ 0 1 0 5 rfl)
  exact advanced.step (@PipelineStep.release _ 0 1 1 none _ rfl (by decide) rfl)

theorem pendingEventCount_tracks_pending_sample :
    (∀ channel, sampleFlushed.channels.pendingEventCount channel =
      sampleFlushed.pendingRecords channel + sampleFlushed.retainers channel) ∧
    (∀ channel, sampleFlushed.channels.channelList.count channel =
      if 0 < sampleFlushed.channels.pendingEventCount channel then 1 else 0) ∧
    (∀ (p : Nat) (push : UvmPush) (now : NvU64) (memory : NvU64 → NvU64),
      sampleFlushed.pushes[p]? = some push → push.completed = false →
      ∃ channels queue, completePush now memory push sampleFlushed.channels sampleFlushed.queue =
        .ok (channels, queue)) ∧
    (∀ (f channelCount i : Nat) (cursor : Option Nat),
      sampleFlushed.flushes[f]? = some (.walking channelCount i cursor) →
      ∃ channels, releaseChannels (sampleFlushed.channels.channelList.take channelCount)
        sampleFlushed.channels = .ok channels) :=
  pendingEventCount_tracks_pending sampleFlushRun

end UvmTools
