import UvmTools.Events.Reports
import UvmTools.Queue.Refinement

/-!
# The tools as one system

The parts of the file run together. Trackers are created, attached and destroyed (the
registry); producers report events on the queues of the trackers subscribed to them; and the
consumer of each queue releases records and moves `get_ahead` in the mapped control block.
`ToolsStep` is that system, with the single-collector reports of `ReportCall` as its
producers. Its state is the registry and one ring per tracker index.

What the system is for is `ToolsModel`: each tracker's queue is a FIFO of capacity `C - 1`
with per-type drop counters. A report that passes its assertions offers its entry to the FIFO
of each queue tracker of its collector subscribed to its type at that moment, and a consumer
takes records from the front of its FIFO.

Every run of the system, however its steps interleave, is a run of the model under the
abstraction that reads each ring's window and drop counters, and the registry stays
consistent along it (`toolsSystem_refines_model`). So a report reaches exactly the queues
subscribed to it when it is made, once each; a queue keeps its records in report order until
its consumer releases them; and a record is lost only by being counted as dropped.

Two consequences are read off the model's runs. What a consumer releases, followed by what
its ring still holds, is the ring's start followed by a subsequence of the reports
(`toolsSystem_delivers_in_order`). After a tracker is destroyed its ring only drains
(`destroyed_queue_only_drains`).
-/

namespace UvmTools

/-- The state of the tools: the registry, and the queue of each tracker index. -/
structure ToolsSystem where
  registry : Registry
  queues : Nat → UvmToolsQueue ReportEntry

/-- What happens in the tools: a step of the registry, a report, or a step of the consumer
of tracker `t`'s queue. -/
inductive ToolsEvent where
  | registry (event : RegistryEvent)
  | report (call : ReportCall)
  | consumer (t : Nat) (event : QueueEvent ReportEntry)

/-- One step of the tools. A report whose assertions fail has no step: the system stops. -/
inductive ToolsStep (ids : ToolsIds) (rids : ReportIds ids) :
    ToolsSystem → ToolsEvent → ToolsSystem → Prop where
  | registry {system : ToolsSystem} {event : RegistryEvent} {registry : Registry}
      (step : RegistryStep ids system.registry event registry) :
      ToolsStep ids rids system (.registry event) { system with registry := registry }
  | report {system : ToolsSystem} {queues : Nat → UvmToolsQueue ReportEntry} (call : ReportCall)
      (hrun : call.run ids rids system.registry system.queues = .ok queues) :
      ToolsStep ids rids system (.report call) { system with queues := queues }
  | release {system : ToolsSystem} (t : Nat) {n : Nat} {records : List ReportEntry}
      {next : UvmToolsQueue ReportEntry}
      (consumer : releaseRecords n (system.queues t) = some (records, next)) :
      ToolsStep ids rids system (.consumer t (.released records))
        { system with queues := Function.update system.queues t next }
  | advance {system : ToolsSystem} (t : Nat) {n : Nat} {next : UvmToolsQueue ReportEntry}
      (consumer : advanceGetAhead n (system.queues t) = some next) :
      ToolsStep ids rids system (.consumer t (.advancedGetAhead n))
        { system with queues := Function.update system.queues t next }

/-- Modelled from the spec: the tools with each tracker's queue a FIFO. -/
structure ToolsModel where
  registry : Registry
  fifos : Nat → BoundedFifo ReportEntry

/-- Modelled from the spec: the FIFOs after `entry`, reported on collector `v`, is offered to
the FIFO of each queue tracker of `v` subscribed to its type. -/
def ToolsModel.offer (ids : ToolsIds) (capacity : Nat → Nat) (model : ToolsModel) (v : Nat)
    (entry : ReportEntry) (t : Nat) : BoundedFifo ReportEntry :=
  if Registry.SubscribedQueue ids model.registry v entry.eventType t then
    (model.fifos t).push (capacity t) entry
  else model.fifos t

/-- Modelled from the spec: a report offers its entry to the FIFO of every queue tracker of
its collector subscribed to its type, and a consumer takes records from the front of its
FIFO. `capacity t` is the room of tracker `t`'s FIFO. -/
inductive ToolsModel.Step (ids : ToolsIds) (rids : ReportIds ids) (capacity : Nat → Nat) :
    ToolsModel → ToolsEvent → ToolsModel → Prop where
  | registry {model : ToolsModel} {event : RegistryEvent} {registry : Registry}
      (step : RegistryStep ids model.registry event registry) :
      ToolsModel.Step ids rids capacity model (.registry event)
        { model with registry := registry }
  | report {model : ToolsModel} (call : ReportCall) (hasserts : call.asserts = true) :
      ToolsModel.Step ids rids capacity model (.report call)
        { model with fifos := model.offer ids capacity call.vaSpace (call.entry rids) }
  | release {model : ToolsModel} (t : Nat) {n : Nat}
      (enough : n ≤ (model.fifos t).items.length) :
      ToolsModel.Step ids rids capacity model
        (.consumer t (.released ((model.fifos t).items.take n)))
        { model with fifos := Function.update model.fifos t
                                ({ model.fifos t with items := (model.fifos t).items.drop n }) }
  | advance {model : ToolsModel} (t n : Nat) :
      ToolsModel.Step ids rids capacity model (.consumer t (.advancedGetAhead n)) model

namespace ToolsSystem

/-- The abstraction: the registry, and each ring's window and drop counters. -/
def toModel (system : ToolsSystem) : ToolsModel :=
  ⟨system.registry, fun t => (system.queues t).toFifo⟩

/-- Replacing one queue replaces one FIFO. -/
theorem toModel_update (system : ToolsSystem) (t : Nat) (next : UvmToolsQueue ReportEntry) :
    { system with queues := Function.update system.queues t next }.toModel =
      { system.toModel with fifos := Function.update system.toModel.fifos t next.toFifo } := by
  simp only [toModel, ToolsModel.mk.injEq, true_and]
  funext t'
  by_cases ht : t' = t
  · subst ht
    simp
  · simp [Function.update_noteq ht]

/-- What every reachable state keeps: a consistent registry, and each queue at its capacity
with its cursors in range. -/
structure Invariant (ids : ToolsIds) (capacity : Nat → Nat) (system : ToolsSystem) : Prop where
  consistent : system.registry.Consistent ids
  capacity_eq : ∀ t, (system.queues t).capacity = capacity t
  cursors : ∀ t, CursorsInRange (system.queues t)

variable {ids : ToolsIds} {capacity : Nat → Nat} {system : ToolsSystem}

/-- Replacing one queue by one at the same capacity with its cursors in range keeps the
invariant. -/
theorem Invariant.update (hinv : system.Invariant ids capacity) (t : Nat)
    {next : UvmToolsQueue ReportEntry} (hcapacity : next.capacity = capacity t)
    (hcursors : CursorsInRange next) :
    { system with queues := Function.update system.queues t next }.Invariant ids capacity where
  consistent := hinv.consistent
  capacity_eq t' := by
    by_cases ht : t' = t
    · subst ht
      simpa using hcapacity
    · simpa [Function.update_noteq ht] using hinv.capacity_eq t'
  cursors t' := by
    by_cases ht : t' = t
    · subst ht
      simpa using hcursors
    · simpa [Function.update_noteq ht] using hinv.cursors t'

end ToolsSystem

/-! ## What a run delivers -/

section Delivery

variable {ids : ToolsIds} {rids : ReportIds ids}

/-- The entry an event reports, if it is a report. -/
def ToolsEvent.reported (rids : ReportIds ids) : ToolsEvent → Option ReportEntry
  | .report call => some (call.entry rids)
  | _ => none

/-- The records an event hands to the consumer of tracker `t`. -/
def ToolsEvent.releasedOn (t : Nat) : ToolsEvent → List ReportEntry
  | .consumer t' (.released records) => if t' = t then records else []
  | _ => []

/-- The entries of the reports of a run, in order. -/
def reportEntries (rids : ReportIds ids) (events : List ToolsEvent) : List ReportEntry :=
  events.filterMap (ToolsEvent.reported rids)

/-- The records the consumer of tracker `t` released along a run, in order. -/
def releasedOn (t : Nat) (events : List ToolsEvent) : List ReportEntry :=
  events.flatMap (ToolsEvent.releasedOn t)

@[simp] theorem reportEntries_nil : reportEntries rids [] = [] := rfl

@[simp] theorem releasedOn_nil (t : Nat) : releasedOn t [] = [] := rfl

@[simp] theorem reportEntries_append_singleton (events : List ToolsEvent) (event : ToolsEvent) :
    reportEntries rids (events ++ [event]) =
      reportEntries rids events ++ (event.reported rids).toList := by
  cases h : event.reported rids <;> simp [reportEntries, List.filterMap_append, h]

@[simp] theorem releasedOn_append_singleton (t : Nat) (events : List ToolsEvent)
    (event : ToolsEvent) :
    releasedOn t (events ++ [event]) = releasedOn t events ++ event.releasedOn t := by
  simp [releasedOn]

/-- A release hands the records it takes from the front of a FIFO to that FIFO's consumer
and to no other. -/
theorem releasedOn_release (fifos : Nat → BoundedFifo ReportEntry) (labels : List ToolsEvent)
    (t t' n : Nat) :
    releasedOn t (labels ++ [.consumer t' (.released ((fifos t').items.take n))]) ++
        (Function.update fifos t' { fifos t' with items := (fifos t').items.drop n } t).items =
      releasedOn t labels ++ (fifos t).items := by
  by_cases ht : t' = t
  · subst ht
    simp [ToolsEvent.releasedOn, List.append_assoc]
  · simp [ToolsEvent.releasedOn, ht, Function.update_noteq (Ne.symm ht)]

/-- Along every run of the model, what the consumer of tracker `t` released followed by what
its FIFO holds is what it held followed by some of the run's reported entries, in report
order: no entry is delivered twice, none out of order, and none that was not reported. -/
theorem ToolsModel.released_append_items {capacity : Nat → Nat} {model model' : ToolsModel}
    {events : List ToolsEvent} (run : Steps (ToolsModel.Step ids rids capacity) model events model')
    (t : Nat) :
    ∃ stored, stored.Sublist (reportEntries rids events) ∧
      releasedOn t events ++ (model'.fifos t).items = (model.fifos t).items ++ stored := by
  induction run with
  | refl => exact ⟨[], List.nil_sublist _, by simp⟩
  | @step _ _ labels label _ transition inductionHypothesis =>
      obtain ⟨stored, hsub, hitems⟩ := inductionHypothesis
      have hkeep : stored.Sublist (reportEntries rids (labels ++ [label])) := by
        rw [reportEntries_append_singleton]
        exact hsub.trans (List.sublist_append_left _ _)
      cases transition with
      | registry step => exact ⟨stored, hkeep, by simpa [ToolsEvent.releasedOn] using hitems⟩
      | report call hasserts =>
          simp only [releasedOn_append_singleton, ToolsEvent.releasedOn, List.append_nil,
            ToolsModel.offer]
          split_ifs
          · unfold BoundedFifo.push
            split_ifs
            · refine ⟨stored ++ [call.entry rids], ?_, ?_⟩
              · simpa [ToolsEvent.reported] using hsub.append (List.Sublist.refl [call.entry rids])
              · rw [← List.append_assoc, hitems, List.append_assoc]
            · exact ⟨stored, hkeep, hitems⟩
          · exact ⟨stored, hkeep, hitems⟩
      | release t' enough => exact ⟨stored, hkeep, (releasedOn_release _ _ t t' _).trans hitems⟩
      | advance t' n => exact ⟨stored, hkeep, by simpa [ToolsEvent.releasedOn] using hitems⟩

/-- Along every run of the model from a consistent registry where tracker `t` is destroyed,
the tracker stays destroyed and its FIFO takes no entry: its consumer can only release what
the FIFO held at the start. -/
theorem ToolsModel.released_of_destroyed {capacity : Nat → Nat} {model model' : ToolsModel}
    {events : List ToolsEvent} (run : Steps (ToolsModel.Step ids rids capacity) model events model')
    {t : Nat} (hc : model.registry.Consistent ids) (hnone : model.registry.trackers t = none)
    (hlt : t < model.registry.trackerCount) :
    (model'.registry.Consistent ids ∧ model'.registry.trackers t = none ∧
        t < model'.registry.trackerCount) ∧
      releasedOn t events ++ (model'.fifos t).items = (model.fifos t).items := by
  induction run with
  | refl => exact ⟨⟨hc, hnone, hlt⟩, by simp⟩
  | @step middle _ _ _ _ transition inductionHypothesis =>
      obtain ⟨⟨hc', hnone', hlt'⟩, hitems⟩ := inductionHypothesis
      cases transition with
      | registry step =>
          exact ⟨⟨step.consistent hc', step.keeps_destroyed hc' hnone' hlt'⟩,
            by simpa [ToolsEvent.releasedOn] using hitems⟩
      | report call hasserts =>
          have hunsubscribed :
              ¬Registry.SubscribedQueue ids middle.registry call.vaSpace
                (call.entry rids).eventType t :=
            fun ⟨_, hsome, _⟩ => by simp [hnone'] at hsome
          exact ⟨⟨hc', hnone', hlt'⟩,
            by simpa [ToolsEvent.releasedOn, ToolsModel.offer, hunsubscribed] using hitems⟩
      | release t' enough =>
          exact ⟨⟨hc', hnone', hlt'⟩, (releasedOn_release _ _ t t' _).trans hitems⟩
      | advance t' n =>
          exact ⟨⟨hc', hnone', hlt'⟩, by simpa [ToolsEvent.releasedOn] using hitems⟩

end Delivery

/-! ## The refinement -/

namespace BoundedFifo.Step

variable {capacity : Nat} {fifo fifo' : BoundedFifo ReportEntry}

/-- A release of the abstract FIFO takes records from its front. -/
theorem released_inv {records : List ReportEntry}
    (step : BoundedFifo.Step capacity fifo (.released records) fifo') :
    ∃ n, n ≤ fifo.items.length ∧ records = fifo.items.take n ∧
      fifo' = { fifo with items := fifo.items.drop n } := by
  cases step with
  | pop _ enough => exact ⟨_, enough, rfl, rfl⟩

/-- Moving `get_ahead` leaves the abstract FIFO as it was. -/
theorem advanced_inv {n : Nat} (step : BoundedFifo.Step capacity fifo (.advancedGetAhead n) fifo') :
    fifo' = fifo := by
  cases step
  rfl

end BoundedFifo.Step

section Refinement

variable {ids : ToolsIds} {rids : ReportIds ids} {capacity : Nat → Nat}
  (hring : ∀ t, RingBound (capacity t))
include hring

/-- A report that passes its assertions enqueues its entry on each subscribed queue: each
queue keeps the invariant, and its FIFO takes one push exactly when it is subscribed. -/
theorem ToolsStep.report_refines {system : ToolsSystem} (hinv : system.Invariant ids capacity)
    (call : ReportCall) {queues : Nat → UvmToolsQueue ReportEntry}
    (hrun : call.run ids rids system.registry system.queues = .ok queues) :
    call.asserts = true ∧ { system with queues := queues }.Invariant ids capacity ∧
      { system with queues := queues }.toModel =
        { system.toModel with fifos :=
            (system.toModel.offer ids (fun t => capacity t - 1) call.vaSpace
              (call.entry rids)) } := by
  rw [call.run_eq_recordReport, hinv.consistent.recordReport_eq _ _ _
    (call.eventType_entry_lt rids)] at hrun
  cases hasserts : call.asserts <;> rw [hasserts] at hrun
  · cases hrun
  · cases hrun
    have hqueue := fun t => (hinv.capacity_eq t).symm ▸ hring t
    refine ⟨rfl, ⟨hinv.consistent, fun t => ?_, fun t => ?_⟩, ?_⟩
    · dsimp only
      split_ifs
      · rw [enqueueEvent_capacity, hinv.capacity_eq]
      · exact hinv.capacity_eq t
    · dsimp only
      split_ifs
      · exact cursorsInRange_enqueueEvent (hqueue t) (hinv.cursors t)
      · exact hinv.cursors t
    · simp only [ToolsSystem.toModel, ToolsModel.mk.injEq, true_and]
      funext t
      simp only [ToolsModel.offer]
      split_ifs
      · rw [toFifo_enqueueEvent (hqueue t) (hinv.cursors t), hinv.capacity_eq]
      · rfl

/-- Every step of the tools keeps the invariant and is a step of the model, with FIFOs of
capacity `C - 1`. -/
theorem ToolsStep.refines {system next : ToolsSystem} {event : ToolsEvent}
    (hinv : system.Invariant ids capacity) (step : ToolsStep ids rids system event next) :
    next.Invariant ids capacity ∧
      ToolsModel.Step ids rids (fun t => capacity t - 1) system.toModel event next.toModel := by
  cases step with
  | registry step =>
      exact ⟨⟨step.consistent hinv.consistent, hinv.capacity_eq, hinv.cursors⟩, .registry step⟩
  | report call hrun =>
      obtain ⟨hasserts, hnext, hmodel⟩ := ToolsStep.report_refines hring hinv call hrun
      rw [hmodel]
      exact ⟨hnext, .report call hasserts⟩
  | release t consumer =>
      obtain ⟨⟨hcapacity, hcursors⟩, hfifo⟩ := QueueStep.matched (hring t)
        ⟨hinv.capacity_eq t, hinv.cursors t⟩ (QueueStep.release consumer)
      obtain ⟨n, enough, rfl, hpopped⟩ := hfifo.released_inv
      refine ⟨hinv.update t hcapacity hcursors, ?_⟩
      rw [ToolsSystem.toModel_update, hpopped]
      exact .release t enough
  | advance t consumer =>
      obtain ⟨⟨hcapacity, hcursors⟩, hfifo⟩ := QueueStep.matched (hring t)
        ⟨hinv.capacity_eq t, hinv.cursors t⟩ (QueueStep.advance consumer)
      refine ⟨hinv.update t hcapacity hcursors, ?_⟩
      rw [ToolsSystem.toModel_update, hfifo.advanced_inv]
      exact (congrArg (fun fifos => ToolsModel.Step ids rids _ system.toModel _
        { system.toModel with fifos := fifos }) (Function.update_eq_self t _)).mpr
        (.advance t _)

end Refinement

/-- A run of the registry is a run of the tools that leaves the queues alone. -/
theorem ToolsStep.of_registry_run {ids : ToolsIds} {rids : ReportIds ids}
    {registry registry' : Registry} {events : List RegistryEvent}
    (run : Steps (RegistryStep ids) registry events registry')
    (queues : Nat → UvmToolsQueue ReportEntry) :
    Steps (ToolsStep ids rids) ⟨registry, queues⟩ (events.map .registry) ⟨registry', queues⟩ := by
  induction run with
  | refl => exact .refl _
  | step _ transition inductionHypothesis =>
      rw [List.map_append]
      exact inductionHypothesis.step (.registry transition)

variable {ids : ToolsIds} {rids : ReportIds ids}

/-- A run of the tools from the initial registry and queues with their cursors in range keeps
the invariant and is a run of the model. -/
theorem ToolsStep.run_simulates {queues : Nat → UvmToolsQueue ReportEntry}
    (hring : ∀ t, RingBound (queues t).capacity) (hcursors : ∀ t, CursorsInRange (queues t))
    {events : List ToolsEvent} {system : ToolsSystem}
    (run : Steps (ToolsStep ids rids) ⟨initialRegistry, queues⟩ events system) :
    system.Invariant ids (fun t => (queues t).capacity) ∧
      Steps (ToolsModel.Step ids rids fun t => (queues t).capacity - 1)
        ⟨initialRegistry, fun t => (queues t).toFifo⟩ events system.toModel :=
  Steps.simulate (ToolsStep.refines hring)
    ⟨Registry.consistent_initialRegistry ids, fun _ => rfl, hcursors⟩ run

/-- Every run of the tools from the initial registry and queues of capacity `C = 2 ^ k` with
their cursors in range, interleaving tracker creations, attaches and destroys, reports, and
consumers that follow the cursor protocol, is a run of the model with FIFOs of capacity
`C - 1` over the rings' windows and drop counters; and the registry is consistent at its
end. -/
theorem toolsSystem_refines_model {queues : Nat → UvmToolsQueue ReportEntry}
    (hring : ∀ t, RingBound (queues t).capacity) (hcursors : ∀ t, CursorsInRange (queues t))
    {events : List ToolsEvent} {system : ToolsSystem}
    (run : Steps (ToolsStep ids rids) ⟨initialRegistry, queues⟩ events system) :
    system.registry.Consistent ids ∧
      Steps (ToolsModel.Step ids rids fun t => (queues t).capacity - 1)
        ⟨initialRegistry, fun t => (queues t).toFifo⟩ events system.toModel :=
  have simulation := ToolsStep.run_simulates hring hcursors run
  ⟨simulation.1.consistent, simulation.2⟩

/-- Along every such run, what the consumer of each tracker released, followed by what its
ring still holds, is what the ring held at the start followed by some of the run's reported
entries in the order they were reported: a consumer never sees a record twice, out of order,
or one that no report made. -/
theorem toolsSystem_delivers_in_order {queues : Nat → UvmToolsQueue ReportEntry}
    (hring : ∀ t, RingBound (queues t).capacity) (hcursors : ∀ t, CursorsInRange (queues t))
    {events : List ToolsEvent} {system : ToolsSystem}
    (run : Steps (ToolsStep ids rids) ⟨initialRegistry, queues⟩ events system) (t : Nat) :
    ∃ stored, stored.Sublist (reportEntries rids events) ∧
      releasedOn t events ++ (system.queues t).window = (queues t).window ++ stored :=
  ToolsModel.released_append_items (ToolsStep.run_simulates hring hcursors run).2 t

/-- Once tracker `t` is destroyed, nothing that runs after it, however the steps interleave,
puts a record on its ring: its consumer can only release what the ring held when it was
destroyed. -/
theorem destroyed_queue_only_drains {queues : Nat → UvmToolsQueue ReportEntry}
    (hring : ∀ t, RingBound (queues t).capacity) (hcursors : ∀ t, CursorsInRange (queues t))
    {events events' : List ToolsEvent} {before after system : ToolsSystem} {t : Nat}
    {faultStatus migrationStatus : NvStatus}
    (run : Steps (ToolsStep ids rids) ⟨initialRegistry, queues⟩ events before)
    (hdestroy : ToolsStep ids rids before (.registry (.destroyed t faultStatus migrationStatus))
      after)
    (rest : Steps (ToolsStep ids rids) after events' system) :
    releasedOn t events' ++ (system.queues t).window = (after.queues t).window := by
  have hbefore := (ToolsStep.run_simulates hring hcursors run).1
  have hafter := (ToolsStep.run_simulates hring hcursors (run.step hdestroy)).1
  have hgone : after.registry.trackers t = none ∧ t < after.registry.trackerCount := by
    cases hdestroy with
    | registry step => exact step.destroyed hbefore.consistent
  exact (ToolsModel.released_of_destroyed (Steps.simulate (ToolsStep.refines hring) hafter rest).2
    hafter.consistent hgone.1 hgone.2).2

/-- Rings of four slots, empty, for every tracker index. -/
def freshQueues : Nat → UvmToolsQueue ReportEntry := fun _ => freshQueue 4 1

theorem freshQueues_ringBound (t : Nat) : RingBound (freshQueues t).capacity :=
  ringBound_of_pow (by decide : 1 ≤ 2) (show (4 : NvU32).toNat = 2 ^ 2 from rfl)

theorem freshQueues_cursorsInRange (t : Nat) : CursorsInRange (freshQueues t) :=
  (⟨by decide, by decide, by decide⟩ : CursorsInRange (freshQueue 4 1 : UvmToolsQueue ReportEntry))

/-- A queue tracker of collector 0 subscribed to thrashing, then a thrashing report. -/
def thrashingEvents : List ToolsEvent :=
  (queueSubscribedEvents (BitVec.twoPow 64 6)).map .registry ++ [.report sampleThrashing]

/-- The tools can run `thrashingEvents` over `freshQueues`. -/
theorem thrashingEvents_run : ∃ queues, Steps (ToolsStep reportSampleIds sampleReportIds)
    ⟨initialRegistry, freshQueues⟩ thrashingEvents
      ⟨queueSubscribed reportSampleIds (BitVec.twoPow 64 6), queues⟩ :=
  have hc := reachable_consistent (queueSubscribed_run reportSampleIds (BitVec.twoPow 64 6))
  have hrun := (sampleThrashing.run_eq_recordReport sampleReportIds _ freshQueues).trans
    ((hc.recordReport_eq _ _ _ (sampleThrashing.eventType_entry_lt sampleReportIds) _).trans
      (if_pos (by decide)))
  ⟨_, (ToolsStep.of_registry_run (queueSubscribed_run _ _) freshQueues).step
    (ToolsStep.report sampleThrashing hrun)⟩

/-- The run of `thrashingEvents` over `freshQueues`, and what the refinement gives of it. -/
theorem toolsSystem_refines_model_thrashing :
    ∃ system, Steps (ToolsStep reportSampleIds sampleReportIds) ⟨initialRegistry, freshQueues⟩
        thrashingEvents system ∧
      system.registry.Consistent reportSampleIds ∧
      Steps (ToolsModel.Step reportSampleIds sampleReportIds fun t => (freshQueues t).capacity - 1)
        ⟨initialRegistry, fun t => (freshQueues t).toFifo⟩ thrashingEvents system.toModel :=
  have ⟨_, run⟩ := thrashingEvents_run
  ⟨_, run, toolsSystem_refines_model freshQueues_ringBound freshQueues_cursorsInRange run⟩

/-- The run of `thrashingEvents` over `freshQueues`, and what it delivers to tracker 0. -/
theorem toolsSystem_delivers_in_order_thrashing :
    ∃ system, Steps (ToolsStep reportSampleIds sampleReportIds) ⟨initialRegistry, freshQueues⟩
        thrashingEvents system ∧
      ∃ stored, stored.Sublist (reportEntries sampleReportIds thrashingEvents) ∧
        releasedOn 0 thrashingEvents ++ (system.queues 0).window =
          (freshQueues 0).window ++ stored :=
  have ⟨_, run⟩ := thrashingEvents_run
  ⟨_, run, toolsSystem_delivers_in_order freshQueues_ringBound freshQueues_cursorsInRange run 0⟩

/-- Tracker 0 of `thrashingEvents` destroyed, then a second thrashing report: tracker 0's ring
keeps what it held. -/
theorem destroyed_queue_only_drains_thrashing :
    ∃ before after system,
      Steps (ToolsStep reportSampleIds sampleReportIds) ⟨initialRegistry, freshQueues⟩
        thrashingEvents before ∧
      ToolsStep reportSampleIds sampleReportIds before (.registry (.destroyed 0 .ok .ok)) after ∧
      Steps (ToolsStep reportSampleIds sampleReportIds) after [.report sampleThrashing] system ∧
      releasedOn 0 [.report sampleThrashing] ++ (system.queues 0).window =
        (after.queues 0).window := by
  obtain ⟨queues, run⟩ := thrashingEvents_run
  obtain ⟨registry, hdestroy, -⟩ := queueSubscribed_destroyed reportSampleIds (BitVec.twoPow 64 6)
  have hc := reachable_consistent ((queueSubscribed_run reportSampleIds _).step hdestroy)
  have hrun := (sampleThrashing.run_eq_recordReport sampleReportIds registry queues).trans
    ((hc.recordReport_eq _ _ _ (sampleThrashing.eventType_entry_lt sampleReportIds) _).trans
      (if_pos (by decide)))
  have rest := Steps.single
    (@ToolsStep.report reportSampleIds sampleReportIds ⟨registry, queues⟩ _ sampleThrashing hrun)
  exact ⟨_, _, _, run, .registry hdestroy, rest, destroyed_queue_only_drains
    freshQueues_ringBound freshQueues_cursorsInRange run (.registry hdestroy) rest⟩

end UvmTools
