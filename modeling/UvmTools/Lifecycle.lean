import UvmTools.Tracker.Broadcast

/-!
# Loading and unloading the tools layer

`uvm_tools_init` creates the file's six slab caches one after another, starts the worker of
`g_tools_queue` and creates the device file `/dev/nvidia-uvm-tools`. Each failure jumps to a
label that undoes what came before: `err_stop_thread` stops the worker, `err_cache_destroy`
runs `_uvm_tools_destroy_cache_all`, which destroys each cache whose pointer is set and clears
the pointer (`kmem_cache_destroy_safe`), so it is safe whatever subset of the caches exists.
`uvm_tools_exit` stops the worker, asserts that no event type is counted and no collector is
listed, and destroys the caches.

The calls outside this file are `InitCalls`: whether each cache creation succeeds, the value
`nv_kthread_q_init` returns, whether allocating the `open` closure succeeds (its `assert` is
fatal), and whether `create_special_file` succeeds. `CachesAccounted` is the invariant that
ties the cache pointers to the log: a pointer is set exactly when its cache has been created
once more than it has been destroyed.
-/

namespace UvmTools

/-- The slab caches of the file. -/
inductive ToolsCache where
  /-- `g_tools_event_tracker_cache`. -/
  | eventTracker
  /-- `g_tools_block_migration_data_cache`. -/
  | blockMigrationData
  /-- `g_tools_migration_data_cache`. -/
  | migrationData
  /-- `g_tools_replay_data_cache`. -/
  | replayData
  /-- `g_tools_block_map_remote_data_cache`. -/
  | blockMapRemoteData
  /-- `g_tools_map_remote_data_cache`. -/
  | mapRemoteData
  deriving DecidableEq, Repr

/-- The caches in the order `uvm_tools_init` creates them, which is also the order
`_uvm_tools_destroy_cache_all` destroys them in. -/
def toolsCaches : List ToolsCache :=
  [.eventTracker, .blockMigrationData, .migrationData, .replayData, .blockMapRemoteData,
    .mapRemoteData]

theorem mem_toolsCaches (cache : ToolsCache) : cache ∈ toolsCaches := by
  cases cache <;> decide

theorem nodup_toolsCaches : toolsCaches.Nodup := by
  decide

/-- What loading and unloading do that outlives the call, oldest first. -/
inductive LifecycleEvent where
  /-- A successful `NV_KMEM_CACHE_CREATE`. -/
  | createCache (cache : ToolsCache)
  /-- `kmem_cache_destroy` of a cache. -/
  | destroyCache (cache : ToolsCache)
  /-- A successful `nv_kthread_q_init(&g_tools_queue, ...)`. -/
  | startQueue
  /-- `nv_kthread_q_stop(&g_tools_queue)`. -/
  | stopQueue
  deriving DecidableEq, Repr

/-- The globals loading and unloading touch: whether each cache pointer is set, whether the
worker of `g_tools_queue` runs, whether `/dev/nvidia-uvm-tools` exists, and the events so
far. -/
structure ToolsGlobals where
  caches : ToolsCache → Bool
  queueRunning : Bool
  deviceFile : Bool
  events : List LifecycleEvent

/-- At module load: every cache pointer NULL, no worker, no device file. -/
def ToolsGlobals.unloaded : ToolsGlobals :=
  ⟨fun _ => false, false, false, []⟩

/-- What the calls outside this file return to `uvm_tools_init`. -/
structure InitCalls where
  cacheCreated : ToolsCache → Bool
  kthreadQInit : Int
  closureAllocated : Bool
  specialFileCreated : Bool

/-- `ENOMEM`, as the kernel's `errno.h` defines it (it is not in this file). -/
def enomem : Int := 12

namespace ToolsGlobals

/-- `g_tools_<cache>_cache = NV_KMEM_CACHE_CREATE(...)`: the pointer is the new cache, or NULL
when the creation fails. -/
def kmemCacheCreate (globals : ToolsGlobals) (cache : ToolsCache) (created : Bool) :
    ToolsGlobals :=
  { globals with
    caches := Function.update globals.caches cache created
    events := if created then globals.events ++ [.createCache cache] else globals.events }

/-- `kmem_cache_destroy_safe(&g_tools_<cache>_cache)`: destroy the cache if the pointer is set,
and clear the pointer. -/
def kmemCacheDestroySafe (globals : ToolsGlobals) (cache : ToolsCache) : ToolsGlobals :=
  if globals.caches cache then
    { globals with
      caches := Function.update globals.caches cache false
      events := globals.events ++ [.destroyCache cache] }
  else globals

/-- The worker started by a successful `nv_kthread_q_init`. -/
def startQueue (globals : ToolsGlobals) : ToolsGlobals :=
  { globals with queueRunning := true, events := globals.events ++ [.startQueue] }

/-- `nv_kthread_q_stop(&g_tools_queue)`. -/
def nvKthreadQStop (globals : ToolsGlobals) : ToolsGlobals :=
  { globals with queueRunning := false, events := globals.events ++ [.stopQueue] }

@[simp] theorem events_startQueue (globals : ToolsGlobals) :
    globals.startQueue.events = globals.events ++ [.startQueue] := rfl

@[simp] theorem events_nvKthreadQStop (globals : ToolsGlobals) :
    globals.nvKthreadQStop.events = globals.events ++ [.stopQueue] := rfl

end ToolsGlobals

/-- `_uvm_tools_destroy_cache_all`: `kmem_cache_destroy_safe` of each cache, in order. -/
def uvmToolsDestroyCacheAll (globals : ToolsGlobals) : ToolsGlobals :=
  toolsCaches.foldl ToolsGlobals.kmemCacheDestroySafe globals

/-- The cache creations of `uvm_tools_init`, in order, each followed by its test: `false` with
the globals at the first that fails (`goto err_cache_destroy`). -/
def createCaches (calls : InitCalls) : List ToolsCache → ToolsGlobals → Bool × ToolsGlobals
  | [], globals => (true, globals)
  | cache :: caches, globals =>
      let globals := globals.kmemCacheCreate cache (calls.cacheCreated cache)
      if !calls.cacheCreated cache then (false, globals) else createCaches calls caches globals

/-- `uvm_tools_init(uvm_base_dev)`: the value it returns and the globals after it. -/
def uvmToolsInit (calls : InitCalls) (globals : ToolsGlobals) :
    Except Fault (Int × ToolsGlobals) :=
  let ret := -enomem
  match createCaches calls toolsCaches globals with
  | (false, globals) => .ok (ret, uvmToolsDestroyCacheAll globals)
  | (true, globals) =>
      let ret := calls.kthreadQInit
      if ret < 0 then .ok (ret, uvmToolsDestroyCacheAll globals)
      else
        let globals := globals.startQueue
        if !calls.closureAllocated then .error .assertion
        else if !calls.specialFileCreated then
          .ok (ret, uvmToolsDestroyCacheAll globals.nvKthreadQStop)
        else .ok (ret, { globals with deviceFile := true })

/-- `uvm_tools_exit()`, with the registry its assertions read. -/
def uvmToolsExit (ids : ToolsIds) (registry : Registry) (globals : ToolsGlobals) :
    Except Fault ToolsGlobals :=
  let globals := globals.nvKthreadQStop
  (registry.uvmToolsExitAsserts ids).map fun _ => uvmToolsDestroyCacheAll globals

/-! ### The accounting of the caches -/

namespace ToolsGlobals

/-- A cache pointer is set exactly when its cache has been created once more than it has been
destroyed. -/
def CachesAccounted (globals : ToolsGlobals) : Prop :=
  ∀ cache, globals.events.count (.createCache cache) =
    globals.events.count (.destroyCache cache) + if globals.caches cache then 1 else 0

/-- Nothing is left: no cache pointer set and the worker stopped. -/
def Released (globals : ToolsGlobals) : Prop :=
  (∀ cache, globals.caches cache = false) ∧ globals.queueRunning = false

/-- Everything is in place: every cache pointer set, the worker running and the device file
created. -/
def Loaded (globals : ToolsGlobals) : Prop :=
  (∀ cache, globals.caches cache = true) ∧ globals.queueRunning = true ∧ globals.deviceFile = true

variable {globals : ToolsGlobals}

theorem CachesAccounted.kmemCacheCreate (haccounted : globals.CachesAccounted) {cache : ToolsCache}
    (hnull : globals.caches cache = false) (created : Bool) :
    (globals.kmemCacheCreate cache created).CachesAccounted := by
  intro other
  have hother := haccounted other
  by_cases hsame : other = cache
  · subst hsame
    rw [hnull] at hother
    cases created <;> simp [ToolsGlobals.kmemCacheCreate, List.count_append, hother]
  · cases created <;> simp [ToolsGlobals.kmemCacheCreate, List.count_append, hother, hsame]

theorem CachesAccounted.kmemCacheDestroySafe (haccounted : globals.CachesAccounted)
    (cache : ToolsCache) : (globals.kmemCacheDestroySafe cache).CachesAccounted := by
  unfold ToolsGlobals.kmemCacheDestroySafe
  by_cases hset : globals.caches cache = true
  · rw [if_pos hset]
    intro other
    have hother := haccounted other
    by_cases hsame : other = cache
    · subst hsame
      rw [hset] at hother
      simp [List.count_append, hother]
    · simp [List.count_append, hother, hsame]
  · rwa [if_neg hset]

theorem CachesAccounted.startQueue (haccounted : globals.CachesAccounted) :
    globals.startQueue.CachesAccounted := fun cache => by
  simpa [ToolsGlobals.startQueue, List.count_append] using haccounted cache

theorem CachesAccounted.nvKthreadQStop (haccounted : globals.CachesAccounted) :
    globals.nvKthreadQStop.CachesAccounted := fun cache => by
  simpa [ToolsGlobals.nvKthreadQStop, List.count_append] using haccounted cache

/-- With no cache pointer set, each cache has been destroyed as often as created. -/
theorem CachesAccounted.balanced (haccounted : globals.CachesAccounted)
    (hreleased : ∀ cache, globals.caches cache = false) (cache : ToolsCache) :
    globals.events.count (.createCache cache) = globals.events.count (.destroyCache cache) := by
  simpa [hreleased cache] using haccounted cache

end ToolsGlobals

/-! ### Destroying the caches -/

section DestroyAll

variable (globals : ToolsGlobals)

theorem caches_foldl_kmemCacheDestroySafe (caches : List ToolsCache) (cache : ToolsCache) :
    (caches.foldl ToolsGlobals.kmemCacheDestroySafe globals).caches cache =
      if cache ∈ caches then false else globals.caches cache := by
  induction caches generalizing globals with
  | nil => simp
  | cons first rest ih =>
      rw [List.foldl_cons, ih]
      unfold ToolsGlobals.kmemCacheDestroySafe
      by_cases hfirst : cache = first
      · subst hfirst
        split_ifs <;> simp_all
      · split_ifs <;> simp_all [Function.update_noteq hfirst]

theorem frame_kmemCacheDestroySafe (cache : ToolsCache) :
    (globals.kmemCacheDestroySafe cache).queueRunning = globals.queueRunning ∧
      (globals.kmemCacheDestroySafe cache).deviceFile = globals.deviceFile ∧
      ∃ destroyed : List ToolsCache,
        (globals.kmemCacheDestroySafe cache).events = globals.events ++ destroyed.map .destroyCache := by
  unfold ToolsGlobals.kmemCacheDestroySafe
  by_cases hset : globals.caches cache = true
  · rw [if_pos hset]
    exact ⟨rfl, rfl, [cache], rfl⟩
  · rw [if_neg hset]
    exact ⟨rfl, rfl, [], by simp⟩

theorem frame_foldl_kmemCacheDestroySafe (caches : List ToolsCache) :
    (caches.foldl ToolsGlobals.kmemCacheDestroySafe globals).queueRunning = globals.queueRunning ∧
      (caches.foldl ToolsGlobals.kmemCacheDestroySafe globals).deviceFile = globals.deviceFile ∧
      ∃ destroyed : List ToolsCache,
        (caches.foldl ToolsGlobals.kmemCacheDestroySafe globals).events =
          globals.events ++ destroyed.map .destroyCache := by
  induction caches generalizing globals with
  | nil => exact ⟨rfl, rfl, [], by simp⟩
  | cons first rest ih =>
      obtain ⟨hqueue, hfile, destroyed, hevents⟩ := ih (globals.kmemCacheDestroySafe first)
      obtain ⟨hqueue', hfile', destroyed', hevents'⟩ := frame_kmemCacheDestroySafe globals first
      rw [List.foldl_cons]
      exact ⟨hqueue.trans hqueue', hfile.trans hfile', destroyed' ++ destroyed,
        by rw [hevents, hevents', List.map_append, List.append_assoc]⟩

theorem ToolsGlobals.CachesAccounted.foldl_kmemCacheDestroySafe {globals : ToolsGlobals}
    (haccounted : globals.CachesAccounted) (caches : List ToolsCache) :
    (caches.foldl ToolsGlobals.kmemCacheDestroySafe globals).CachesAccounted := by
  induction caches generalizing globals with
  | nil => exact haccounted
  | cons first rest ih => exact ih (haccounted.kmemCacheDestroySafe first)

/-- `_uvm_tools_destroy_cache_all` clears every cache pointer, keeps the accounting, and
touches neither the worker nor the device file. -/
theorem uvmToolsDestroyCacheAll_spec {globals : ToolsGlobals} (haccounted : globals.CachesAccounted) :
    (∀ cache, (uvmToolsDestroyCacheAll globals).caches cache = false) ∧
      (uvmToolsDestroyCacheAll globals).CachesAccounted ∧
      (uvmToolsDestroyCacheAll globals).queueRunning = globals.queueRunning ∧
      (uvmToolsDestroyCacheAll globals).deviceFile = globals.deviceFile ∧
      ∃ destroyed : List ToolsCache,
        (uvmToolsDestroyCacheAll globals).events = globals.events ++ destroyed.map .destroyCache := by
  obtain ⟨hqueue, hfile, hevents⟩ := frame_foldl_kmemCacheDestroySafe globals toolsCaches
  refine ⟨fun cache => ?_, haccounted.foldl_kmemCacheDestroySafe toolsCaches, hqueue, hfile,
    hevents⟩
  rw [uvmToolsDestroyCacheAll, caches_foldl_kmemCacheDestroySafe, if_pos (mem_toolsCaches cache)]

end DestroyAll

/-! ### Creating the caches -/

/-- The creation chain stops at the first cache whose creation fails and succeeds exactly when
every creation does. Where the pointers it sets were NULL, it keeps the accounting. It sets the
pointer of each cache it creates and of no other cache, logs only creations, and touches
neither the worker nor the device file. -/
theorem createCaches_spec {calls : InitCalls} {caches : List ToolsCache}
    {globals next : ToolsGlobals} {ok : Bool} (h : createCaches calls caches globals = (ok, next))
    (hnodup : caches.Nodup) (hnull : ∀ cache ∈ caches, globals.caches cache = false)
    (haccounted : globals.CachesAccounted) :
    next.CachesAccounted ∧ next.queueRunning = globals.queueRunning ∧
      next.deviceFile = globals.deviceFile ∧
      (∃ created : List ToolsCache, next.events = globals.events ++ created.map .createCache) ∧
      (ok = true ↔ ∀ cache ∈ caches, calls.cacheCreated cache = true) ∧
      (ok = true → ∀ cache ∈ caches, next.caches cache = true) ∧
      (∀ cache, cache ∉ caches → next.caches cache = globals.caches cache) := by
  induction caches generalizing globals with
  | nil =>
      cases h
      exact ⟨haccounted, rfl, rfl, ⟨[], by simp⟩, by simp, by simp, fun _ _ => rfl⟩
  | cons first rest ih =>
      obtain ⟨hfirst, hrest⟩ := List.nodup_cons.mp hnodup
      have hfirstNull := hnull first (.head _)
      unfold createCaches at h
      by_cases hcreated : calls.cacheCreated first = true
      · rw [if_neg (by simp [hcreated])] at h
        have hcreate : ∀ cache, cache ≠ first →
            (globals.kmemCacheCreate first (calls.cacheCreated first)).caches cache =
              globals.caches cache := fun cache hne => Function.update_noteq hne _ _
        obtain ⟨haccounted', hqueue, hfile, ⟨created, hevents⟩, hok, hset, hframe⟩ :=
          ih h hrest (fun cache hcache => by
            rw [hcreate cache (fun heq => hfirst (heq ▸ hcache))]
            exact hnull cache (.tail _ hcache))
            (haccounted.kmemCacheCreate hfirstNull _)
        refine ⟨haccounted', hqueue, hfile, ⟨first :: created, ?_⟩, ?_, ?_, ?_⟩
        · rw [hevents]
          simp [ToolsGlobals.kmemCacheCreate, hcreated]
        · simp [hok, hcreated]
        · intro hokTrue cache hcache
          rcases List.mem_cons.mp hcache with rfl | hcache
          · rw [hframe _ hfirst]
            simp [ToolsGlobals.kmemCacheCreate, hcreated]
          · exact hset hokTrue cache hcache
        · intro cache hcache
          rw [hframe cache (fun hmem => hcache (.tail _ hmem)),
            hcreate cache (fun heq => hcache (heq ▸ List.mem_cons_self first rest))]
      · rw [if_pos (by simpa using hcreated)] at h
        cases h
        rw [Bool.not_eq_true] at hcreated
        refine ⟨haccounted.kmemCacheCreate hfirstNull _, rfl, rfl, ⟨[], ?_⟩, ?_, by simp, ?_⟩
        · simp [ToolsGlobals.kmemCacheCreate, hcreated]
        · simp only [Bool.false_eq_true, false_iff, not_forall]
          exact ⟨first, .head _, by simp [hcreated]⟩
        · intro cache hcache
          have hne : cache ≠ first := fun heq => hcache (heq ▸ List.mem_cons_self first rest)
          exact Function.update_noteq hne _ _

/-! ### Loading and unloading -/

section Init

variable {calls : InitCalls} {globals next : ToolsGlobals} {ret : Int}

/-- The four ways `uvm_tools_init` can return: a cache creation failed; `nv_kthread_q_init`
failed; `create_special_file` failed; or everything succeeded. -/
theorem uvmToolsInit_cases (h : uvmToolsInit calls globals = .ok (ret, next)) :
    ∃ ok created, createCaches calls toolsCaches globals = (ok, created) ∧
      (ok = false ∧ ret = -enomem ∧ next = uvmToolsDestroyCacheAll created ∨
        ok = true ∧ ret = calls.kthreadQInit ∧ ret < 0 ∧ next = uvmToolsDestroyCacheAll created ∨
        ok = true ∧ ret = calls.kthreadQInit ∧ 0 ≤ ret ∧ calls.specialFileCreated = false ∧
          next = uvmToolsDestroyCacheAll created.startQueue.nvKthreadQStop ∨
        ok = true ∧ ret = calls.kthreadQInit ∧ 0 ≤ ret ∧ calls.specialFileCreated = true ∧
          next = { created.startQueue with deviceFile := true }) := by
  unfold uvmToolsInit at h
  rcases hcreate : createCaches calls toolsCaches globals with ⟨ok, created⟩
  refine ⟨ok, created, rfl, ?_⟩
  rw [hcreate] at h
  cases ok
  · cases h
    exact .inl ⟨rfl, rfl, rfl⟩
  dsimp only at h
  by_cases hqueue : calls.kthreadQInit < 0
  · rw [if_pos hqueue] at h
    cases h
    exact .inr (.inl ⟨rfl, rfl, hqueue, rfl⟩)
  rw [if_neg hqueue] at h
  by_cases hclosure : calls.closureAllocated = true
  · rw [if_neg (by simpa using hclosure)] at h
    by_cases hfile : calls.specialFileCreated = true
    · rw [if_neg (by simpa using hfile)] at h
      cases h
      exact .inr (.inr (.inr ⟨rfl, rfl, by omega, hfile, rfl⟩))
    · rw [if_pos (by simpa using hfile)] at h
      cases h
      exact .inr (.inr (.inl ⟨rfl, rfl, by omega, by simpa using hfile, rfl⟩))
  · rw [if_pos (by simpa using hclosure)] at h
    cases h

/-- Destroying the caches of a state whose worker is stopped and that has no device file
leaves nothing. -/
theorem ToolsGlobals.CachesAccounted.destroyAll_released (haccounted : globals.CachesAccounted)
    (hqueue : globals.queueRunning = false) (hfile : globals.deviceFile = false) :
    (uvmToolsDestroyCacheAll globals).CachesAccounted ∧ (uvmToolsDestroyCacheAll globals).Released ∧
      (uvmToolsDestroyCacheAll globals).deviceFile = false := by
  obtain ⟨hnull, haccounted', hqueue', hfile', -⟩ := uvmToolsDestroyCacheAll_spec haccounted
  exact ⟨haccounted', ⟨hnull, hqueue'.trans hqueue⟩, hfile'.trans hfile⟩

/-- From a state with nothing loaded, `uvm_tools_init` returns with everything loaded, or with
nothing: no cache pointer set, the worker stopped and no device file, each cache it created
destroyed again. -/
theorem uvmToolsInit_loads_or_releases (hreleased : globals.Released)
    (hfile : globals.deviceFile = false) (haccounted : globals.CachesAccounted)
    (h : uvmToolsInit calls globals = .ok (ret, next)) :
    next.CachesAccounted ∧ (next.Loaded ∨ next.Released ∧ next.deviceFile = false) := by
  obtain ⟨ok, created, hcreate, hcases⟩ := uvmToolsInit_cases h
  obtain ⟨hcreated, hqueue, hfile', -, -, hset, -⟩ :=
    createCaches_spec hcreate nodup_toolsCaches (fun cache _ => hreleased.1 cache) haccounted
  rcases hcases with ⟨-, -, rfl⟩ | ⟨-, -, -, rfl⟩ | ⟨-, -, -, -, rfl⟩ | ⟨hok, -, -, -, rfl⟩
  · obtain ⟨haccounted', hreleased', hfile''⟩ := hcreated.destroyAll_released
      (hqueue.trans hreleased.2) (hfile'.trans hfile)
    exact ⟨haccounted', .inr ⟨hreleased', hfile''⟩⟩
  · obtain ⟨haccounted', hreleased', hfile''⟩ := hcreated.destroyAll_released
      (hqueue.trans hreleased.2) (hfile'.trans hfile)
    exact ⟨haccounted', .inr ⟨hreleased', hfile''⟩⟩
  · obtain ⟨haccounted', hreleased', hfile''⟩ :=
      hcreated.startQueue.nvKthreadQStop.destroyAll_released rfl (hfile'.trans hfile)
    exact ⟨haccounted', .inr ⟨hreleased', hfile''⟩⟩
  · exact ⟨hcreated.startQueue, .inl ⟨fun cache => hset hok cache (mem_toolsCaches cache), rfl, rfl⟩⟩

/-- `uvm_tools_init` returns a negative value exactly when a cache creation or
`nv_kthread_q_init` fails. It returns a non-negative value without everything loaded exactly
when `create_special_file` fails: it then returns what `nv_kthread_q_init` returned, after
stopping the worker and destroying every cache. -/
theorem uvmToolsInit_ret (hreleased : globals.Released) (hfile : globals.deviceFile = false)
    (haccounted : globals.CachesAccounted) (h : uvmToolsInit calls globals = .ok (ret, next)) :
    (ret < 0 ↔ ¬((∀ cache, calls.cacheCreated cache = true) ∧ 0 ≤ calls.kthreadQInit)) ∧
      (0 ≤ ret ∧ ¬next.Loaded ↔ calls.specialFileCreated = false ∧
        (∀ cache, calls.cacheCreated cache = true) ∧ 0 ≤ calls.kthreadQInit) := by
  obtain ⟨ok, created, hcreate, hcases⟩ := uvmToolsInit_cases h
  obtain ⟨hcreated, -, hfile', -, hok, hset, -⟩ :=
    createCaches_spec hcreate nodup_toolsCaches (fun cache _ => hreleased.1 cache) haccounted
  have hall : ok = true ↔ ∀ cache, calls.cacheCreated cache = true :=
    hok.trans ⟨fun hmem cache => hmem cache (mem_toolsCaches cache), fun hall cache _ => hall cache⟩
  have henomem : -enomem < 0 := by decide
  rcases hcases with ⟨rfl, rfl, -⟩ | ⟨rfl, rfl, hneg, -⟩ | ⟨rfl, rfl, hnonneg, hspecial, rfl⟩ |
    ⟨rfl, rfl, hnonneg, hspecial, rfl⟩
  · have hnot : ¬∀ cache, calls.cacheCreated cache = true := fun hcache => by
      simpa using hall.mpr hcache
    exact ⟨iff_of_true henomem fun hboth => hnot hboth.1,
      iff_of_false (fun hboth => absurd hboth.1 (by omega)) fun hboth => hnot hboth.2.1⟩
  · exact ⟨iff_of_true hneg fun hboth => absurd hboth.2 (by omega),
      iff_of_false (fun hboth => absurd hboth.1 (by omega)) fun hboth => absurd hboth.2.2 (by omega)⟩
  · have hnull := (hcreated.startQueue.nvKthreadQStop.destroyAll_released rfl
      (hfile'.trans hfile)).2.1.1 ToolsCache.eventTracker
    refine ⟨iff_of_false (by omega) fun hnot => hnot ⟨hall.mp rfl, hnonneg⟩,
      iff_of_true ⟨hnonneg, fun hloaded => ?_⟩ ⟨hspecial, hall.mp rfl, hnonneg⟩⟩
    rw [hloaded.1] at hnull
    cases hnull
  · refine ⟨iff_of_false (by omega) fun hnot => hnot ⟨hall.mp rfl, hnonneg⟩,
      iff_of_false (fun hboth => hboth.2 ⟨fun cache => hset rfl cache (mem_toolsCaches cache), rfl,
        rfl⟩) fun hboth => ?_⟩
    rw [hspecial] at hboth
    cases hboth.1

end Init

theorem count_map_createCache_eq_zero (created : List ToolsCache) {event : LifecycleEvent}
    (hevent : ∀ cache, event ≠ .createCache cache) : (created.map .createCache).count event = 0 :=
  List.count_eq_zero.mpr fun hmem => by
    obtain ⟨cache, -, heq⟩ := List.mem_map.mp hmem
    exact hevent cache heq.symm

theorem count_map_destroyCache_eq_zero (destroyed : List ToolsCache) {event : LifecycleEvent}
    (hevent : ∀ cache, event ≠ .destroyCache cache) :
    (destroyed.map .destroyCache).count event = 0 :=
  List.count_eq_zero.mpr fun hmem => by
    obtain ⟨cache, -, heq⟩ := List.mem_map.mp hmem
    exact hevent cache heq.symm

section Exit

variable {ids : ToolsIds} {registry : Registry} {globals next : ToolsGlobals}

theorem uvmToolsExit_eq (h : uvmToolsExit ids registry globals = .ok next) :
    next = uvmToolsDestroyCacheAll globals.nvKthreadQStop := by
  unfold uvmToolsExit at h
  cases hasserts : registry.uvmToolsExitAsserts ids with
  | error fault =>
      rw [hasserts] at h
      cases h
  | ok _ =>
      rw [hasserts] at h
      cases h
      rfl

/-- `uvm_tools_exit` either fails its assertions, or stops the worker and leaves no cache pointer
set, each cache destroyed as often as it was created. It leaves the device file as it was. -/
theorem uvmToolsExit_releases (haccounted : globals.CachesAccounted)
    (h : uvmToolsExit ids registry globals = .ok next) :
    next.Released ∧
      (∀ cache, next.events.count (.createCache cache) = next.events.count (.destroyCache cache)) ∧
      next.deviceFile = globals.deviceFile := by
  rw [uvmToolsExit_eq h]
  obtain ⟨hnull, haccounted', hqueue, hfile, -⟩ :=
    uvmToolsDestroyCacheAll_spec haccounted.nvKthreadQStop
  exact ⟨⟨hnull, hqueue⟩, haccounted'.balanced hnull, hfile⟩

/-- A load that succeeds and then an unload that passes its assertions create each cache once
and destroy it once, and start the worker once and stop it once; the device file that
`uvm_tools_init` created is still there, since `uvm_tools_exit` removes none. -/
theorem uvmToolsInit_uvmToolsExit {calls : InitCalls} {ret : Int} {loaded : ToolsGlobals}
    (h : uvmToolsInit calls ToolsGlobals.unloaded = .ok (ret, loaded)) (hloaded : loaded.Loaded)
    (hexit : uvmToolsExit ids registry loaded = .ok next) :
    next.Released ∧ next.deviceFile = true ∧
      (∀ cache, next.events.count (.createCache cache) = 1 ∧
        next.events.count (.destroyCache cache) = 1) ∧
      next.events.count .startQueue = 1 ∧ next.events.count .stopQueue = 1 := by
  obtain ⟨ok, created, hcreate, hcases⟩ := uvmToolsInit_cases h
  obtain ⟨hcreated, -, -, ⟨creations, hevents⟩, -, -, -⟩ :=
    createCaches_spec hcreate nodup_toolsCaches (fun _ _ => rfl) (fun _ => rfl)
  have hnotLoaded : ∀ {released : ToolsGlobals}, released.CachesAccounted →
      ¬(uvmToolsDestroyCacheAll released).Loaded := fun haccounted hloaded => by
    have hnull := (uvmToolsDestroyCacheAll_spec haccounted).1 .eventTracker
    rw [hloaded.1] at hnull
    cases hnull
  rcases hcases with ⟨-, -, rfl⟩ | ⟨-, -, -, rfl⟩ | ⟨-, -, -, -, rfl⟩ | ⟨-, -, -, -, rfl⟩
  · exact absurd hloaded (hnotLoaded hcreated)
  · exact absurd hloaded (hnotLoaded hcreated)
  · exact absurd hloaded (hnotLoaded hcreated.startQueue.nvKthreadQStop)
  rw [uvmToolsExit_eq hexit]
  have haccounted : ToolsGlobals.CachesAccounted { created.startQueue with deviceFile := true } :=
    hcreated.startQueue
  obtain ⟨hnull, haccounted', hqueue, hfile, destroyed, hdestroyed⟩ :=
    uvmToolsDestroyCacheAll_spec haccounted.nvKthreadQStop
  have hall : ∀ event, (uvmToolsDestroyCacheAll
      { created.startQueue with deviceFile := true }.nvKthreadQStop).events.count event =
      (creations.map .createCache).count event + [LifecycleEvent.startQueue].count event +
        [LifecycleEvent.stopQueue].count event + (destroyed.map .destroyCache).count event := by
    intro event
    rw [hdestroyed]
    simp only [ToolsGlobals.nvKthreadQStop, ToolsGlobals.startQueue, hevents, ToolsGlobals.unloaded,
      List.nil_append, List.count_append]
  refine ⟨⟨hnull, hqueue⟩, hfile, fun cache => ?_, ?_, ?_⟩
  · have hcount := haccounted cache
    rw [if_pos (hloaded.1 cache)] at hcount
    have hbalanced := haccounted'.balanced hnull cache
    simp [ToolsGlobals.startQueue, hevents, ToolsGlobals.unloaded, List.count_append,
      count_map_createCache_eq_zero] at hcount
    rw [hall, hall] at hbalanced ⊢
    simp [count_map_createCache_eq_zero, count_map_destroyCache_eq_zero] at hbalanced ⊢
    omega
  · rw [hall]
    simp [count_map_createCache_eq_zero, count_map_destroyCache_eq_zero]
  · rw [hall]
    simp [count_map_createCache_eq_zero, count_map_destroyCache_eq_zero]

/-- When `create_special_file` fails, `uvm_tools_init` returns a non-negative value after
stopping the worker. A caller that takes that value for success and unloads with
`uvm_tools_exit` stops the worker a second time, having started it once. -/
theorem uvmToolsInit_uvmToolsExit_stops_twice {calls : InitCalls} {ret : Int}
    {failed : ToolsGlobals} (h : uvmToolsInit calls ToolsGlobals.unloaded = .ok (ret, failed))
    (hspecial : calls.specialFileCreated = false) (hret : 0 ≤ ret)
    (hexit : uvmToolsExit ids registry failed = .ok next) :
    next.events.count .startQueue = 1 ∧ next.events.count .stopQueue = 2 := by
  obtain ⟨ok, created, hcreate, hcases⟩ := uvmToolsInit_cases h
  obtain ⟨hcreated, -, -, ⟨creations, hevents⟩, -, -, -⟩ :=
    createCaches_spec hcreate nodup_toolsCaches (fun _ _ => rfl) (fun _ => rfl)
  rcases hcases with ⟨-, rfl, -⟩ | ⟨-, -, hneg, -⟩ | ⟨-, -, -, -, rfl⟩ | ⟨-, -, -, hfile, -⟩
  · exact absurd hret (by decide)
  · omega
  · obtain ⟨-, -, -, -, destroyed, hdestroyed⟩ :=
      uvmToolsDestroyCacheAll_spec hcreated.startQueue.nvKthreadQStop
    obtain ⟨-, -, -, -, destroyed', hdestroyed'⟩ := uvmToolsDestroyCacheAll_spec
      (uvmToolsDestroyCacheAll_spec hcreated.startQueue.nvKthreadQStop).2.1.nvKthreadQStop
    rw [uvmToolsExit_eq hexit, hdestroyed']
    simp only [ToolsGlobals.events_nvKthreadQStop, hdestroyed, ToolsGlobals.events_startQueue,
      hevents, ToolsGlobals.unloaded, List.nil_append, List.count_append]
    simp [count_map_createCache_eq_zero, count_map_destroyCache_eq_zero]
  · rw [hspecial] at hfile
    cases hfile

example :
    ∃ ret failed next, uvmToolsInit ⟨fun _ => true, 0, true, false⟩ ToolsGlobals.unloaded =
        .ok (ret, failed) ∧ 0 ≤ ret ∧
      uvmToolsExit sampleIds initialRegistry failed = .ok next ∧
      next.events.count .startQueue = 1 ∧ next.events.count .stopQueue = 2 := by
  refine' ⟨_, _, _, ?h, ?hret, ?hexit,
    uvmToolsInit_uvmToolsExit_stops_twice ?h (by exact rfl) ?hret ?hexit⟩
  · exact rfl
  · exact le_refl 0
  · exact rfl

end Exit

end UvmTools
