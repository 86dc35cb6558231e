import Praeco.Schedule.Processes

/-! The schema of a transcoded route. It is kept with the time it was stored; a request that finds none, or one that is
too old, fetches it anew by server reflection under a lock, and goes on with the old one if that fails. Health checks
fill the cache if it is empty. Every access to the cache or to the lock is a step of its own, time passes between the
steps, and a request may be dropped wherever it waits. -/

namespace Praeco.Router.Reflection
open Praeco.Schedule.Runs Praeco.Schedule.Processes

variable {Pool : Type}

structure CachedDescriptorPool (Pool : Type) where
  pool : Pool
  createdAt : Nat
  deriving DecidableEq, Repr

/-- What a route target keeps of the schema, with the time. Those who wait for the lock may get it in any order. -/
structure SchemaCache (Pool : Type) where
  now : Nat
  grpcPool : Option (CachedDescriptorPool Pool)
  grpcReflectionLock : Bool

/-- An attempt of `handle_grpc_web` on its way to a schema, or a health check that probes a node by reflection.
`unlocking` is the end of the block under the lock, with what `pool_opt` has become there. -/
inductive Task (Pool : Type) where
  | checking
  | locking
  | rechecking
  | fetching
  | storing (pool : Pool)
  | fallingBack
  | unlocking (poolOpt : Option Pool)
  | refusing
  | obtained (pool : Pool)
  | refused
  | panicked
  | dropped
  | probing
  | populating (pool : Pool)
  | probed
  deriving DecidableEq, Repr

inductive Start where
  | request
  | healthCheck
  deriving DecidableEq, Repr

inductive Event (Pool : Type) where
  | advance
  | fetched (result : Option Pool)
  | drop
  deriving DecidableEq, Repr

structure Signal (Pool : Type) where
  elapsed : Nat
  event : Event Pool
  deriving DecidableEq, Repr

def reflectionTtl (grpcReflectionTtlSeconds : Option Nat) : Nat := grpcReflectionTtlSeconds.getD 600 * 1000000000

namespace SchemaCache

variable (cache : SchemaCache Pool)

def new : SchemaCache Pool := ⟨0, none, false⟩

def later (elapsed : Nat) : SchemaCache Pool := { cache with now := cache.now + elapsed }

def fresh (ttl : Nat) : Option Pool :=
  match cache.grpcPool with
  | some cached => if cache.now - cached.createdAt < ttl then some cached.pool else none
  | none => none

def store (pool : Pool) : SchemaCache Pool := { cache with grpcPool := some ⟨pool, cache.now⟩ }

def lock : SchemaCache Pool := { cache with grpcReflectionLock := true }

def unlock : SchemaCache Pool := { cache with grpcReflectionLock := false }

end SchemaCache

def Task.locked : Task Pool → Bool
  | .rechecking => true
  | .fetching => true
  | .storing _ => true
  | .fallingBack => true
  | .unlocking _ => true
  | .refusing => true
  | _ => false

/-- An event at its time. Those that a task cannot get change nothing. -/
def perform (ttl : Nat) (cache : SchemaCache Pool) : Task Pool → Event Pool → SchemaCache Pool × Task Pool
  | .checking, .advance =>
    match cache.fresh ttl with
    | some pool => (cache, .obtained pool)
    | none => (cache, .locking)
  | .locking, .advance => if cache.grpcReflectionLock then (cache, .locking) else (cache.lock, .rechecking)
  | .rechecking, .advance =>
    match cache.fresh ttl with
    | some pool => (cache, .unlocking (some pool))
    | none => (cache, .fetching)
  | .fetching, .fetched (some pool) => (cache, .storing pool)
  | .fetching, .fetched none => (cache, .fallingBack)
  | .storing pool, .advance => (cache.store pool, .unlocking (some pool))
  | .fallingBack, .advance =>
    match cache.grpcPool with
    | some cached => (cache, .unlocking (some cached.pool))
    | none => (cache, .refusing)
  | .unlocking (some pool), .advance => (cache.unlock, .obtained pool)
  -- `expect` on an empty `pool_opt`
  | .unlocking none, .advance => (cache.unlock, .panicked)
  | .refusing, .advance => (cache.unlock, .refused)
  | .probing, .fetched (some pool) => (cache, .populating pool)
  | .probing, .fetched none => (cache, .probed)
  | .populating pool, .advance => (if cache.grpcPool.isNone then cache.store pool else cache, .probed)
  | task, .drop => (if task.locked then cache.unlock else cache, .dropped)
  | task, _ => (cache, task)

def act (ttl : Nat) (cache : SchemaCache Pool) (task : Task Pool) (signal : Signal Pool) :
    SchemaCache Pool × Task Pool := perform ttl (cache.later signal.elapsed) task signal.event

def tasks (ttl : Nat) : Program (SchemaCache Pool) Start (Task Pool) (Signal Pool) where
  spawn
    | .request => .checking
    | .healthCheck => .probing
  act := act ttl

abbrev Schemas (Pool : Type) := System (SchemaCache Pool) (Task Pool)

def initial : Schemas Pool := ⟨.new, []⟩

/-! ### The lock -/

def Guarded (system : Schemas Pool) : Prop :=
  system.shared.grpcReflectionLock.toNat = system.total fun task => task.locked.toNat

section

variable {ttl : Nat} {cache : SchemaCache Pool} {system : Schemas Pool} {index : Nat} {task : Task Pool}

theorem perform_locks (task : Task Pool) (event : Event Pool)
    (held : task.locked.toNat ≤ cache.grpcReflectionLock.toNat) :
    (perform ttl cache task event).1.grpcReflectionLock.toNat + task.locked.toNat =
      cache.grpcReflectionLock.toNat + (perform ttl cache task event).2.locked.toNat := by
  -- who gives the lock back has it
  have whole (locked : task.locked = true) : cache.grpcReflectionLock = true := by
    rw [locked] at held
    exact Bool.toNat_eq_one.mp (Nat.le_antisymm (Bool.toNat_le _) held)
  fun_cases perform ttl cache task event with
  | case4 free =>
    rw [Bool.eq_false_of_not_eq_true free]
    rfl
  | case12 | case13 | case14 =>
    rw [whole rfl]
    rfl
  | case17 =>
    split_ifs
    · rfl
    · rfl
  | case18 =>
    split_ifs with locked
    · rw [locked, whole locked]
      rfl
    · rw [Bool.eq_false_of_not_eq_true locked]
      rfl
  | _ => rfl

theorem guarded_initial : Guarded (initial : Schemas Pool) := rfl

theorem Guarded.spawned (guarded : Guarded system) (start : Start) :
    Guarded (system.spawned ((tasks ttl).spawn start)) := by
  refine balance_spawned (fun cache : SchemaCache Pool => cache.grpcReflectionLock.toNat) guarded ?_
  cases start with
  | request => rfl
  | healthCheck => rfl

theorem Guarded.acted (guarded : Guarded system) (present : system.processes[index]? = some task)
    (signal : Signal Pool) : Guarded (system.acted index (act ttl system.shared task signal)) :=
  balance_acted (fun cache : SchemaCache Pool => cache.grpcReflectionLock.toNat) guarded present
    (@perform_locks Pool ttl (system.shared.later signal.elapsed) task signal.event)

theorem Guarded.exclusive (guarded : Guarded system) (present : system.processes[index]? = some task)
    (held : task.locked = true) {place : Nat} {other : Task Pool} (found : system.processes[place]? = some other)
    (both : other.locked = true) : index = place := by
  by_contra apart
  have without : (system.acted index (system.shared, .dropped)).total (fun task => task.locked.toNat) +
      task.locked.toNat = system.total (fun task => task.locked.toNat) + 0 := total_acted _ present _
  have there : (system.acted index (system.shared, .dropped)).processes[place]? = some other := by
    rw [lookup_acted present, if_neg (Ne.symm apart)]
    exact found
  have second := weight_le_total (fun task => task.locked.toNat) there
  have single := Bool.toNat_le system.shared.grpcReflectionLock
  rw [guarded] at single
  rw [held, Bool.toNat_true] at without
  rw [both, Bool.toNat_true] at second
  omega

end

/-- Whatever the order of the steps and whoever is dropped: at most one request queries the schema of a route at a time,
and the lock is held just when one of the tasks has its guard, so that nobody waits for a lock that is lost. -/
theorem single_query (ttl : Nat) (system : Schemas Pool)
    (reachable : Reachable (step (tasks ttl)) (fun _ _ => True) initial system) :
    (∀ first second : Nat, system.processes[first]? = some .fetching → system.processes[second]? = some .fetching →
      first = second) ∧
    (system.shared.grpcReflectionLock = true ↔ ∃ holder ∈ system.processes, holder.locked = true) := by
  have guarded : Guarded system := by
    refine reachable_induction _ _ _ guarded_initial ?_ ?_ reachable
    · intro system start _ guarded
      exact guarded.spawned start
    · intro system index task signal present _ guarded
      exact guarded.acted present signal
  constructor
  · intro first second here there
    exact guarded.exclusive here rfl there rfl
  · rw [Guarded, total_toNat] at guarded
    rw [← List.countP_pos_iff, ← guarded]
    cases system.shared.grpcReflectionLock with
    | true => simp
    | false => simp

/-- The first of two requests is dropped while it queries, and the other one gets the lock. -/
theorem single_query_dropped : let labels : List (Label Start (Signal Nat)) :=
      [.spawn .request, .spawn .request, .act 0 ⟨1, .advance⟩, .act 0 ⟨1, .advance⟩, .act 0 ⟨1, .advance⟩,
        .act 1 ⟨1, .advance⟩, .act 1 ⟨1, .advance⟩, .act 0 ⟨1, .drop⟩, .act 1 ⟨1, .advance⟩, .act 1 ⟨1, .advance⟩]
    let system := run (step (tasks 5)) (initial : Schemas Nat) labels
    system.processes = [.dropped, .fetching] ∧ ∃ holder ∈ system.processes, holder.locked = true := by
  intro labels system
  have reachable : Reachable (step (tasks 5)) (fun _ _ => True) (initial : Schemas Nat) system :=
    Always.reachable _ (always_mem _ (fun _ => True) _ _ fun _ _ => trivial)
  exact ⟨by decide, (single_query 5 system reachable).2.mp (by decide)⟩

/-! ### The stores -/

def Task.due : Task Pool → Bool
  | .fetching => true
  | .storing _ => true
  | .fallingBack => true
  | _ => false

theorem Task.locked_of_due {task : Task Pool} (due : task.due = true) : task.locked = true := by
  cases task with
  | fetching | storing pool | fallingBack => rfl
  | _ => cases due

/-- What an event does to the cached schema: nothing, a request stores the one it has fetched, or a health check stores
one because there is none. -/
inductive Wrote (ttl : Nat) (cache : SchemaCache Pool) (task : Task Pool) :
    Event Pool → SchemaCache Pool × Task Pool → Prop where
  | kept {event : Event Pool} {after : SchemaCache Pool} {next : Task Pool} (time : after.now = cache.now)
    (same : after.grpcPool = cache.grpcPool) (quiet : ∀ pool, task = .storing pool → event ≠ .advance)
    (entered : next.due = true → task.due = true ∨ cache.fresh ttl = none) : Wrote ttl cache task event (after, next)
  | stored (pool : Pool) (own : task = .storing pool) :
    Wrote ttl cache task .advance (cache.store pool, .unlocking (some pool))
  | populated (pool : Pool) (own : task = .populating pool) (empty : cache.grpcPool = none) :
    Wrote ttl cache task .advance (cache.store pool, .probed)

section

variable {ttl : Nat} {cache : SchemaCache Pool}

theorem perform_wrote (task : Task Pool) (event : Event Pool) :
    Wrote ttl cache task event (perform ttl cache task event) := by
  fun_cases perform ttl cache task event with
  | case6 stale => exact .kept rfl rfl nofun fun _ => Or.inr stale
  | case7 | case8 => exact .kept rfl rfl nofun fun _ => Or.inl rfl
  | case9 pool => exact .stored pool rfl
  | case17 pool =>
    split_ifs with empty
    · exact .populated pool rfl (Option.isNone_iff_eq_none.mp empty)
    · exact .kept rfl rfl nofun nofun
  | case18 =>
    split_ifs
    · exact .kept rfl rfl (fun _ _ => nofun) nofun
    · exact .kept rfl rfl (fun _ _ => nofun) nofun
  | case19 _ _ _ _ _ _ _ other => exact .kept rfl rfl other Or.inl
  | _ => exact .kept rfl rfl nofun nofun

end

def storeTime (system : Schemas Pool) : Label Start (Signal Pool) → Option Nat
  | .act index ⟨elapsed, .advance⟩ =>
    match system.processes[index]? with
    | some (.storing _) => some (system.shared.now + elapsed)
    | _ => none
  | _ => none

def storeTimes (ttl : Nat) : Schemas Pool → List (Label Start (Signal Pool)) → List Nat
  | _, [] => []
  | system, label :: labels => (storeTime system label).toList ++ storeTimes ttl (step (tasks ttl) system label) labels

/-- What requests have stored last is still cached, and who is about to store again has found it too old. -/
structure Paced (ttl : Nat) (last : Option Nat) (system : Schemas Pool) : Prop where
  guarded : Guarded system
  past : ∀ time ∈ last, time ≤ system.shared.now
  cached : ∀ time ∈ last, ∃ pool, system.shared.grpcPool = some ⟨pool, time⟩
  due : ∀ (index : Nat) task, system.processes[index]? = some task → task.due = true →
    ∀ time ∈ last, time + ttl ≤ system.shared.now

section

variable {ttl : Nat} {last : Option Nat} {system : Schemas Pool} {index : Nat} {task : Task Pool}

theorem Paced.spawned (paced : Paced ttl last system) (start : Start) :
    Paced ttl last (system.spawned ((tasks ttl).spawn start)) := by
  refine ⟨paced.guarded.spawned start, paced.past, paced.cached, ?_⟩
  intro index task present due
  rw [lookup_spawned] at present
  split_ifs at present
  · cases present
    cases start with
    | request => cases due
    | healthCheck => cases due
  · exact paced.due index task present due

theorem expired {cache : SchemaCache Pool} {pool : Pool} {time : Nat} (stale : cache.fresh ttl = none)
    (held : cache.grpcPool = some ⟨pool, time⟩) (past : time ≤ cache.now) : time + ttl ≤ cache.now := by
  unfold SchemaCache.fresh at stale
  rw [held] at stale
  dsimp only at stale
  split_ifs at stale with young
  omega

theorem storeTime_eq_none {signal : Signal Pool}
    (quiet : ∀ pool, system.processes[index]? = some (.storing pool) → signal.event ≠ .advance) :
    storeTime system (.act index signal) = none := by
  unfold storeTime
  split
  · next shape =>
    cases shape
    split
    · next pool own => exact absurd rfl (quiet pool own)
    · rfl
  · rfl

theorem Paced.acted (paced : Paced ttl last system) (present : system.processes[index]? = some task)
    (signal : Signal Pool) :
    Paced ttl ((storeTime system (.act index signal)).or last)
        (system.acted index (act ttl system.shared task signal)) ∧
      ∀ time ∈ storeTime system (.act index signal), ∀ before ∈ last, before + ttl ≤ time := by
  have guarded : Guarded (system.acted index (act ttl system.shared task signal)) := paced.guarded.acted present signal
  obtain ⟨elapsed, event⟩ := signal
  have wrote : Wrote ttl (system.shared.later elapsed) task event (act ttl system.shared task ⟨elapsed, event⟩) :=
    perform_wrote task event
  generalize act ttl system.shared task ⟨elapsed, event⟩ = result at wrote guarded ⊢
  cases wrote with
  | @kept event after next time same quiet entered =>
    rw [storeTime_eq_none fun pool held => quiet pool (Option.some.inj (present.symm.trans held)), Option.none_or]
    have later : after.now = system.shared.now + elapsed := time
    refine ⟨⟨guarded, ?_, ?_, ?_⟩, nofun⟩
    · intro time stored
      exact (paced.past time stored).trans (later ▸ Nat.le_add_right _ _)
    · intro time stored
      exact same.symm ▸ paced.cached time stored
    · intro other found listed due time stored
      change time + ttl ≤ after.now
      rw [lookup_acted present] at listed
      split_ifs at listed with here
      · cases listed
        rcases entered due with already | stale
        · have bound := paced.due index task present already time stored
          omega
        · obtain ⟨pool, held⟩ := paced.cached time stored
          have old := paced.past time stored
          exact later ▸ expired stale held (old.trans (Nat.le_add_right _ _))
      · have bound := paced.due other found listed due time stored
        omega
  | stored pool own =>
    subst own
    have stored : storeTime system (.act index ⟨elapsed, .advance⟩) = some (system.shared.now + elapsed) := by
      simp only [storeTime, present]
    rw [stored, Option.some_or]
    refine ⟨⟨guarded, ?_, ?_, ?_⟩, ?_⟩
    · rintro time ⟨⟩
      exact le_rfl
    · rintro time ⟨⟩
      exact ⟨pool, rfl⟩
    · intro other found listed due
      rw [lookup_acted present] at listed
      split_ifs at listed with here
      · cases listed
        cases due
      -- another one that is past the second check would have the lock as well
      · exact absurd (paced.guarded.exclusive listed (Task.locked_of_due due) present rfl) here
    · rintro time ⟨⟩ before earlier
      exact (paced.due index _ present rfl before earlier).trans (Nat.le_add_right _ _)
  | populated pool own empty =>
    subst own
    rw [storeTime_eq_none fun pool held => absurd (present.symm.trans held) nofun, Option.none_or]
    have never (time : Nat) : time ∉ last := by
      intro stored
      obtain ⟨pool, held⟩ := paced.cached time stored
      cases held.symm.trans empty
    refine ⟨⟨guarded, ?_, ?_, ?_⟩, nofun⟩
    · exact fun time stored => absurd stored (never time)
    · exact fun time stored => absurd stored (never time)
    · exact fun _ _ _ _ time stored => absurd stored (never time)

theorem Paced.stepped (paced : Paced ttl last system) (label : Label Start (Signal Pool)) :
    Paced ttl ((storeTime system label).or last) (step (tasks ttl) system label) ∧
      ∀ time ∈ storeTime system label, ∀ before ∈ last, before + ttl ≤ time := by
  cases label with
  | spawn start => exact ⟨paced.spawned start, nofun⟩
  | act index signal =>
    cases present : system.processes[index]? with
    | none =>
      rw [storeTime_eq_none fun pool held => absurd (present.symm.trans held) nofun]
      rw [step_absent present]
      exact ⟨paced, nofun⟩
    | some task =>
      rw [step_act present]
      exact paced.acted present signal

theorem Paced.storeTimes (paced : Paced ttl last system) (labels : List (Label Start (Signal Pool))) :
    List.IsChain (fun earlier later => earlier + ttl ≤ later)
      (last.toList ++ Reflection.storeTimes ttl system labels) := by
  induction labels generalizing last system with
  | nil =>
    rw [Reflection.storeTimes, List.append_nil]
    cases last with
    | none => exact .nil
    | some time => exact .singleton time
  | cons label labels ih =>
    obtain ⟨kept, spaced⟩ := paced.stepped label
    have rest := ih kept
    rw [Reflection.storeTimes]
    cases now : storeTime system label with
    | none =>
      rw [now, Option.none_or] at rest
      exact rest
    | some time =>
      rw [now, Option.some_or] at rest
      cases last with
      | none => exact rest
      | some before => exact .cons_cons (spaced time now before rfl) rest

end

/-- In any order of steps, two schemas that requests store are stored at least the time to live apart: however many
requests find an old schema, one of them replaces it. -/
theorem stores_spaced (ttl : Nat) (labels : List (Label Start (Signal Pool))) :
    (storeTimes ttl (initial : Schemas Pool) labels).Pairwise fun earlier later => earlier + ttl ≤ later := by
  have start : Paced ttl none (initial : Schemas Pool) := ⟨guarded_initial, nofun, nofun, fun _ _ _ _ => nofun⟩
  have chain := start.storeTimes labels
  have transitive : IsTrans Nat fun earlier later => earlier + ttl ≤ later := ⟨fun a b c first second => by omega⟩
  exact List.isChain_iff_pairwise.mp chain

/-! ### What requests get -/

def Task.pool : Task Pool → Option Pool
  | .storing pool => some pool
  | .unlocking poolOpt => poolOpt
  | .obtained pool => some pool
  | .populating pool => some pool
  | _ => none

def Task.failing : Task Pool → Bool
  | .refusing => true
  | .refused => true
  | _ => false

def Task.Sound : Task Pool → Prop
  | .unlocking none => False
  | .panicked => False
  | _ => True

/-- What an event can give to a task: a schema that it had, that was cached or that was fetched, and a refusal only if
none is cached. -/
structure Supplied (cache : SchemaCache Pool) (task : Task Pool) (event : Event Pool) (next : Task Pool) : Prop where
  sound : task.Sound → next.Sound
  failing : next.failing = true → task.failing = true ∨ cache.grpcPool = none
  pool : ∀ pool, next.pool = some pool →
    task.pool = some pool ∨ cache.grpcPool.map (·.pool) = some pool ∨ event = .fetched (some pool)

section

variable {ttl : Nat} {cache : SchemaCache Pool} {system : Schemas Pool}

theorem fresh_cached {pool : Pool} (found : cache.fresh ttl = some pool) : cache.grpcPool.map (·.pool) = some pool := by
  unfold SchemaCache.fresh at found
  split at found
  · rename_i cached held
    split_ifs at found
    rw [held]
    exact found
  · cases found

theorem perform_supplied (task : Task Pool) (event : Event Pool) :
    Supplied cache task event (perform ttl cache task event).2 := by
  fun_cases perform ttl cache task event with
  | case1 pool found | case5 pool found =>
    exact ⟨fun _ => trivial, nofun, fun _ same => Or.inr (Or.inl (same ▸ fresh_cached found))⟩
  | case7 | case15 => exact ⟨fun _ => trivial, nofun, fun _ same => Or.inr (Or.inr (congrArg Event.fetched same))⟩
  | case9 | case12 => exact ⟨fun _ => trivial, nofun, fun _ same => Or.inl same⟩
  | case10 cached found => exact ⟨fun _ => trivial, nofun, fun _ same => Or.inr (Or.inl (found ▸ same))⟩
  | case11 empty => exact ⟨fun _ => trivial, fun _ => Or.inr empty, nofun⟩
  | case13 => exact ⟨False.elim, nofun, nofun⟩
  | case14 => exact ⟨fun _ => trivial, fun _ => Or.inl rfl, nofun⟩
  | case19 => exact ⟨id, Or.inl, fun _ => Or.inl⟩
  | _ => exact ⟨fun _ => trivial, nofun, nofun⟩

theorem Wrote.cached {task : Task Pool} {event : Event Pool} {result : SchemaCache Pool × Task Pool}
    (wrote : Wrote ttl cache task event result) :
    (∀ pool, result.1.grpcPool.map (·.pool) = some pool →
      cache.grpcPool.map (·.pool) = some pool ∨ task.pool = some pool) ∧
    (cache.grpcPool.isSome = true → result.1.grpcPool.isSome = true) := by
  cases wrote with
  | kept time same quiet entered => exact same ▸ ⟨fun _ => Or.inl, id⟩
  | stored stored own => exact ⟨fun _ held => Or.inr (own ▸ held), fun _ => rfl⟩
  | populated stored own empty => exact ⟨fun _ held => Or.inr (own ▸ held), fun _ => rfl⟩

structure Known (answered : Pool → Prop) (system : Schemas Pool) : Prop where
  cached : ∀ pool, system.shared.grpcPool.map (·.pool) = some pool → answered pool
  task : ∀ (index : Nat) task, system.processes[index]? = some task →
    task.Sound ∧ ∀ pool, task.pool = some pool → answered pool

/-- There is a schema, and the task under this number is not being refused, or has not come yet. -/
structure Served (place : Nat) (system : Schemas Pool) : Prop where
  cached : system.shared.grpcPool.isSome = true
  task : ∀ task, system.processes[place]? = some task → task.failing = false

theorem spawn_supplied (start : Start) : ((tasks ttl).spawn start : Task Pool).Sound ∧
    ((tasks ttl).spawn start : Task Pool).pool = none ∧ ((tasks ttl).spawn start : Task Pool).failing = false := by
  cases start with
  | request => exact ⟨trivial, rfl, rfl⟩
  | healthCheck => exact ⟨trivial, rfl, rfl⟩

theorem known_initial (answered : Pool → Prop) : Known answered initial := by
  constructor
  · intro pool held
    cases held
  · intro index task present
    cases present

theorem known_reachable (answered : Pool → Prop)
    (reachable : Reachable (step (tasks ttl)) (fun _ label => ∀ (index elapsed : Nat) pool,
      label = .act index ⟨elapsed, .fetched (some pool)⟩ → answered pool) initial system) : Known answered system := by
  refine reachable_induction _ _ _ (known_initial answered) ?_ ?_ reachable
  · intro system start _ known
    refine ⟨known.cached, ?_⟩
    intro index task present
    rw [lookup_spawned] at present
    split_ifs at present
    · cases present
      obtain ⟨sound, without, -⟩ := @spawn_supplied Pool ttl start
      refine ⟨sound, fun pool having => ?_⟩
      cases without.symm.trans having
    · exact known.task index task present
  · intro system index task signal present fetches known
    have supplied := @perform_supplied Pool ttl (system.shared.later signal.elapsed) task signal.event
    have wrote := @perform_wrote Pool ttl (system.shared.later signal.elapsed) task signal.event
    constructor
    · intro pool held
      rcases wrote.cached.1 pool held with before | had
      · exact known.cached pool before
      · exact (known.task index task present).2 pool had
    · intro other found listed
      rw [lookup_acted present] at listed
      split_ifs at listed
      · cases listed
        refine ⟨supplied.sound (known.task index task present).1, fun pool having => ?_⟩
        rcases supplied.pool pool having with had | cached | fetched
        · exact (known.task index task present).2 pool had
        · exact known.cached pool cached
        · exact fetches index signal.elapsed pool (by rw [← fetched])
      · exact known.task other found listed

theorem Served.stepped {place : Nat} (served : Served place system) (label : Label Start (Signal Pool)) :
    Served place (step (tasks ttl) system label) := by
  cases label with
  | spawn start =>
    refine ⟨served.cached, ?_⟩
    intro task present
    rw [step, lookup_spawned] at present
    split_ifs at present
    · cases present
      exact (spawn_supplied start).2.2
    · exact served.task task present
  | act index signal =>
    cases present : system.processes[index]? with
    | none =>
      rw [step_absent present]
      exact served
    | some task =>
      have supplied := @perform_supplied Pool ttl (system.shared.later signal.elapsed) task signal.event
      rw [step_act present]
      refine ⟨(perform_wrote task signal.event).cached.2 served.cached, ?_⟩
      intro found listed
      rw [lookup_acted present] at listed
      split_ifs at listed with here
      · cases listed
        apply Bool.eq_false_of_not_eq_true
        intro failing
        rcases supplied.failing failing with before | empty
        · exact absurd before (Bool.eq_false_iff.mp (served.task task (here ▸ present)))
        · cases served.cached.symm.trans (congrArg Option.isSome empty)
      · exact served.task found listed

end

/-- In any order of steps, no request finds `pool_opt` empty, a request goes on with a schema that a query of the run
has returned, and one that is refused was being refused already whenever there was a schema: once one is cached, whoever
has not yet looked for it after a failed query is never refused. -/
theorem requests_supplied (ttl : Nat) (labels : List (Label Start (Signal Pool))) (index : Nat) (task : Task Pool)
    (present : (run (step (tasks ttl)) initial labels).processes[index]? = some task) :
    task ≠ .panicked ∧
      (∀ pool, task = .obtained pool → ∃ other elapsed, .act other ⟨elapsed, .fetched (some pool)⟩ ∈ labels) ∧
      (task.failing = true → ∀ first second, labels = first ++ second →
        (run (step (tasks ttl)) initial first).shared.grpcPool.isSome = true →
          ∃ before, (run (step (tasks ttl)) initial first).processes[index]? = some before ∧ before.failing = true) := by
  have along := always_mem (step (tasks ttl)) (fun label => ∀ (index elapsed : Nat) pool,
    label = .act index ⟨elapsed, .fetched (some pool)⟩ →
      ∃ other elapsed, .act other ⟨elapsed, .fetched (some pool)⟩ ∈ labels) initial labels
    fun label member index elapsed pool same => ⟨index, elapsed, same ▸ member⟩
  obtain ⟨sound, having⟩ := (known_reachable _ (along.reachable _)).task index task present
  refine ⟨?_, ?_, ?_⟩
  · rintro rfl
    exact sound
  · rintro pool rfl
    exact having pool rfl
  · rintro failing first second rfl held
    by_contra spared
    have served : Served index (run (step (tasks ttl)) initial first) := by
      refine ⟨held, fun before listed => Bool.eq_false_iff.mpr fun already => ?_⟩
      exact spared ⟨before, listed, already⟩
    rw [run_append] at present
    have after := run_invariant (step (tasks ttl)) (Served index) (fun _ label served => served.stepped label) served
      second
    exact absurd failing (Bool.eq_false_iff.mp (after.task task present))

/-- Both queries of the requests fail. The first request finds no schema and is refused; before the second one looks, a
health check has stored one. -/
theorem requests_supplied_late : let first : List (Label Start (Signal Nat)) :=
      [.spawn .request, .spawn .request, .spawn .healthCheck, .act 0 ⟨0, .advance⟩, .act 0 ⟨0, .advance⟩,
        .act 0 ⟨0, .advance⟩, .act 1 ⟨0, .advance⟩, .act 0 ⟨1, .fetched none⟩, .act 0 ⟨0, .advance⟩, .act 0 ⟨0, .advance⟩,
        .act 1 ⟨0, .advance⟩, .act 1 ⟨0, .advance⟩, .act 1 ⟨1, .fetched none⟩, .act 2 ⟨1, .fetched (some 7)⟩,
        .act 2 ⟨0, .advance⟩]
    let second : List (Label Start (Signal Nat)) := [.act 1 ⟨0, .advance⟩, .act 1 ⟨0, .advance⟩]
    let system := run (step (tasks (reflectionTtl none))) initial (first ++ second)
    system.processes = [.refused, .obtained 7, .probed] ∧
      (∃ other elapsed, .act other ⟨elapsed, .fetched (some 7)⟩ ∈ first ++ second) ∧
      ∃ before, (run (step (tasks (reflectionTtl none))) initial first).processes[0]? = some before ∧
        before.failing = true := by
  intro first second system
  have refused : system.processes[0]? = some .refused := by decide
  have obtained : system.processes[1]? = some (.obtained 7) := by decide
  exact ⟨by decide, (requests_supplied _ (first ++ second) 1 (.obtained 7) obtained).2.1 7 rfl,
    (requests_supplied _ (first ++ second) 0 .refused refused).2.2 rfl first second rfl (by decide)⟩

end Praeco.Router.Reflection
