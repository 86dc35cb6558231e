import Praeco.Server.Reload

/-! The server tasks and when they were started. A reload gives a task that it keeps a new stack and nothing else, so the
configuration that the task was started with, and what it made of the files then, stay in use until it is cancelled. -/

namespace Praeco.Server.Launches
open Praeco.Strings Utf8 Praeco.Schedule.Runs Praeco.Server.Reload

variable {Settings Stack Time : Type}

/-! ### The tasks over a reload -/

/-- The tasks go on, some of them cancelled or with other stacks, and tasks for other servers stand behind them. -/
structure Extends (started : ServerConfig Settings → Prop) (before after : List (Task Settings Stack)) : Prop where
  size : before.length ≤ after.length
  origin : ∀ (index : Nat) task, after[index]? = some task →
    (∃ old, before[index]? = some old ∧ task.config = old.config ∧ (task.cancelled = false → old.cancelled = false)) ∨
      before.length ≤ index ∧ started task.config

namespace Extends

variable {started : ServerConfig Settings → Prop} {before middle after : List (Task Settings Stack)}

theorem refl (tasks : List (Task Settings Stack)) : Extends started tasks tasks where
  size := Nat.le_refl _
  origin _ task there := Or.inl ⟨task, there, rfl, id⟩

theorem trans (first : Extends started before middle) (second : Extends started middle after) :
    Extends started before after := by
  refine ⟨first.size.trans second.size, ?_⟩
  intro index task there
  rcases second.origin index task there with ⟨between, earlier, same, stopped⟩ | ⟨beyond, fresh⟩
  · rw [same]
    rcases first.origin index between earlier with ⟨old, oldest, configured, ended⟩ | new
    · exact Or.inl ⟨old, oldest, configured, fun running => ended (stopped running)⟩
    · exact Or.inr new
  · exact Or.inr ⟨first.size.trans beyond, fresh⟩

theorem modify (tasks : List (Task Settings Stack)) (index : Nat) (change : Task Settings Stack → Task Settings Stack)
    (fixed : ∀ task, (change task).config = task.config)
    (ended : ∀ task, (change task).cancelled = false → task.cancelled = false) :
    Extends started tasks (tasks.modify index change) := by
  refine ⟨(List.length_modify change tasks index).ge, ?_⟩
  intro place task there
  rw [List.getElem?_modify] at there
  obtain ⟨old, earlier, rfl⟩ := Option.map_eq_some_iff.mp there
  refine Or.inl ⟨old, earlier, ?_⟩
  split_ifs
  · exact ⟨fixed old, ended old⟩
  · exact ⟨rfl, id⟩

theorem concat (tasks : List (Task Settings Stack)) (task : Task Settings Stack) (fresh : started task.config) :
    Extends started tasks (tasks ++ [task]) := by
  refine ⟨by simp, ?_⟩
  intro index other there
  rcases of_lookup_append_singleton there with earlier | last
  · exact Or.inl ⟨other, earlier, rfl, id⟩
  · subst last
    cases List.getElem?_concat_length.symm.trans there
    exact Or.inr ⟨Nat.le_refl _, fresh⟩

theorem manage (pending : Pending Settings Stack) (built : Built Settings Stack) (fresh : started built.2.1) :
    Extends started pending.tasks (pending.manage built).tasks := by
  have restarted : Extends started pending.tasks (pending.restart built).tasks := concat _ _ fresh
  unfold Pending.manage
  split
  · exact restarted
  · split_ifs
    · exact restarted
    · exact modify _ _ _ (fun _ => rfl) fun _ => id

theorem foldl_manage (servers : List (Built Settings Stack)) (pending : Pending Settings Stack)
    (fresh : ∀ built ∈ servers, started built.2.1) :
    Extends started pending.tasks (servers.foldl Pending.manage pending).tasks := by
  induction servers generalizing pending with
  | nil => exact refl _
  | cons built servers ih =>
    have later := ih (pending.manage built) fun other member => fresh other (List.mem_cons_of_mem _ member)
    exact (manage pending built (fresh built List.mem_cons_self)).trans later

theorem drain (tasks : List (Task Settings Stack)) (entries : List ((_ : Text) × Entry Settings)) :
    Extends started tasks (Reload.drain tasks entries) := by
  induction entries generalizing tasks with
  | nil => exact refl _
  | cons entry entries ih =>
    have first : Extends started tasks (tasks.modify entry.2.task fun task => { task with cancelled := true }) :=
      modify tasks _ _ (fun _ => rfl) fun _ running => absurd running.symm Bool.false_ne_true
    exact first.trans (ih _)

end Extends

structure Fresh (configPath : Text) (reload : Sighup Settings Stack) (server : ServerConfig Settings) : Prop where
  listed : ∃ config, load reload.disk configPath = .ok config ∧ server ∈ config.servers
  enabled : server.enabled = true
  built : ∃ stack, reload.build server = .ok stack

theorem extends_hangup (configPath : Text) (world : World Settings Stack) (reload : Sighup Settings Stack) :
    Extends (Fresh configPath reload) world.tasks (hangup configPath world reload).tasks := by
  unfold hangup
  split
  · exact .refl _
  · rename_i config loaded
    dsimp only
    split_ifs
    · exact .refl _
    · refine (Extends.foldl_manage _ ⟨world.active, ∅, world.tasks⟩ ?_).trans (.drain _ _)
      intro built member
      have listed := (reload.order.perm (reload.dryRun config.servers).builtStacks.entries).mem_iff.mp member
      obtain ⟨inside, enabled, -, built⟩ := Sighup.lookup_builtStacks (AList.mem_lookup_iff.mpr listed)
      exact ⟨⟨config, loaded, inside⟩, enabled, _, built⟩

theorem tracked_unique {world : World Settings Stack} (tracked : Tracked world) {first second : Nat}
    {one other : Task Settings Stack} (here : world.tasks[first]? = some one)
    (there : world.tasks[second]? = some other) (running : one.cancelled = false) (alive : other.cancelled = false)
    (named : one.config.name = other.config.name) : first = second := by
  obtain ⟨name, entry, found, rfl⟩ := tracked.live first one here running
  obtain ⟨owner, listed, looked, rfl⟩ := tracked.live second other there alive
  have same : name = owner := (tracked.name_eq found here).symm.trans (named.trans (tracked.name_eq looked there))
  subst same
  cases found.symm.trans looked
  rfl

/-- After an accepted reload every running task has the new stack of the server that it serves. -/
theorem running_hangup {configPath : Text} {world : World Settings Stack} {reload : Sighup Settings Stack}
    {config : Config Settings} (tracked : Tracked world) (loaded : load reload.disk configPath = .ok config)
    (accepted : ¬reload.Refused configPath) (distinct : config.enabledNames.Nodup) {index : Nat}
    {task : Task Settings Stack} (there : (hangup configPath world reload).tasks[index]? = some task)
    (running : task.cancelled = false) :
    ∃ server ∈ config.servers, server.enabled = true ∧ task.Serves server ∧
      reload.buildServiceStack server = .ok task.stack := by
  have after := inStep_hangup tracked loaded accepted distinct
  obtain ⟨server, member, enabled, serves⟩ := after.only index task there running
  obtain ⟨place, ⟨other, here, serving, built⟩, -⟩ := after.served server member enabled
  have same : index = place := tracked_unique (tracked_hangup tracked reload) there here running serving.running
    (serves.named.trans serving.named.symm)
  subst same
  cases there.symm.trans here
  exact ⟨server, member, enabled, serves, built⟩

theorem start_stacks (buildServiceStack : ServerConfig Settings → Except Text Stack) (config : Config Settings) :
    ∀ task ∈ (start buildServiceStack config).tasks, buildServiceStack task.config = .ok task.stack := by
  have launched (servers : List (ServerConfig Settings)) (world : World Settings Stack)
      (before : ∀ task ∈ world.tasks, buildServiceStack task.config = .ok task.stack) :
      ∀ task ∈ (servers.foldl (launch buildServiceStack) world).tasks,
        buildServiceStack task.config = .ok task.stack := by
    induction servers generalizing world with
    | nil => exact before
    | cons server servers ih =>
      apply ih
      unfold launch
      split_ifs
      · split
        · rename_i stack built
          exact List.forall_mem_append.mpr ⟨before, List.forall_mem_singleton.mpr built⟩
        · exact before
      · exact before
  exact launched config.servers _ fun task member => absurd member List.not_mem_nil

/-! ### Launches -/

structure Site (Settings Stack Time : Type) where
  world : World Settings Stack
  times : List Time

structure Event (Settings Stack Time : Type) where
  reload : Sighup Settings Stack
  time : Time

namespace Site

def start (buildServiceStack : ServerConfig Settings → Except Text Stack) (time : Time) (config : Config Settings) :
    Site Settings Stack Time :=
  let world := Reload.start buildServiceStack config
  ⟨world, world.tasks.map fun _ => time⟩

def hangup (configPath : Text) (site : Site Settings Stack Time) (event : Event Settings Stack Time) :
    Site Settings Stack Time :=
  let world := Reload.hangup configPath site.world event.reload
  ⟨world, site.times ++ (world.tasks.drop site.world.tasks.length).map fun _ => event.time⟩

variable (site : Site Settings Stack Time)

structure Sound : Prop where
  tracked : Tracked site.world
  aligned : site.times.length = site.world.tasks.length

def Serving (server launched : ServerConfig Settings) (time : Time) : Prop :=
  ∃ (index : Nat) (task : Task Settings Stack), site.world.tasks[index]? = some task ∧ task.Serves server ∧
    task.config = launched ∧ site.times[index]? = some time

variable {site} {configPath : Text} {event : Event Settings Stack Time}

variable {server : ServerConfig Settings} {time : Time} {index : Nat}
  {buildServiceStack : ServerConfig Settings → Except Text Stack} {config : Config Settings}

theorem Serving.bound {launched : ServerConfig Settings} (serving : site.Serving server launched time) :
    launched.listener = server.listener := by
  obtain ⟨-, task, -, serves, rfl, -⟩ := serving
  exact serves.bound

theorem Sound.timed (sound : site.Sound) {task : Task Settings Stack} (there : site.world.tasks[index]? = some task) :
    ∃ time, site.times[index]? = some time := by
  have inside := (List.getElem?_eq_some_iff.mp there).1
  rw [← sound.aligned] at inside
  exact ⟨_, List.getElem?_eq_getElem inside⟩

theorem sound_start (distinct : config.enabledNames.Nodup) : (start buildServiceStack time config).Sound where
  tracked := tracked_start config distinct
  aligned := List.length_map _

theorem sound_hangup (sound : site.Sound) : (site.hangup configPath event).Sound := by
  refine ⟨tracked_hangup sound.tracked event.reload, ?_⟩
  have size := (extends_hangup configPath site.world event.reload).size
  have aligned := sound.aligned
  simp only [hangup, List.length_append, List.length_map, List.length_drop]
  omega

theorem sound_run (distinct : config.enabledNames.Nodup) (events : List (Event Settings Stack Time)) :
    (run (hangup configPath) (start buildServiceStack time config) events).Sound := by
  induction events using List.reverseRecOn with
  | nil => exact sound_start distinct
  | append_singleton events event ih =>
    rw [run_append]
    exact sound_hangup ih

theorem times_hangup_old (sound : site.Sound) (old : index < site.world.tasks.length) :
    (site.hangup configPath event).times[index]? = site.times[index]? :=
  List.getElem?_append_left (sound.aligned ▸ old)

theorem times_hangup_new (sound : site.Sound) (new : site.world.tasks.length ≤ index) :
    (site.hangup configPath event).times[index]? =
      (site.hangup configPath event).world.tasks[index]?.map fun _ => event.time := by
  have aligned := sound.aligned
  change (site.times ++ _)[index]? = _
  rw [List.getElem?_append_right (by omega), List.getElem?_map, List.getElem?_drop]
  have place : site.world.tasks.length + (index - site.times.length) = index := by omega
  rw [place]
  rfl

theorem hangup_refused (refused : event.reload.Refused configPath) : site.hangup configPath event = site := by
  have same : Reload.hangup configPath site.world event.reload = site.world := Reload.hangup_refused refused
  unfold hangup
  rw [same]
  simp

theorem launched_run (distinct : config.enabledNames.Nodup) (events : List (Event Settings Stack Time))
    (property : ServerConfig Settings → Time → Prop)
    (initially : ∀ server stack, buildServiceStack server = .ok stack → property server time)
    (later : ∀ event ∈ events, ∀ server stack, event.reload.buildServiceStack server = .ok stack →
      property server event.time) (index : Nat) (task : Task Settings Stack) (since : Time)
    (there : (run (hangup configPath) (start buildServiceStack time config) events).world.tasks[index]? = some task)
    (timed : (run (hangup configPath) (start buildServiceStack time config) events).times[index]? = some since) :
    property task.config since := by
  induction events using List.reverseRecOn generalizing task with
  | nil =>
    have built := start_stacks buildServiceStack config task (List.mem_of_getElem? there)
    change ((start buildServiceStack time config).world.tasks.map fun _ => time)[index]? = some since at timed
    rw [List.getElem?_map, Option.map_eq_some_iff] at timed
    obtain ⟨-, -, rfl⟩ := timed
    exact initially _ _ built
  | append_singleton events event ih =>
    rw [run_append] at there timed
    have sound : (run (hangup configPath) (start buildServiceStack time config) events).Sound := sound_run distinct events
    rcases (extends_hangup configPath _ event.reload).origin index task there with
      ⟨old, earlier, same, -⟩ | ⟨beyond, fresh⟩
    · rw [same]
      have inside := (List.getElem?_eq_some_iff.mp earlier).1
      exact ih (fun event member => later event (List.mem_append_left _ member)) old earlier
        ((times_hangup_old sound inside).symm.trans timed)
    · obtain ⟨stack, built⟩ := fresh.built
      have now : since = event.time := by
        have timed := (times_hangup_new sound beyond).symm.trans timed
        obtain ⟨-, -, now⟩ := Option.map_eq_some_iff.mp timed
        exact now.symm
      rw [now]
      exact later event (List.mem_append_right _ List.mem_cons_self) _ _ (Sighup.build_ok built)

variable {config : Config Settings}

theorem serving_origin (sound : site.Sound) (loaded : load event.reload.disk configPath = .ok config)
    (distinct : config.enabledNames.Nodup) (member : server ∈ config.servers) (enabled : server.enabled = true)
    {task : Task Settings Stack} (there : (site.hangup configPath event).world.tasks[index]? = some task)
    (serves : task.Serves server) (timed : (site.hangup configPath event).times[index]? = some time) :
    site.Serving server task.config time ∨
      site.world.tasks.length ≤ index ∧ task.config = server ∧ time = event.time := by
  rcases (extends_hangup configPath site.world event.reload).origin index task there with
    ⟨old, earlier, same, ended⟩ | ⟨beyond, fresh⟩
  · left
    have inside : index < site.world.tasks.length := (List.getElem?_eq_some_iff.mp earlier).1
    rw [times_hangup_old sound inside] at timed
    have served : old.Serves server := ⟨ended serves.running, same ▸ serves.named, same ▸ serves.bound⟩
    exact ⟨index, old, earlier, served, same.symm, timed⟩
  · right
    obtain ⟨other, result, listed⟩ := fresh.listed
    cases loaded.symm.trans result
    have one : task.config = server := enabled_unique distinct listed fresh.enabled member enabled serves.named
    rw [times_hangup_new sound beyond, there, Option.map_some, Option.some.injEq] at timed
    exact ⟨beyond, one, timed.symm⟩

theorem serving_hangup (sound : site.Sound) (loaded : load event.reload.disk configPath = .ok config)
    (accepted : ¬event.reload.Refused configPath) (distinct : config.enabledNames.Nodup)
    (member : server ∈ config.servers) (enabled : server.enabled = true) (launched : ServerConfig Settings)
    (time : Time) :
    (site.hangup configPath event).Serving server launched time ↔
      site.Serving server launched time ∨
        (∀ other moment, ¬site.Serving server other moment) ∧ launched = server ∧ time = event.time := by
  have after := inStep_hangup sound.tracked loaded accepted distinct
  have next : (site.hangup configPath event).Sound := sound_hangup sound
  constructor
  · rintro ⟨index, task, there, serves, rfl, timed⟩
    rcases serving_origin sound loaded distinct member enabled there serves timed with kept | ⟨beyond, new⟩
    · exact Or.inl kept
    · refine Or.inr ⟨?_, new⟩
      rintro other moment ⟨place, old, earlier, served, -⟩
      -- The task that was there would go on beside the new one.
      obtain ⟨stays, here, serving⟩ := after.kept server member enabled place old earlier served
      have same : index = place := tracked_unique next.tracked there here serves.running serving.running
        (serves.named.trans serving.named.symm)
      have inside := (List.getElem?_eq_some_iff.mp earlier).1
      omega
  · rintro (⟨index, old, earlier, served, rfl, timed⟩ | ⟨none, own, now⟩)
    · obtain ⟨task, here, serving⟩ := after.kept server member enabled index old earlier served
      have inside := (List.getElem?_eq_some_iff.mp earlier).1
      have same : task.config = old.config := by
        rcases (extends_hangup configPath site.world event.reload).origin index task here with
          ⟨before, there, same, -⟩ | ⟨beyond, -⟩
        · cases earlier.symm.trans there
          exact same
        · omega
      exact ⟨index, task, here, serving, same, (times_hangup_old sound inside).trans timed⟩
    · obtain ⟨index, ⟨task, there, serves, -⟩, -⟩ := after.served server member enabled
      obtain ⟨when, timed⟩ := next.timed there
      rcases serving_origin sound loaded distinct member enabled there serves timed with kept | ⟨-, same, new⟩
      · exact absurd kept (none _ _)
      · exact ⟨index, task, there, serves, same.trans own.symm, timed.trans (congrArg some (new.trans now.symm))⟩

end Site

end Praeco.Server.Launches
