import Praeco.Schedule.Runs

/-! The idle watchdog of a relayed connection. Every ten seconds it looks at a flag that transfers of either direction
set, and it ends the connection after a number of ticks that have found the flag clear. -/

namespace Praeco.Tunnel.Watchdog
open Praeco.Schedule Runs

def second : Nat := 1000000000

def tickTime (number : Nat) : Nat := 10000000000 * number

def maxIdleTicks (timeout : Nat) : Nat := timeout / second / 10

inductive Event where
  | activity (time : Nat)
  | tick
  deriving DecidableEq, Repr

/-- The flag, the counter and the tick that has ended the connection, with the ticks and the activities so far. -/
structure Watched where
  hadActivity : Bool
  idleTicks : Nat
  reported : Option Nat
  ticks : Nat
  activities : List Nat
  deriving DecidableEq, Repr

def start : Watched := ⟨true, 0, none, 0, []⟩

def onTick (timeout : Nat) (watched : Watched) : Watched :=
  if watched.hadActivity then { watched with hadActivity := false, idleTicks := 0 }
  else if maxIdleTicks timeout ≤ watched.idleTicks + 1 then
    { watched with idleTicks := watched.idleTicks + 1, reported := some watched.ticks }
  else { watched with idleTicks := watched.idleTicks + 1 }

def step (timeout : Nat) (watched : Watched) : Event → Watched
  | .activity time => { watched with hadActivity := true, activities := time :: watched.activities }
  | .tick =>
    let watched := if watched.reported = none then onTick timeout watched else watched
    { watched with ticks := watched.ticks + 1 }

def Timely (watched : Watched) : Event → Prop
  | .activity time => tickTime (watched.ticks - 1) ≤ time ∧ time ≤ tickTime watched.ticks
  | .tick => True

def OnlyIdle (timeout : Nat) (watched : Watched) : Prop :=
  ∀ number, watched.reported = some number → ∀ time ∈ watched.activities,
    ¬(tickTime number < time + timeout ∧ time < tickTime number)

def Prompt (timeout : Nat) (watched : Watched) : Prop :=
  ∀ last, (∀ time ∈ watched.activities, time ≤ last) → last + timeout + 20 * second < tickTime watched.ticks →
    ∃ number, watched.reported = some number ∧ tickTime number ≤ last + timeout + 20 * second

def idleBound (timeout : Nat) : Nat := max (maxIdleTicks timeout) 1

variable (timeout : Nat)

theorem step_tick_cases (watched : Watched) :
    (watched.reported ≠ none ∧ step timeout watched .tick = { watched with ticks := watched.ticks + 1 }) ∨
    (watched.reported = none ∧ watched.hadActivity = true ∧
      step timeout watched .tick =
        { watched with hadActivity := false, idleTicks := 0, ticks := watched.ticks + 1 }) ∨
    (watched.reported = none ∧ watched.hadActivity = false ∧ idleBound timeout ≤ watched.idleTicks + 1 ∧
      step timeout watched .tick =
        { watched with
          idleTicks := watched.idleTicks + 1, reported := some watched.ticks, ticks := watched.ticks + 1 }) ∨
    (watched.reported = none ∧ watched.hadActivity = false ∧ watched.idleTicks + 1 < idleBound timeout ∧
      step timeout watched .tick =
        { watched with idleTicks := watched.idleTicks + 1, ticks := watched.ticks + 1 }) := by
  by_cases reported : watched.reported = none
  · simp only [step, if_pos reported, onTick]
    cases active : watched.hadActivity with
    | true => exact .inr (.inl ⟨reported, rfl, by simp⟩)
    | false =>
      by_cases due : maxIdleTicks timeout ≤ watched.idleTicks + 1
      · exact .inr (.inr (.inl ⟨reported, rfl, by simp only [idleBound]; omega, by simp [due]⟩))
      · exact .inr (.inr (.inr ⟨reported, rfl, by simp only [idleBound]; omega, by simp [due]⟩))
  · exact .inl ⟨reported, by simp only [step, if_neg reported]⟩

/-- No activity since the idle ticks have been counted, and none in the ticks that were counted for a report. -/
structure Quiet (timeout : Nat) (watched : Watched) : Prop where
  past : ∀ time ∈ watched.activities, time ≤ tickTime watched.ticks
  idle : watched.reported = none → watched.hadActivity = false → watched.idleTicks < watched.ticks ∧
    ∀ time ∈ watched.activities, time ≤ tickTime (watched.ticks - 1 - watched.idleTicks)
  ended : ∀ number, watched.reported = some number → number < watched.ticks ∧ idleBound timeout ≤ number ∧
    ∀ time ∈ watched.activities, time ≤ tickTime (number - idleBound timeout) ∨ tickTime number ≤ time

theorem tickTime_mono {first second : Nat} (before : first ≤ second) : tickTime first ≤ tickTime second :=
  Nat.mul_le_mul_left _ before

theorem Quiet.start : Quiet timeout start := by
  refine ⟨fun time member => ?_, fun _ active => ?_, fun number reported => ?_⟩
  · cases member
  · cases active
  · cases reported

theorem Quiet.step {timeout : Nat} {watched : Watched} (quiet : Quiet timeout watched) (event : Event)
    (timely : Timely watched event) : Quiet timeout (step timeout watched event) := by
  have later : ∀ time ∈ watched.activities, time ≤ tickTime (watched.ticks + 1) := fun time member =>
    (quiet.past time member).trans (tickTime_mono (Nat.le_succ _))
  cases event with
  | activity now =>
    refine ⟨?_, fun _ active => absurd active Bool.true_eq_false.mp, ?_⟩
    · intro time member
      rcases List.mem_cons.mp member with rfl | before
      · exact timely.2
      · exact quiet.past time before
    · intro number reported
      obtain ⟨before, enough, apart⟩ := quiet.ended number reported
      refine ⟨before, enough, ?_⟩
      intro time member
      rcases List.mem_cons.mp member with rfl | past
      · have reached : number ≤ watched.ticks - 1 := Nat.le_sub_one_of_lt before
        exact .inr ((tickTime_mono reached).trans timely.1)
      · exact apart time past
  | tick =>
    rcases step_tick_cases timeout watched with ⟨reported, done⟩ | ⟨reported, active, done⟩ |
      ⟨reported, active, due, done⟩ | ⟨reported, active, more, done⟩
    · rw [done]
      refine ⟨later, fun none => absurd none reported, ?_⟩
      intro number known
      obtain ⟨before, enough, apart⟩ := quiet.ended number known
      exact ⟨Nat.lt_succ_of_lt before, enough, apart⟩
    · rw [done]
      refine ⟨later, fun _ _ => ⟨Nat.succ_pos _, quiet.past⟩, fun number known => ?_⟩
      cases reported.symm.trans known
    · rw [done]
      obtain ⟨few, none_since⟩ := quiet.idle reported active
      refine ⟨later, fun none => absurd none (Option.some_ne_none _), ?_⟩
      intro number known
      obtain rfl : watched.ticks = number := Option.some.inj known
      have bound : watched.ticks - 1 - watched.idleTicks ≤ watched.ticks - idleBound timeout := by omega
      exact ⟨Nat.lt_succ_self _, by omega, fun time member =>
        .inl ((none_since time member).trans (tickTime_mono bound))⟩
    · rw [done]
      obtain ⟨few, none_since⟩ := quiet.idle reported active
      have same : watched.ticks + 1 - 1 - (watched.idleTicks + 1) = watched.ticks - 1 - watched.idleTicks := by omega
      refine ⟨later, fun _ _ => ⟨Nat.succ_lt_succ few, ?_⟩, fun number known => ?_⟩
      · rw [same]
        exact none_since
      · cases reported.symm.trans known

/-- Of the activities up to some time, the last active tick is at most one tick away. -/
structure Due (timeout last : Nat) (watched : Watched) : Prop where
  active : watched.reported = none → watched.hadActivity = true → tickTime (watched.ticks - 1) ≤ last
  idle : watched.reported = none → watched.hadActivity = false → watched.idleTicks < watched.ticks ∧
    watched.idleTicks < idleBound timeout ∧ tickTime (watched.ticks - 1 - watched.idleTicks - 1) ≤ last
  ended : ∀ number, watched.reported = some number → tickTime number ≤ last + tickTime (idleBound timeout + 1)

theorem Due.start (last : Nat) : Due timeout last start := by
  refine ⟨fun _ _ => Nat.zero_le last, fun _ active => ?_, fun number reported => ?_⟩
  · cases active
  · cases reported

theorem Due.step {timeout last : Nat} {watched : Watched} (due : Due timeout last watched) (event : Event)
    (timely : Timely watched event) (until_last : ∀ time, event = .activity time → time ≤ last) :
    Due timeout last (step timeout watched event) := by
  cases event with
  | activity now =>
    exact ⟨fun _ _ => timely.1.trans (until_last now rfl), fun _ active => absurd active Bool.true_eq_false.mp,
      due.ended⟩
  | tick =>
    rcases step_tick_cases timeout watched with ⟨reported, done⟩ | ⟨reported, active, done⟩ |
      ⟨reported, active, enough, done⟩ | ⟨reported, active, more, done⟩
    · rw [done]
      exact ⟨fun none => absurd none reported, fun none => absurd none reported, due.ended⟩
    · rw [done]
      refine ⟨fun _ active => absurd active Bool.false_ne_true, fun _ _ => ⟨Nat.succ_pos _, ?_, ?_⟩,
        fun number known => ?_⟩
      · exact Nat.lt_of_lt_of_le Nat.zero_lt_one (le_max_right _ _)
      · exact due.active reported active
      · cases reported.symm.trans known
    · rw [done]
      obtain ⟨few, below, recent⟩ := due.idle reported active
      refine ⟨fun none => absurd none (Option.some_ne_none _), fun none => absurd none (Option.some_ne_none _), ?_⟩
      intro number known
      obtain rfl : watched.ticks = number := Option.some.inj known
      simp only [tickTime] at recent ⊢
      omega
    · rw [done]
      obtain ⟨few, -, recent⟩ := due.idle reported active
      have same : watched.ticks + 1 - 1 - (watched.idleTicks + 1) - 1 = watched.ticks - 1 - watched.idleTicks - 1 := by
        omega
      refine ⟨fun _ busy => absurd (active.symm.trans busy) Bool.false_ne_true,
        fun _ _ => ⟨Nat.succ_lt_succ few, more, ?_⟩, fun number known => ?_⟩
      · rw [same]
        exact recent
      · cases reported.symm.trans known

theorem quiet_run (events : List Event) (timely : Always (step timeout) Timely start events) :
    Quiet timeout (run (step timeout) start events) :=
  timely.invariant (step timeout) (Quiet timeout) (fun _ event meets quiet => quiet.step event meets) (.start timeout)

theorem activities_step_tick (watched : Watched) : (step timeout watched .tick).activities = watched.activities := by
  rcases step_tick_cases timeout watched with ⟨-, done⟩ | ⟨-, -, done⟩ | ⟨-, -, -, done⟩ | ⟨-, -, -, done⟩ <;> rw [done]

theorem due_run (last : Nat) (events : List Event) (timely : Always (step timeout) Timely start events)
    (until_last : ∀ time ∈ (run (step timeout) start events).activities, time ≤ last) :
    Due timeout last (run (step timeout) start events) := by
  induction events using List.reverseRecOn with
  | nil => exact .start timeout last
  | append_singleton events event ih =>
    rw [always_append] at timely
    rw [run_append] at until_last ⊢
    cases event with
    | activity now =>
      have before := ih timely.1 fun time member => until_last time (List.mem_cons_of_mem now member)
      refine before.step _ timely.2.1 ?_
      rintro time ⟨⟩
      exact until_last now List.mem_cons_self
    | tick =>
      have before := ih timely.1 fun time member => until_last time (by
        rw [← activities_step_tick timeout] at member
        exact member)
      exact before.step _ timely.2.1 fun time other => by cases other

/-- The report comes with the first tick after the timeout or with the next one. -/
theorem prompt_run (events : List Event) (timely : Always (step timeout) Timely start events) :
    Prompt timeout (run (step timeout) start events) := by
  intro last until_last late
  have due := due_run timeout last events timely until_last
  generalize run (step timeout) start events = watched at due late
  have short : tickTime (idleBound timeout + 1) ≤ timeout + 20 * second := by
    simp only [tickTime, idleBound, maxIdleTicks, second]
    omega
  cases reported : watched.reported with
  | some number =>
    have bound := due.ended number reported
    exact ⟨number, rfl, by omega⟩
  | none =>
    exfalso
    cases active : watched.hadActivity with
    | true =>
      have bound := due.active reported active
      simp only [tickTime, second] at bound late short
      omega
    | false =>
      obtain ⟨few, below, bound⟩ := due.idle reported active
      simp only [tickTime, second] at bound late short
      omega

theorem onlyIdle_run (whole : timeout ≤ tickTime (idleBound timeout)) (events : List Event)
    (timely : Always (step timeout) Timely start events) : OnlyIdle timeout (run (step timeout) start events) := by
  rintro number reported time member ⟨recent, before⟩
  obtain ⟨-, enough, apart⟩ := (quiet_run timeout events timely).ended number reported
  rcases apart time member with early | late
  · simp only [tickTime] at whole recent early
    omega
  · omega

theorem step_due (watched : Watched) (reported : watched.reported = none) (active : watched.hadActivity = false)
    (due : idleBound timeout ≤ watched.idleTicks + 1) :
    step timeout watched .tick =
      { watched with
        idleTicks := watched.idleTicks + 1, reported := some watched.ticks, ticks := watched.ticks + 1 } := by
  rcases step_tick_cases timeout watched with ⟨other, -⟩ | ⟨-, other, -⟩ | ⟨-, -, -, done⟩ | ⟨-, -, other, -⟩
  · exact absurd reported other
  · exact absurd (active.symm.trans other) Bool.false_ne_true
  · exact done
  · omega

theorem run_idle (count : Nat) (watched : Watched) (reported : watched.reported = none)
    (active : watched.hadActivity = false) (few : watched.idleTicks + count < idleBound timeout) :
    run (step timeout) watched (List.replicate count .tick) =
      { watched with idleTicks := watched.idleTicks + count, ticks := watched.ticks + count } := by
  induction count generalizing watched with
  | zero => rfl
  | succ count ih =>
    rcases step_tick_cases timeout watched with ⟨other, -⟩ | ⟨-, other, -⟩ | ⟨-, -, other, -⟩ | ⟨-, -, -, done⟩
    · exact absurd reported other
    · exact absurd (active.symm.trans other) Bool.false_ne_true
    · omega
    · have fewer : watched.idleTicks + 1 + count < idleBound timeout := by omega
      have next :=
        ih { watched with idleTicks := watched.idleTicks + 1, ticks := watched.ticks + 1 } reported active fewer
      change run (step timeout) (step timeout watched .tick) (List.replicate count .tick) = _
      rw [done, next]
      simp only [Nat.add_assoc, Nat.add_comm 1 count]

theorem always_ticks (count : Nat) (watched : Watched) :
    Always (step timeout) Timely watched (List.replicate count .tick) := by
  induction count generalizing watched with
  | zero => trivial
  | succ count ih => exact ⟨trivial, ih _⟩

def lastActivity (timeout : Nat) : List Event :=
  [.tick, .activity (tickTime 1), .tick] ++ (List.replicate (maxIdleTicks timeout - 1) .tick ++ [.tick])

theorem run_lastActivity (long : 1 ≤ maxIdleTicks timeout) :
    (run (step timeout) start (lastActivity timeout)).reported = some (maxIdleTicks timeout + 1) ∧
      (run (step timeout) start (lastActivity timeout)).activities = [tickTime 1] := by
  have bound : idleBound timeout = maxIdleTicks timeout := max_eq_left long
  rw [lastActivity, run_append, run_append]
  change (run (step timeout) (run (step timeout) ⟨false, 0, none, 2, [tickTime 1]⟩ _) [.tick]).reported = _ ∧
    (run (step timeout) (run (step timeout) ⟨false, 0, none, 2, [tickTime 1]⟩ _) [.tick]).activities = _
  rw [run_idle timeout (maxIdleTicks timeout - 1) _ rfl rfl (by simp only; omega)]
  change (step timeout _ .tick).reported = _ ∧ (step timeout _ .tick).activities = _
  rw [step_due timeout _ rfl rfl (by simp only; omega)]
  exact ⟨congrArg some (by simp only; omega), rfl⟩

/-- The watchdog keeps both promises exactly for timeouts below ten seconds and for multiples of them: any other
timeout is cut down to whole ticks. -/
theorem watchdog_iff (timeout : Nat) :
    (∀ events, Always (step timeout) Timely start events →
      OnlyIdle timeout (run (step timeout) start events) ∧ Prompt timeout (run (step timeout) start events)) ↔
      timeout < 10 * second ∨ 10 * second ∣ timeout := by
  constructor
  · intro keeps
    by_contra other
    have long : 1 ≤ maxIdleTicks timeout := by
      simp only [maxIdleTicks, second] at other ⊢
      omega
    have cut : tickTime (maxIdleTicks timeout) < timeout := by
      simp only [tickTime, maxIdleTicks, second] at other ⊢
      omega
    obtain ⟨reported, activities⟩ := run_lastActivity timeout long
    have timely : Always (step timeout) Timely start (lastActivity timeout) := by
      rw [lastActivity, always_append, always_append]
      have between : tickTime 0 ≤ tickTime 1 ∧ tickTime 1 ≤ tickTime 1 := by decide
      exact ⟨⟨trivial, between, trivial, trivial⟩, always_ticks timeout _ _, trivial, trivial⟩
    have idle := (keeps _ timely).1 _ reported (tickTime 1) (by rw [activities]; exact List.mem_singleton_self _)
    simp only [tickTime] at idle cut
    omega
  · intro whole events timely
    refine ⟨onlyIdle_run timeout ?_ events timely, prompt_run timeout events timely⟩
    simp only [tickTime, idleBound, maxIdleTicks, second] at whole ⊢
    omega

/-- A timeout of nineteen seconds: the connection is ended ten seconds after a transfer. -/
theorem nineteen_seconds_cut :
    let events : List Event := [.tick, .activity 9900000000, .tick, .tick]
    Always (step (19 * second)) Timely start events ∧
      (run (step (19 * second)) start events).reported = some 2 ∧ tickTime 2 = 20 * second ∧
      ¬OnlyIdle (19 * second) (run (step (19 * second)) start events) := by
  refine ⟨⟨trivial, ⟨by decide, by decide⟩, trivial, trivial, trivial⟩, by decide, by decide, ?_⟩
  intro idle
  exact idle 2 (by decide) 9900000000 (by decide) (by decide)

end Praeco.Tunnel.Watchdog
