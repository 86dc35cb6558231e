import Praeco.Breaker.Guards

/-! When a failure trips the circuit. The counter of a node is compared with the calls that were made on it, one after
the other, since it was last reset; it has 64 bits. -/

namespace Praeco.Breaker.Threshold
open Praeco.Schedule.Runs Praeco.Breaker.Node Praeco.Breaker.Guards

inductive Call where
  | recordSuccess
  | recordFailure (failureThreshold now : Nat)
  | markDead (now : Nat)
  | markAlive
  | tryEnterHalfOpenProbe (cooldownSeconds now : Nat)
  deriving DecidableEq, Repr

namespace Call

def perform (node : UpstreamNode) : Call → UpstreamNode
  | .recordSuccess => node.recordSuccess
  | .recordFailure failureThreshold now => (node.recordFailure failureThreshold now).2
  | .markDead now => node.markDead now
  | .markAlive => node.markAlive
  | .tryEnterHalfOpenProbe cooldownSeconds now => (node.tryEnterHalfOpenProbe cooldownSeconds now).2

/-- The calls that reset a node; a success does so if the node was dead or had failures. -/
def resets (node : UpstreamNode) : Call → Bool
  | .markAlive => true
  | .recordSuccess => !node.isAlive || 0 < node.consecutiveFailures
  | _ => false

def isFailure : Call → Bool
  | .recordFailure _ _ => true
  | _ => false

end Call

structure Watched where
  node : UpstreamNode
  since : List Call

namespace Watched

def initial : Watched := ⟨.new, []⟩

def step (watched : Watched) (call : Call) : Watched :=
  ⟨call.perform watched.node, if call.resets watched.node then [] else watched.since ++ [call]⟩

def failures (watched : Watched) : Nat := watched.since.countP Call.isFailure

/-- What every sequence of calls keeps: the counter holds the failures since the reset as far as its bits go. -/
structure Counted (watched : Watched) : Prop where
  consistent : Consistent watched.node
  counter : watched.node.consecutiveFailures = watched.failures % 2 ^ 64

theorem counted_initial : Counted initial where
  consistent := by decide
  counter := rfl

theorem failures_step (watched : Watched) (call : Call) :
    (watched.step call).failures =
      if call.resets watched.node then 0 else watched.failures + if call.isFailure then 1 else 0 := by
  unfold failures step
  split_ifs with reset failed
  · rfl
  · simp [failed]
  · simp [failed]

end Watched

theorem add64_counted (count : Nat) : add64 (count % 2 ^ 64) 1 = (count + 1) % 2 ^ 64 := Nat.mod_add_mod _ _ _

section

variable (node : UpstreamNode)

theorem recordFailure_counter (failureThreshold now : Nat) :
    (node.recordFailure failureThreshold now).2.consecutiveFailures = add64 node.consecutiveFailures 1 := by
  unfold UpstreamNode.recordFailure
  dsimp only
  split_ifs
  · rfl
  · rfl

theorem tryEnterHalfOpenProbe_counter (cooldownSeconds now : Nat) :
    (node.tryEnterHalfOpenProbe cooldownSeconds now).2.consecutiveFailures = node.consecutiveFailures := by
  cases won : (node.tryEnterHalfOpenProbe cooldownSeconds now).1 with
  | true => rw [(tryEnterHalfOpenProbe_won won).2.2]
  | false => rw [tryEnterHalfOpenProbe_lost won]

theorem recordFailure_spec (failureThreshold now : Nat) (consistent : Consistent node) :
    if node.circuitState = .halfOpen ∨ max failureThreshold 1 ≤ add64 node.consecutiveFailures 1 then
      (node.recordFailure failureThreshold now).1 = true ∧
        (node.recordFailure failureThreshold now).2.circuitState = .opened
    else
      (node.recordFailure failureThreshold now).1 = false ∧
        (node.recordFailure failureThreshold now).2.isAlive = node.isAlive ∧
        (node.recordFailure failureThreshold now).2.circuitState = node.circuitState := by
  have probe : (node.halfOpenProbeInFlight || node.circuitState = .halfOpen) =
      decide (node.circuitState = .halfOpen) := by
    rw [Bool.eq_iff_iff, Bool.or_eq_true, consistent.2, decide_eq_true_iff, or_self]
  unfold UpstreamNode.recordFailure
  dsimp only
  rw [probe]
  split_ifs with condition tripped tripped
  · exact ⟨rfl, rfl⟩
  · exact absurd (by simpa using condition) tripped
  · exact absurd (by simpa using tripped) condition
  · exact ⟨rfl, rfl, rfl⟩

end

theorem counted_step {watched : Watched} (counted : watched.Counted) (call : Call) : (watched.step call).Counted := by
  obtain ⟨consistent, counter⟩ := counted
  cases call with
  | recordSuccess =>
    refine ⟨consistent_recordSuccess consistent, ?_⟩
    rw [Watched.failures_step]
    change watched.node.recordSuccess.consecutiveFailures = _
    simp only [Call.resets, Call.isFailure, UpstreamNode.recordSuccess, Bool.false_eq_true, if_false, Nat.add_zero]
    split_ifs with reset
    · rfl
    · exact counter
  | recordFailure failureThreshold now =>
    refine ⟨consistent_recordFailure consistent failureThreshold now, ?_⟩
    rw [Watched.failures_step]
    change (watched.node.recordFailure failureThreshold now).2.consecutiveFailures = (watched.failures + 1) % 2 ^ 64
    rw [recordFailure_counter, counter, add64_counted]
  | markDead now =>
    refine ⟨consistent_markDead watched.node now, ?_⟩
    rw [Watched.failures_step]
    exact counter
  | markAlive =>
    refine ⟨consistent_markAlive watched.node, ?_⟩
    rw [Watched.failures_step]
    rfl
  | tryEnterHalfOpenProbe cooldownSeconds now =>
    refine ⟨consistent_newGuard consistent cooldownSeconds now, ?_⟩
    rw [Watched.failures_step]
    exact (tryEnterHalfOpenProbe_counter watched.node cooldownSeconds now).trans counter

theorem counted_run (calls : List Call) : (run Watched.step Watched.initial calls).Counted := by
  induction calls using List.reverseRecOn with
  | nil => exact Watched.counted_initial
  | append_singleton calls call ih =>
    rw [run_append]
    exact counted_step ih call

/-- After any calls on a new node, a failure trips the circuit exactly if a probe was under way or the failures since
the last reset, as 64 bits count them, have reached the threshold. -/
theorem recordFailure_trips_iff (calls : List Call) (failureThreshold now : Nat) :
    let watched := run Watched.step Watched.initial calls
    let node := watched.node
    let failed := node.recordFailure failureThreshold now
    let reached := node.circuitState = .halfOpen ∨ max failureThreshold 1 ≤ (watched.failures + 1) % 2 ^ 64
    (failed.1 = true ∧ failed.2.circuitState = .opened ↔ reached) ∧
      (¬reached → failed.1 = false ∧ failed.2.isAlive = node.isAlive ∧ failed.2.circuitState = node.circuitState) := by
  intro watched node failed reached
  have counted : watched.Counted := counted_run calls
  have spec := recordFailure_spec node failureThreshold now counted.consistent
  rw [show node.consecutiveFailures = _ from counted.counter, add64_counted] at spec
  split_ifs at spec with condition
  · exact ⟨iff_of_true spec condition, fun missed => absurd condition missed⟩
  · refine ⟨iff_of_false ?_ condition, fun _ => spec⟩
    rintro ⟨tripped, -⟩
    rw [spec.1] at tripped
    cases tripped

section

variable (failureThreshold now : Nat)

theorem failures_replicate (count : Nat) :
    (run Watched.step Watched.initial (List.replicate count (.recordFailure failureThreshold now))).failures =
      count := by
  induction count with
  | zero => rfl
  | succ count ih =>
    rw [List.replicate_succ', run_append]
    change (Watched.step _ _).failures = _
    rw [Watched.failures_step, ih]
    rfl

theorem no_probe_replicate (count : Nat) :
    (run Watched.step Watched.initial (List.replicate count (.recordFailure failureThreshold now))).node.circuitState ≠
      .halfOpen := by
  induction count with
  | zero => exact nofun
  | succ count ih =>
    rw [List.replicate_succ', run_append]
    change (UpstreamNode.recordFailure _ failureThreshold now).2.circuitState ≠ _
    have spec := recordFailure_spec _ failureThreshold now (counted_run
      (List.replicate count (.recordFailure failureThreshold now))).consistent
    split_ifs at spec
    · rw [spec.2]
      decide
    · rw [spec.2.2]
      exact ih

theorem full_counter_passes (count : Nat) (full : (count + 1) % 2 ^ 64 = 0) :
    ((run Watched.step Watched.initial (List.replicate count (.recordFailure failureThreshold now))).node.recordFailure
      failureThreshold now).1 = false := by
  have counted := counted_run (List.replicate count (.recordFailure failureThreshold now))
  have spec := recordFailure_spec _ failureThreshold now counted.consistent
  rw [counted.counter, failures_replicate, add64_counted, full, if_neg] at spec
  · exact spec.1
  · rintro (probe | reached)
    · exact no_probe_replicate failureThreshold now count probe
    · omega

end

/-- The 2^64th failure finds the counter at its end and starts again at zero: it is not taken to reach the threshold. -/
theorem wrapped_failure_passes :
    let watched := run Watched.step Watched.initial (List.replicate (2 ^ 64 - 1) (.recordFailure 1 0))
    max 1 1 ≤ watched.failures + 1 ∧ (watched.node.recordFailure 1 0).1 = false :=
  ⟨Nat.le_add_left 1 _, full_counter_passes 1 0 (2 ^ 64 - 1) rfl⟩

end Praeco.Breaker.Threshold
