import Mathlib

/-! An upstream node and its circuit breaker. Each operation here runs as a whole; the clock is read by the
operations that need it and is given as a number of seconds. -/

namespace Praeco.Breaker.Node

inductive CircuitState where
  | closed
  | opened
  | halfOpen
  deriving DecidableEq, Repr

/-- Counters and times are of 64 bits and wrap. -/
def add64 (first second : Nat) : Nat := (first + second) % 2 ^ 64

structure UpstreamNode where
  activeConnections : Nat
  isAlive : Bool
  lastFailureTime : Nat
  currentScore : Nat
  consecutiveFailures : Nat
  circuitState : CircuitState
  halfOpenProbeInFlight : Bool
  totalRequests : Nat
  totalFailures : Nat
  circuitTrips : Nat
  failoverRetries : Nat
  lastResponseMs : Nat
  emaResponseMs : Nat
  deriving DecidableEq, Repr

namespace UpstreamNode

def new : UpstreamNode where
  activeConnections := 0
  isAlive := true
  lastFailureTime := 0
  currentScore := 0
  consecutiveFailures := 0
  circuitState := .closed
  halfOpenProbeInFlight := false
  totalRequests := 0
  totalFailures := 0
  circuitTrips := 0
  failoverRetries := 0
  lastResponseMs := 0
  emaResponseMs := 0

variable (node : UpstreamNode)

def recordLatencyMs (sampleMs : Nat) : UpstreamNode :=
  let prev := node.emaResponseMs
  { node with
    lastResponseMs := sampleMs
    emaResponseMs :=
      if prev = 0 then sampleMs else min (min (prev * 3) (2 ^ 64 - 1) + sampleMs) (2 ^ 64 - 1) / 4 }

def markDead (now : Nat) : UpstreamNode :=
  { node with
    totalFailures := add64 node.totalFailures 1
    isAlive := false
    circuitState := .opened
    halfOpenProbeInFlight := false
    lastFailureTime := now
    circuitTrips :=
      if node.isAlive ∨ node.circuitState ≠ .opened then add64 node.circuitTrips 1 else node.circuitTrips }

def markAlive : UpstreamNode :=
  { node with
    consecutiveFailures := 0
    halfOpenProbeInFlight := false
    circuitState := .closed
    isAlive := true
    lastFailureTime := 0 }

def recordSuccess : UpstreamNode :=
  if !node.isAlive || 0 < node.consecutiveFailures then node.markAlive else node

def recordFailure (failureThreshold now : Nat) : Bool × UpstreamNode :=
  let failures := add64 node.consecutiveFailures 1
  let wasProbe := node.halfOpenProbeInFlight || node.circuitState = .halfOpen
  let counted := { node with consecutiveFailures := failures, halfOpenProbeInFlight := false }
  if wasProbe || max failureThreshold 1 ≤ failures then (true, counted.markDead now)
  else (false, { counted with totalFailures := add64 node.totalFailures 1 })

def tryEnterHalfOpenProbe (cooldownSeconds now : Nat) : Bool × UpstreamNode :=
  if node.isAlive then (false, node)
  else if node.lastFailureTime = 0 then (false, node)
  else if now ≤ add64 node.lastFailureTime cooldownSeconds then (false, node)
  else if node.halfOpenProbeInFlight then (false, node)
  else (true, { node with halfOpenProbeInFlight := true, circuitState := .halfOpen })

def isAvailable (cooldownSeconds now : Nat) : Bool :=
  node.isAlive || !node.halfOpenProbeInFlight && node.lastFailureTime ≠ 0 &&
    add64 node.lastFailureTime cooldownSeconds < now

end UpstreamNode

structure ProbeGuard where
  isProbe : Bool
  completed : Bool
  deriving DecidableEq, Repr

namespace ProbeGuard

def new (node : UpstreamNode) (cooldownSeconds now : Nat) : ProbeGuard × UpstreamNode :=
  let (isProbe, entered) := node.tryEnterHalfOpenProbe cooldownSeconds now
  (⟨isProbe, false⟩, entered)

def complete (guard : ProbeGuard) : ProbeGuard := { guard with completed := true }

def drop (guard : ProbeGuard) (node : UpstreamNode) : UpstreamNode :=
  if guard.isProbe && !guard.completed then { node with halfOpenProbeInFlight := false, circuitState := .opened }
  else node

def isOutstanding (guard : ProbeGuard) : Bool := guard.isProbe && !guard.completed

end ProbeGuard

section

variable {node : UpstreamNode} {cooldownSeconds now : Nat}

theorem isAvailable_of_elapsed (failed : node.lastFailureTime ≠ 0) (free : node.halfOpenProbeInFlight = false)
    (elapsed : node.lastFailureTime + cooldownSeconds < now) : node.isAvailable cooldownSeconds now = true := by
  have wrapped : add64 node.lastFailureTime cooldownSeconds < now := (Nat.mod_le _ _).trans_lt elapsed
  simp [UpstreamNode.isAvailable, failed, free, wrapped]

theorem tryEnterHalfOpenProbe_won (won : (node.tryEnterHalfOpenProbe cooldownSeconds now).1 = true) :
    node.isAlive = false ∧ node.halfOpenProbeInFlight = false ∧
      (node.tryEnterHalfOpenProbe cooldownSeconds now).2 =
        { node with halfOpenProbeInFlight := true, circuitState := .halfOpen } := by
  unfold UpstreamNode.tryEnterHalfOpenProbe at won ⊢
  split_ifs at won ⊢ with alive unstamped cooling taken
  exact ⟨Bool.eq_false_iff.mpr alive, Bool.eq_false_iff.mpr taken, rfl⟩

theorem tryEnterHalfOpenProbe_lost (lost : (node.tryEnterHalfOpenProbe cooldownSeconds now).1 = false) :
    (node.tryEnterHalfOpenProbe cooldownSeconds now).2 = node := by
  unfold UpstreamNode.tryEnterHalfOpenProbe at lost ⊢
  split_ifs at lost ⊢ with alive unstamped cooling taken
  · rfl
  · rfl
  · rfl
  · rfl

end

end Praeco.Breaker.Node
