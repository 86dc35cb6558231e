import Praeco.Router.Outliers

/-! What the faults of a streamed request body do to the node that the request was sent to. The upstream of this module
takes in what it is sent and answers at once when it has the whole request. Held bodies are read before a node is
selected, so only streams can fail or stall during an attempt. -/

namespace Praeco.Router.ClientFaults
open Praeco.Strings Utf8 Praeco.Http.Message Praeco.Breaker.Node Praeco.Router.Config Praeco.Router.Balancing
  Praeco.Router.Failover Praeco.Router.Attempts Praeco.Router.Outliers

inductive BodyError where
  | payloadTooLarge (current max : Nat)
  | decompressionLimitExceeded (max : Nat)
  | clientAborted (message : Text)
  | other (message : Text)
  deriving DecidableEq, Repr

structure BodyErrorTracker where
  lastError : Option BodyError

def BodyError.recorded : BodyError → BodyError
  | .other message =>
    if "Payload Limit Exceeded".toList <:+: message then .payloadTooLarge 0 0
    else if "Decompressed payload".toList <:+: message then .decompressionLimitExceeded 0
    else .clientAborted message
  | error => error

def BodyErrorTracker.pollFrame (tracker : BodyErrorTracker) : Except BodyError Bytes → BodyErrorTracker
  | .error error => ⟨some error.recorded⟩
  | .ok _ => tracker

/-- The cause of a failed request: what the tracker has seen, and otherwise what the error of the client library is
taken for. -/
def errorKind (tracker : BodyErrorTracker) (classified : ProxyErrorKind) : ProxyErrorKind :=
  match tracker.lastError with
  | some (.payloadTooLarge _ _) => .payloadTooLarge
  | some (.decompressionLimitExceeded _) => .decompressionLimitExceeded
  | some (.clientAborted reason) => .clientAborted reason
  | some (.other _) => .clientAborted "Client stream error".toList
  | none => classified

/-- What a body yields, each item after a number of milliseconds, until it is finished, fails, or falls silent. -/
inductive ClientBody where
  | data (after : Nat) (bytes : Bytes) (rest : ClientBody)
  | finished (after : Nat)
  | failed (after : Nat) (error : BodyError)
  | silent
  deriving DecidableEq, Repr

def Elapsed (requestTimeout : Option Nat) (time : Nat) : Prop := ∃ limit ∈ requestTimeout, limit < time

instance (requestTimeout : Option Nat) (time : Nat) : Decidable (Elapsed requestTimeout time) :=
  match requestTimeout with
  | none => .isFalse fun elapsed => by obtain ⟨_, none, _⟩ := elapsed; cases none
  | some limit => decidable_of_iff (limit < time) (by simp [Elapsed])

/-- The request under its timeout, from a time on. Without a timeout a silent body keeps it waiting. -/
def exchange (requestTimeout : Option Nat) (classified : ProxyErrorKind) (answer : Response)
    (tracker : BodyErrorTracker) : Nat → ClientBody → Option Outcome
  | time, .data after bytes rest =>
    if Elapsed requestTimeout (time + after) then some .timedOut
    else exchange requestTimeout classified answer (tracker.pollFrame (.ok bytes)) (time + after) rest
  | time, .finished after =>
    if Elapsed requestTimeout (time + after) then some .timedOut else some (.response answer)
  | time, .failed after error =>
    if Elapsed requestTimeout (time + after) then some .timedOut
    else some (.failed (errorKind (tracker.pollFrame (.error error)) classified))
  | _, .silent => if requestTimeout.isSome then some .timedOut else none

namespace ClientBody

def fault : ClientBody → Option BodyError
  | .data _ _ rest => rest.fault
  | .failed _ error => some error
  | _ => none

def endsAt : ClientBody → Option Nat
  | .data after _ rest => rest.endsAt.map (after + ·)
  | .finished after => some after
  | .failed after _ => some after
  | .silent => none

def Stalls (body : ClientBody) (requestTimeout : Option Nat) (time : Nat) : Prop :=
  ∃ limit ∈ requestTimeout, ∀ finish ∈ body.endsAt, limit < time + finish

def Faulty (body : ClientBody) (requestTimeout : Option Nat) : Prop :=
  body.fault.isSome ∨ body.Stalls requestTimeout 0

end ClientBody

section

variable {requestTimeout : Option Nat} {classified : ProxyErrorKind} {answer : Response} {body : ClientBody}

theorem stalls_data {after : Nat} {bytes : Bytes} {rest : ClientBody} {time : Nat} :
    (ClientBody.data after bytes rest).Stalls requestTimeout time ↔ rest.Stalls requestTimeout (time + after) := by
  simp [ClientBody.Stalls, ClientBody.endsAt, Nat.add_assoc]

theorem stalls_failed {after : Nat} {error : BodyError} {time : Nat} :
    (ClientBody.failed after error).Stalls requestTimeout time ↔ Elapsed requestTimeout (time + after) := by
  simp [ClientBody.Stalls, ClientBody.endsAt, Elapsed]

theorem stalls_of_elapsed {time : Nat} (elapsed : Elapsed requestTimeout time) : body.Stalls requestTimeout time := by
  obtain ⟨limit, timeout, late⟩ := elapsed
  exact ⟨limit, timeout, fun finish _ => late.trans_le (Nat.le_add_right time finish)⟩

theorem errorKind_pollFrame (tracker : BodyErrorTracker) (error : BodyError) :
    errorKind (tracker.pollFrame (.error error)) classified ≠ .upstreamFailure := by
  rw [BodyErrorTracker.pollFrame, errorKind]
  cases error.recorded <;> simp

theorem exchange_stalls (tracker : BodyErrorTracker) {time : Nat} (stalls : body.Stalls requestTimeout time) :
    exchange requestTimeout classified answer tracker time body = some .timedOut := by
  induction body generalizing tracker time with
  | data after bytes rest ih =>
    rw [exchange]
    split_ifs
    · rfl
    · exact ih _ (stalls_data.mp stalls)
  | finished after =>
    obtain ⟨limit, timeout, late⟩ := stalls
    exact if_pos ⟨limit, timeout, late after rfl⟩
  | failed after error => exact if_pos (stalls_failed.mp stalls)
  | silent =>
    obtain ⟨limit, timeout, _⟩ := stalls
    cases timeout
    rfl

theorem exchange_fails (tracker : BodyErrorTracker) {time : Nat} (timely : ¬body.Stalls requestTimeout time)
    (fails : body.fault.isSome) :
    ∃ kind, kind ≠ .upstreamFailure ∧
      exchange requestTimeout classified answer tracker time body = some (.failed kind) := by
  induction body generalizing tracker time with
  | data after bytes rest ih =>
    rw [stalls_data] at timely
    rw [exchange, if_neg fun elapsed => timely (stalls_of_elapsed elapsed)]
    exact ih _ timely fails
  | failed after error =>
    rw [stalls_failed] at timely
    exact ⟨_, errorKind_pollFrame tracker error, if_neg timely⟩
  | finished after => cases fails
  | silent => cases fails

end

def health (node : UpstreamNode) : Bool × Nat × Nat := (node.isAlive, node.consecutiveFailures, node.lastFailureTime)

def breaker (node : UpstreamNode) : (Bool × Nat × Nat) × Bool × CircuitState :=
  (health node, node.halfOpenProbeInFlight, node.circuitState)

def Probes (attempt : Attempt) (nodes : Nodes) : Prop := isMultiNode attempt.target = true ∧ attempt.Wins nodes

instance (attempt : Attempt) (nodes : Nodes) : Decidable (Probes attempt nodes) := inferInstanceAs (Decidable (_ ∧ _))

section

variable {attempt : Attempt} {nodes : Nodes} {handler : Handler} {outcome : Outcome}

theorem breaker_openConnection :
    breaker (attempt.selection.openConnection nodes attempt.index) = breaker (nodes attempt.index) := by
  rw [Selection.openConnection, Selection.atUri]
  exact read_updateNode breaker fun _ => rfl

theorem breaker_closeConnection :
    breaker (attempt.selection.closeConnection nodes attempt.index) = breaker (nodes attempt.index) := by
  rw [Selection.closeConnection, Selection.atUri]
  exact read_updateNode breaker fun _ => by simp only [breaker, health]

theorem breaker_countRetry : breaker (attempt.countRetry nodes attempt.index) = breaker (nodes attempt.index) := by
  unfold Attempt.countRetry
  split_ifs
  · rw [Selection.countRetry, atNode_index]
    rfl
  · rfl

theorem claim_won (probes : Probes attempt nodes) :
    attempt.claim nodes = (some ⟨true, false⟩, Function.update nodes attempt.index
      { nodes attempt.index with halfOpenProbeInFlight := true, circuitState := .halfOpen }) := by
  have entered :
      (nodes attempt.index).tryEnterHalfOpenProbe attempt.target.cooldownSeconds attempt.claimedAt = (true, _) :=
    Prod.ext probes.2 (tryEnterHalfOpenProbe_won probes.2).2.2
  rw [Attempt.claim, Selection.claim, if_pos probes.1, ProbeGuard.new, entered]

theorem claim_lost (free : ¬Probes attempt nodes) :
    (attempt.claim nodes).2 attempt.index = nodes attempt.index ∧
      ∀ node, ((attempt.claim nodes).1.map (·.drop node)).getD node = node := by
  by_cases several : isMultiNode attempt.target = true
  · have lost :
        ((nodes attempt.index).tryEnterHalfOpenProbe attempt.target.cooldownSeconds attempt.claimedAt).1 = false :=
      Bool.eq_false_iff.mpr fun wins => free ⟨several, wins⟩
    have entered : (nodes attempt.index).tryEnterHalfOpenProbe attempt.target.cooldownSeconds attempt.claimedAt =
        (false, nodes attempt.index) := Prod.ext lost (tryEnterHalfOpenProbe_lost lost)
    rw [Attempt.claim, Selection.claim, if_pos several, ProbeGuard.new, entered]
    exact ⟨Function.update_self _ _ _, fun _ => rfl⟩
  · rw [Attempt.claim, Selection.claim, if_neg several]
    exact ⟨rfl, fun _ => rfl⟩

theorem breaker_claimed : breaker (attempt.selection.openConnection (attempt.claim nodes).2 attempt.index) =
    if Probes attempt nodes then (health (nodes attempt.index), true, .halfOpen)
    else breaker (nodes attempt.index) := by
  rw [breaker_openConnection]
  split_ifs with probes
  · rw [claim_won probes]
    dsimp only
    rw [Function.update_self]
    rfl
  · rw [(claim_lost probes).1]

theorem breaker_silent (report : (verdict handler outcome).1 = .silent) :
    breaker (attempt.proxied handler nodes outcome attempt.index) =
      if Probes attempt nodes then (health (nodes attempt.index), false, .opened)
      else breaker (nodes attempt.index) := by
  have before : breaker (attempt.selection.openConnection (attempt.claim nodes).2 attempt.index) = _ := breaker_claimed
  unfold Attempt.proxied
  simp only [report]
  rw [Selection.release, Selection.dropGuard, atNode_index]
  rw [← breaker_closeConnection] at before
  split_ifs at before ⊢ with probes
  · rw [claim_won probes] at before ⊢
    exact congrArg (fun fields => (fields.1, false, CircuitState.opened)) before
  · rw [(claim_lost probes).2]
    exact before

theorem breaker_dead (report : (verdict handler outcome).1 = .dead) :
    breaker (attempt.proxied handler nodes outcome attempt.index) =
      if attempt.Own then ((false, (nodes attempt.index).consecutiveFailures, attempt.reportedAt), false, .opened)
      else if Probes attempt nodes then (health (nodes attempt.index), true, .halfOpen)
      else breaker (nodes attempt.index) := by
  have before : breaker (attempt.selection.openConnection (attempt.claim nodes).2 attempt.index) = _ := breaker_claimed
  unfold Attempt.proxied
  simp only [report]
  rw [breaker_closeConnection, breaker_countRetry, Selection.tell, targetMarkDead, updateNode_index]
  split_ifs with own
  · have failures : (attempt.selection.openConnection (attempt.claim nodes).2 attempt.index).consecutiveFailures =
        (nodes attempt.index).consecutiveFailures := by
      have same := congrArg (fun fields => fields.1.2.1) before
      split_ifs at same <;> exact same
    rw [← failures]
    rfl
  all_goals rw [before]; simp [*]

end

/-- The attempt is not held against the node, gives a held slot back, and is the only one. -/
structure Harmless (handler : Handler) (attempt : Attempt) (nodes : Nodes) (outcome : Outcome) : Prop where
  healthy : health (attempt.proxied handler nodes outcome attempt.index) = health (nodes attempt.index)
  released : Probes attempt nodes →
    (attempt.proxied handler nodes outcome attempt.index).halfOpenProbeInFlight = false ∧
      (attempt.proxied handler nodes outcome attempt.index).circuitState = .opened
  single : ∀ incoming surroundings later, incoming.body.isStream = true → surroundings.outcome = outcome →
    (failover handler incoming (start incoming) (surroundings :: later)).sent.length ≤ 1

/-- The body is not late; or its lateness shows nowhere, because the node was marked dead in the same second before, or
because another node is marked in its place. -/
def Spared (attempt : Attempt) (nodes : Nodes) (requestTimeout : Option Nat) (body : ClientBody) : Prop :=
  ¬body.Stalls requestTimeout 0 ∨
    if attempt.Own then
      (nodes attempt.index).isAlive = false ∧ (nodes attempt.index).lastFailureTime = attempt.reportedAt
    else ¬Probes attempt nodes

section

variable {attempt : Attempt} {nodes : Nodes} {handler : Handler} {outcome : Outcome}

theorem failover_stream (incoming : Incoming) (surroundings : Surroundings) (later : List Surroundings)
    (stream : incoming.body.isStream = true) :
    (failover handler incoming (start incoming) (surroundings :: later)).sent.length ≤ 1 := by
  have once (attempts : Nat) : retries handler incoming attempts = false := by simp [retries, stream]
  rw [failover]
  dsimp only
  split
  · exact Nat.zero_le 1
  · split
    · exact Nat.zero_le 1
    · rw [once, Bool.and_false, if_neg Bool.false_ne_true]
      exact le_rfl

theorem harmless_of_silent (report : (verdict handler outcome).1 = .silent) :
    Harmless handler attempt nodes outcome := by
  have after : breaker (attempt.proxied handler nodes outcome attempt.index) = _ := breaker_silent report
  refine ⟨?_, ?_, fun incoming surroundings later stream _ => failover_stream incoming surroundings later stream⟩
  · refine (congrArg Prod.fst after).trans ?_
    split_ifs <;> rfl
  · intro probes
    rw [if_pos probes] at after
    simp only [breaker, Prod.mk.injEq] at after
    exact after.2

theorem harmless_dead_iff (report : (verdict handler outcome).1 = .dead) :
    Harmless handler attempt nodes outcome ↔
      if attempt.Own then
        (nodes attempt.index).isAlive = false ∧ (nodes attempt.index).lastFailureTime = attempt.reportedAt
      else ¬Probes attempt nodes := by
  have after : breaker (attempt.proxied handler nodes outcome attempt.index) = _ := breaker_dead report
  have single : ∀ incoming surroundings later, incoming.body.isStream = true → surroundings.outcome = outcome →
      (failover handler incoming (start incoming) (surroundings :: later)).sent.length ≤ 1 :=
    fun incoming surroundings later stream _ => failover_stream incoming surroundings later stream
  split_ifs at after ⊢ with own probes
  · simp only [breaker, Prod.mk.injEq] at after
    obtain ⟨marked, released⟩ := after
    constructor
    · intro harmless
      have same := marked.symm.trans harmless.healthy
      simp only [health, Prod.mk.injEq] at same
      exact ⟨same.1.symm, same.2.2.symm⟩
    · rintro ⟨dead, recent⟩
      refine ⟨?_, fun _ => released, single⟩
      rw [marked, health, dead, recent]
  · refine iff_of_false ?_ (not_not.mpr probes)
    intro harmless
    simp only [breaker, Prod.mk.injEq] at after
    exact absurd (after.2.1.symm.trans (harmless.released probes).1) Bool.false_ne_true.symm
  · exact iff_of_true ⟨congrArg Prod.fst after, fun held => absurd held probes, single⟩ probes

end

/-- The request comes to an end, and does no harm exactly in these cases. -/
theorem client_fault_iff (handler : Handler) (attempt : Attempt) (nodes : Nodes) (requestTimeout : Option Nat)
    (classified : ProxyErrorKind) (answer : Response) (body : ClientBody) (faulty : body.Faulty requestTimeout) :
    ∃ outcome, exchange requestTimeout classified answer ⟨none⟩ 0 body = some outcome ∧
      (Harmless handler attempt nodes outcome ↔ Spared attempt nodes requestTimeout body) := by
  by_cases stalls : body.Stalls requestTimeout 0
  · refine ⟨.timedOut, exchange_stalls ⟨none⟩ stalls, ?_⟩
    rw [harmless_dead_iff rfl, Spared]
    simp [stalls]
  · obtain ⟨kind, client, ends⟩ := exchange_fails ⟨none⟩ stalls (faulty.resolve_right stalls)
    refine ⟨.failed kind, ends, iff_of_true (harmless_of_silent ?_) (Or.inl stalls)⟩
    cases kind with
    | upstreamFailure => exact absurd rfl client
    | _ => rfl

/-- A client that aborts a probe. -/
theorem client_fault_iff_abort :
    let body : ClientBody := .data 1 [1] (.failed 5 (.clientAborted []))
    let nodes : Nodes := fun _ =>
      { UpstreamNode.new with isAlive := false, lastFailureTime := 50, circuitState := .opened }
    Probes firstOfTwo nodes ∧
      ∃ outcome, exchange (some 1000) .upstreamFailure ⟨200, [], []⟩ ⟨none⟩ 0 body = some outcome ∧
        Harmless grpcPassthrough firstOfTwo nodes outcome := by
  intro body nodes
  have timely : ¬body.Stalls (some 1000) 0 := by simp [body, ClientBody.Stalls, ClientBody.endsAt]
  obtain ⟨outcome, ends, harmless⟩ := client_fault_iff grpcPassthrough firstOfTwo nodes (some 1000) .upstreamFailure
    ⟨200, [], []⟩ body (Or.inl rfl)
  exact ⟨by decide +kernel, outcome, ends, harmless.mpr (Or.inl timely)⟩

/-- A client that falls silent for a second has its upstream marked dead, by either handler. -/
theorem stalled_client_marks_dead :
    ClientBody.silent.Faulty (some 1000) ∧
      exchange (some 1000) .upstreamFailure ⟨200, [], []⟩ ⟨none⟩ 0 .silent = some .timedOut ∧
      health UpstreamNode.new = (true, 0, 0) ∧
      ∀ handler ∈ [httpProxy, grpcPassthrough],
        health (firstOfTwo.proxied handler (fun _ => .new) .timedOut 0) = (false, 0, 101) := by
  refine ⟨Or.inr ⟨1000, rfl, fun _ ends => by cases ends⟩, rfl, rfl, ?_⟩
  intro handler member
  rcases List.mem_cons.mp member with rfl | member
  · decide +kernel
  · rcases List.mem_singleton.mp member with rfl
    decide +kernel

end Praeco.Router.ClientFaults
