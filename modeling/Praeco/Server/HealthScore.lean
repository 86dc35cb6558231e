import Praeco.Breaker.Node
import Praeco.Collections.Access
import Praeco.Router.Buffering
import Praeco.Streams.Varint

/-! One active health check of an upstream node, from the outcome of its request to the node's new state. A gRPC node
answers with a frame around a message whose first field is its score; indices into the frame may be out of range. -/

namespace Praeco.Server.HealthScore
open Praeco.Strings.Utf8 Praeco.Collections.Access Praeco.Streams Polling Praeco.Router.Buffering Praeco.Breaker.Node

variable {E : Type}

inductive Protocol where
  | grpc
  | rest
  deriving DecidableEq, Repr

inductive Outcome (E : Type) where
  | response (status : Nat) (body : SrvBody E)
  | networkError
  | timedOut

inductive OutOfRange where
  | outOfRange
  deriving DecidableEq, Repr

def decodeScore (score shift : Nat) : Bytes → Nat
  | [] => score
  | b :: rest =>
    let score := score ||| ((b &&& 0x7F).toNat <<< shift) % 2 ^ 64
    if b &&& 0x80 = 0 then score else if 32 ≤ shift + 7 then score else decodeScore score (shift + 7) rest

structure Reading where
  score : Option Nat
  healthScoreOk : Bool
  deriving DecidableEq, Repr

def Reading.failed : Reading := ⟨none, false⟩

def readPayload (rawPayload : Bytes) : Except OutOfRange Reading :=
  if 2 ≤ rawPayload.length then do
    if (← item .outOfRange rawPayload 0) = 0x08 then
      let score := decodeScore 0 0 (← slice .outOfRange rawPayload 1 rawPayload.length)
      .ok ⟨some score, 0 < score⟩
    else .ok .failed
  else .ok .failed

def readGrpc (bytes : Bytes) : Except OutOfRange Reading :=
  if 5 ≤ bytes.length then do
    let payloadLen := BigEndian.decode (← slice .outOfRange bytes 1 5)
    if 5 + payloadLen ≤ bytes.length then readPayload (← slice .outOfRange bytes 5 (5 + payloadLen)) else .ok .failed
  else .ok .failed

def readRest (jsonScore : Bytes → Option Nat) (bytes : Bytes) : Reading :=
  match jsonScore bytes with
  | some score => ⟨some score, score ≠ 0⟩
  | none => .failed

def readBody (jsonScore : Bytes → Option Nat) (protocol : Protocol) (body : SrvBody E) : Except OutOfRange Reading :=
  match collect (limited (64 * 1024) body) with
  | .ok bytes =>
    match protocol with
    | .grpc => readGrpc bytes
    | .rest => .ok (readRest jsonScore bytes)
  | .error _ => .ok .failed

def succeed (node : UpstreamNode) : UpstreamNode := if node.isAlive then node else node.markAlive

def fail (node : UpstreamNode) (now : Nat) : UpstreamNode :=
  if node.isAlive then { node with currentScore := 0 }.markDead now
  else { node with currentScore := 0, lastFailureTime := now }

def store (node : UpstreamNode) (score : Option Nat) : UpstreamNode :=
  match score with
  | some score => { node with currentScore := score }
  | none => node

/-- Whether the check counts as healthy, and the node after it. -/
def healthCheck (jsonScore : Bytes → Option Nat) (protocol : Protocol) (node : UpstreamNode) (now : Nat) :
    Outcome E → Except OutOfRange (Bool × UpstreamNode)
  | .response status body =>
    if status = 200 then do
      let reading ← readBody jsonScore protocol body
      let scored := store node reading.score
      .ok (reading.healthScoreOk, if reading.healthScoreOk then succeed scored else fail scored now)
    else .ok (false, fail node now)
  | .networkError => .ok (false, fail node now)
  | .timedOut => .ok (false, fail node now)

def Complete (bytes : Bytes) : Prop := 5 ≤ bytes.length ∧ 5 + payloadLen bytes ≤ bytes.length

instance Complete.decidable (bytes : Bytes) : Decidable (Complete bytes) := inferInstanceAs (Decidable (_ ∧ _))

theorem decodeScore_cons (b : UInt8) (rest : Bytes) (score shift : Nat) (below : score < 2 ^ shift)
    (fits : b.toNat % 128 * 2 ^ shift < 2 ^ 64) :
    decodeScore score shift (b :: rest) =
      if b.toNat < 128 ∨ 32 ≤ shift + 7 then score + b.toNat % 128 * 2 ^ shift
      else decodeScore (score + b.toNat % 128 * 2 ^ shift) (shift + 7) rest := by
  have added : score ||| ((b &&& 0x7F).toNat <<< shift) % 2 ^ 64 = score + b.toNat % 128 * 2 ^ shift := by
    rw [Varint.toNat_low_bits, Nat.mod_eq_of_lt (by rwa [Nat.shiftLeft_eq]), Varint.or_shifted _ _ _ below]
  rw [decodeScore, added, ← ite_or]
  simp only [Varint.high_bit_clear_iff]

theorem decodeScore_encode (n score shift : Nat) (rest : Bytes) (below : score < 2 ^ shift) (aligned : 7 ∣ shift)
    (fits : n * 2 ^ shift < 2 ^ 35) : decodeScore score shift (Varint.encode n ++ rest) = score + n * 2 ^ shift := by
  induction n using Nat.strong_induction_on generalizing score shift with
  | _ n ih =>
    by_cases small : n < 128
    · have byte : (UInt8.ofNat n).toNat = n := UInt8.toNat_ofNat_of_lt' (small.trans (by decide))
      rw [Varint.encode_last n small, List.singleton_append, decodeScore_cons _ _ _ _ below, byte,
        Nat.mod_eq_of_lt small, if_pos (.inl small)]
      rw [byte, Nat.mod_eq_of_lt small]
      omega
    · have large : 128 ≤ n := Nat.not_lt.mp small
      have digit : n % 128 < 128 := Nat.mod_lt n (by decide)
      have byte : (UInt8.ofNat (128 + n % 128)).toNat = 128 + n % 128 :=
        UInt8.toNat_ofNat_of_lt' (Nat.add_lt_add_left digit 128)
      have payload : (128 + n % 128) % 128 = n % 128 := by omega
      have split : n * 2 ^ shift = n % 128 * 2 ^ shift + n / 128 * 2 ^ (shift + 7) := by
        rw [Nat.pow_add, Nat.mul_comm (2 ^ shift), ← Nat.mul_assoc, ← Nat.add_mul]
        congr 1
        omega
      -- another digit follows, so the cut-off at 32 bits is not reached
      have early : shift + 7 < 35 := by
        rw [← Nat.pow_lt_pow_iff_right (by decide : 1 < 2), Nat.pow_add, Nat.mul_comm]
        exact (Nat.mul_le_mul_right _ large).trans_lt fits
      have next : score + n % 128 * 2 ^ shift < 2 ^ (shift + 7) := by
        have most := Nat.mul_le_mul_right (2 ^ shift) (Nat.le_of_lt_succ digit)
        rw [Nat.pow_add]
        omega
      rw [Varint.encode_more n large, List.cons_append, decodeScore_cons _ _ _ _ below, byte, payload,
        if_neg (by omega), ih (n / 128) (by omega) _ _ next (by omega) (by omega), split]
      · omega
      · rw [byte, payload]
        omega

theorem readPayload_eq (rawPayload : Bytes) :
    readPayload rawPayload = .ok (if 2 ≤ rawPayload.length ∧ rawPayload.head? = some 0x08 then
      ⟨some (decodeScore 0 0 rawPayload.tail), 0 < decodeScore 0 0 rawPayload.tail⟩ else .failed) := by
  rcases rawPayload with - | ⟨first, - | ⟨second, rest⟩⟩
  · rfl
  · rfl
  · by_cases field : first = 0x08
    · simp [readPayload, item, slice, field, bind, Except.bind]
    · simp [readPayload, item, field, bind, Except.bind]

theorem readGrpc_eq (bytes : Bytes) :
    readGrpc bytes = if Complete bytes then readPayload (payloadOf bytes) else .ok .failed := by
  unfold readGrpc
  by_cases header : 5 ≤ bytes.length
  · have length : slice OutOfRange.outOfRange bytes 1 5 = .ok ((bytes.drop 1).take 4) :=
      @slice_ok _ _ _ bytes 1 4 header
    rw [if_pos header, length]
    change (if 5 + payloadLen bytes ≤ bytes.length then _ else _) = _
    by_cases whole : 5 + payloadLen bytes ≤ bytes.length
    · have payload : slice OutOfRange.outOfRange bytes 5 (5 + payloadLen bytes) = .ok (payloadOf bytes) :=
        slice_ok _ whole
      have complete : Complete bytes := ⟨header, whole⟩
      rw [if_pos whole, if_pos complete]
      change (slice .outOfRange bytes 5 (5 + payloadLen bytes) >>= readPayload) = _
      rw [payload]
      rfl
    · rw [if_neg whole, if_neg fun complete : Complete bytes => whole complete.2]
  · rw [if_neg header, if_neg fun complete : Complete bytes => header complete.1]

theorem readGrpc_total (bytes : Bytes) : ∃ reading, readGrpc bytes = .ok reading := by
  rw [readGrpc_eq]
  split_ifs
  · exact ⟨_, readPayload_eq _⟩
  · exact ⟨_, rfl⟩

theorem readGrpc_score (bytes : Bytes) (n : Nat) (bound : n < 2 ^ 35) (complete : Complete bytes)
    (message : 0x08 :: Varint.encode n <+: payloadOf bytes) : readGrpc bytes = .ok ⟨some n, 0 < n⟩ := by
  obtain ⟨rest, shape⟩ := message
  have score : decodeScore 0 0 (payloadOf bytes).tail = n := by
    rw [← shape, List.cons_append, List.tail_cons,
      decodeScore_encode n 0 0 rest (by decide) (by decide) (by simpa using bound)]
    omega
  have long : 2 ≤ (payloadOf bytes).length := by
    have digits := List.length_pos_iff.mpr (Varint.encode_ne_nil n)
    rw [← shape, List.length_append, List.length_cons]
    omega
  have field : (payloadOf bytes).head? = some 0x08 := by rw [← shape, List.cons_append, List.head?_cons]
  rw [readGrpc_eq, if_pos complete, readPayload_eq, if_pos ⟨long, field⟩, score]

theorem readGrpc_refused (bytes : Bytes) (malformed : ¬Complete bytes ∨ (payloadOf bytes).head? ≠ some 0x08) :
    readGrpc bytes = .ok .failed := by
  rw [readGrpc_eq]
  split_ifs with complete
  · have field := malformed.resolve_left (not_not.mpr complete)
    rw [readPayload_eq, if_neg fun both => field both.2]
  · rfl

theorem isAlive_succeed (node : UpstreamNode) : (succeed node).isAlive = true := by
  unfold succeed
  split_ifs with alive
  · exact alive
  · rfl

theorem currentScore_succeed (node : UpstreamNode) : (succeed node).currentScore = node.currentScore := by
  unfold succeed
  split_ifs
  · rfl
  · rfl

theorem isAlive_fail (node : UpstreamNode) (now : Nat) : (fail node now).isAlive = false := by
  unfold fail
  split_ifs with alive
  · rfl
  · exact Bool.eq_false_iff.mpr alive

theorem currentScore_fail (node : UpstreamNode) (now : Nat) : (fail node now).currentScore = 0 := by
  unfold fail
  split_ifs
  · rfl
  · rfl

theorem healthCheck_total (jsonScore : Bytes → Option Nat) (protocol : Protocol) (node : UpstreamNode) (now : Nat)
    (outcome : Outcome E) :
    ∃ healthy checked, healthCheck jsonScore protocol node now outcome = .ok (healthy, checked) ∧
      checked.isAlive = healthy ∧ (healthy = false → checked.currentScore = 0) := by
  have refused : (fail node now).isAlive = false ∧ (false = false → (fail node now).currentScore = 0) :=
    ⟨isAlive_fail node now, fun _ => currentScore_fail node now⟩
  cases outcome with
  | networkError => exact ⟨false, _, rfl, refused⟩
  | timedOut => exact ⟨false, _, rfl, refused⟩
  | response status body =>
    by_cases accepted : status = 200
    · obtain ⟨reading, read⟩ : ∃ reading, readBody jsonScore protocol body = .ok reading := by
        unfold readBody
        split
        · cases protocol with
          | grpc => exact readGrpc_total _
          | rest => exact ⟨_, rfl⟩
        · exact ⟨_, rfl⟩
      refine ⟨reading.healthScoreOk, _, by rw [healthCheck, if_pos accepted, read]; rfl, ?_, ?_⟩
      · cases reading.healthScoreOk with
        | true => exact isAlive_succeed _
        | false => exact isAlive_fail _ now
      · intro failed
        rw [failed]
        exact currentScore_fail _ now
    · exact ⟨false, _, by rw [healthCheck, if_neg accepted], refused⟩

theorem healthCheck_grpc (jsonScore : Bytes → Option Nat) (node : UpstreamNode) (now : Nat) (body : SrvBody E)
    (bytes : Bytes) (collected : delivered frameData body.items = (bytes, none)) (small : bytes.length ≤ 64 * 1024)
    (reading : Reading) (read : readGrpc bytes = .ok reading) :
    healthCheck jsonScore .grpc node now (.response 200 body) = .ok (reading.healthScoreOk,
      if reading.healthScoreOk then succeed (store node reading.score) else fail (store node reading.score) now) := by
  rw [healthCheck, if_pos rfl, readBody, collect_limited_ok_iff.mpr ⟨collected, small⟩]
  simp only [read]
  rfl

/-- A complete frame around a message with a score below 2^35 sets the score, and the check is healthy unless the score
is zero. A frame that is cut short or starts with another field fails. No index is out of range, whatever the body. -/
theorem health_score_decoded (jsonScore : Bytes → Option Nat) (node : UpstreamNode) (now : Nat) (body : SrvBody E) :
    (∃ result, healthCheck jsonScore .grpc node now (.response 200 body) = .ok result) ∧
    ∀ bytes, delivered frameData body.items = (bytes, none) → bytes.length ≤ 64 * 1024 →
      (∀ n < 2 ^ 35, Complete bytes → 0x08 :: Varint.encode n <+: payloadOf bytes →
        ∃ checked, healthCheck jsonScore .grpc node now (.response 200 body) = .ok (decide (0 < n), checked) ∧
          checked.currentScore = n ∧ checked.isAlive = decide (0 < n)) ∧
      (bytes.length < 5 ∨ bytes.length < 5 + payloadLen bytes ∨ (payloadOf bytes).head? ≠ some 0x08 →
        ∃ checked, healthCheck jsonScore .grpc node now (.response 200 body) = .ok (false, checked) ∧
          checked.currentScore = 0 ∧ checked.isAlive = false) := by
  constructor
  · obtain ⟨healthy, checked, done, -⟩ := healthCheck_total jsonScore .grpc node now (.response 200 body)
    exact ⟨_, done⟩
  · intro bytes collected small
    constructor
    · intro n bound complete message
      have done := healthCheck_grpc jsonScore node now body bytes collected small _
        (readGrpc_score bytes n bound complete message)
      refine ⟨_, done, ?_⟩
      by_cases positive : 0 < n
      · simp only [positive, decide_true, if_true]
        exact ⟨currentScore_succeed _, isAlive_succeed _⟩
      · simp only [positive, decide_false, Bool.false_eq_true, if_false]
        exact ⟨(currentScore_fail _ now).trans (by omega), isAlive_fail _ now⟩
    · intro malformed
      have refused : ¬Complete bytes ∨ (payloadOf bytes).head? ≠ some 0x08 := by
        rcases malformed with short | short | other
        · exact .inl fun complete => absurd complete.1 (by omega)
        · exact .inl fun complete => absurd complete.2 (by omega)
        · exact .inr other
      have done := healthCheck_grpc jsonScore node now body bytes collected small _ (readGrpc_refused bytes refused)
      exact ⟨_, done, currentScore_fail _ now, isAlive_fail _ now⟩

/-- Two frames of data with the score 300 in two digits, and bytes behind them. -/
theorem health_score_decoded_digits :
    let body : SrvBody Unit := [.ready (.ok (.data [0, 0, 0, 0, 4, 8])), .pending, .ready (.ok (.data [172, 2, 9]))]
    ∃ checked, healthCheck (fun _ => none) .grpc .new 0 (.response 200 body) = .ok (true, checked) ∧
      checked.currentScore = 300 ∧ checked.isAlive = true := by
  intro body
  have digits : Varint.encode 300 = [172, 2] := by
    rw [Varint.encode_more 300 (by decide), Varint.encode_last (300 / 128) (by decide)]
    rfl
  have message : 0x08 :: Varint.encode 300 <+: payloadOf [0, 0, 0, 0, 4, 8, 172, 2, 9] := by
    rw [digits]
    decide
  exact ((health_score_decoded (fun _ => none) .new 0 body).2 [0, 0, 0, 0, 4, 8, 172, 2, 9] rfl (by decide)).1 300
    (by decide) (by decide) message

end Praeco.Server.HealthScore
