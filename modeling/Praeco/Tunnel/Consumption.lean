import Praeco.Tunnel.Transparency

/-! What the two readers of a tunneled connection take from their streams: the PROXY header on the gateway's side and
the first TLS record on the relay's. Both are followed with what they leave, also when they fail. -/

namespace Praeco.Tunnel.Consumption
open Praeco.Strings Utf8 Praeco.Streams Reading Praeco.Net.Address ProxyProtocol Transparency

/-- How the header's reader ends without a result: with an error, or because an index is out of range. -/
inductive Stop where
  | failed (error : ProxyProtocolError)
  | outOfRange
  deriving DecidableEq, Repr

def byteAt (payload : List UInt8) (index : Nat) : Except Stop UInt8 :=
  match payload[index]? with
  | some byte => .ok byte
  | none => .error .outOfRange

def sliceTo (payload : List UInt8) (size : Nat) : Except Stop (List UInt8) :=
  if payload.length < size then .error .outOfRange else .ok (payload.take size)

def indexPeer (fam : UInt8) (payload : List UInt8) : Except Stop (Option SocketAddr) :=
  if fam = 0x1 then
    if payload.length < 12 then .error (.failed (.truncatedPayload 12 payload.length))
    else do
      let octets := [← byteAt payload 0, ← byteAt payload 1, ← byteAt payload 2, ← byteAt payload 3]
      let port := [← byteAt payload 8, ← byteAt payload 9]
      .ok (some (.plain (IpAddr.ipv4OfOctets octets) (IpAddr.u16At port 0)))
  else if fam = 0x2 then
    if payload.length < 36 then .error (.failed (.truncatedPayload 36 payload.length))
    else do
      let srcIp := IpAddr.ipv6OfOctets (← sliceTo payload 16)
      let srcPort := IpAddr.u16At [← byteAt payload 32, ← byteAt payload 33] 0
      match srcIp.toIpv4Mapped with
      | some v4 => .ok (some (.plain (.v4 v4) srcPort))
      | none => .ok (some (.plain srcIp srcPort))
  else .ok none

def consumeProxyV2 (reader : Source UInt8) : Except Stop (Option SocketAddr) × Source UInt8 :=
  match readExactFrom 16 reader with
  | (.error _, reader) => (.error (.failed .io), reader)
  | (.ok header, reader) =>
    match parseHeader header with
    | .error error => (.error (.failed error), reader)
    | .ok (cmd, fam, payloadLen) =>
      match readExactFrom payloadLen reader with
      | (.error _, reader) => (.error (.failed .io), reader)
      | (.ok payload, reader) => if cmd = 0x0 then (.ok none, reader) else (indexPeer fam payload, reader)

theorem byteAt_ok (payload : List UInt8) (index : Nat) (inside : index < payload.length) :
    byteAt payload index = .ok payload[index] := by
  rw [byteAt, List.getElem?_eq_getElem inside]

theorem take_two (payload : List UInt8) (index : Nat) (inside : index + 1 < payload.length) :
    (payload.drop index).take 2 = [payload[index], payload[index + 1]] := by
  rw [List.drop_eq_getElem_cons (by omega), List.drop_eq_getElem_cons inside]
  rfl

theorem take_four (payload : List UInt8) (inside : 3 < payload.length) :
    payload.take 4 = [payload[0], payload[1], payload[2], payload[3]] := by
  have whole : payload.take 4 = (payload.drop 0).take 2 ++ (payload.drop 2).take 2 := by
    rw [List.drop_zero, ← List.take_add]
  rw [whole, take_two payload 0 (by omega), take_two payload 2 inside]
  rfl

theorem indexPeer_eq (fam : UInt8) (payload : List UInt8) :
    indexPeer fam payload = (parsePeer fam payload).mapError .failed := by
  unfold indexPeer parsePeer
  by_cases inet : fam = 0x1
  · rw [if_pos inet, if_pos inet]
    by_cases short : payload.length < 12
    · rw [if_pos short, if_pos short]
      rfl
    · rw [if_neg short, if_neg short, byteAt_ok payload 0 (by omega), byteAt_ok payload 1 (by omega),
        byteAt_ok payload 2 (by omega), byteAt_ok payload 3 (by omega), byteAt_ok payload 8 (by omega),
        byteAt_ok payload 9 (by omega), take_four payload (by omega), IpAddr.u16At, take_two payload 8 (by omega)]
      rfl
  · rw [if_neg inet, if_neg inet]
    by_cases inet6 : fam = 0x2
    · rw [if_pos inet6, if_pos inet6]
      by_cases short : payload.length < 36
      · rw [if_pos short, if_pos short]
        rfl
      · have port : IpAddr.u16At payload 32 = IpAddr.u16At [payload[32], payload[33]] 0 := by
          rw [IpAddr.u16At, take_two payload 32 (by omega)]
          rfl
        rw [if_neg short, if_neg short, sliceTo, if_neg (by omega), byteAt_ok payload 32 (by omega),
          byteAt_ok payload 33 (by omega), port]
        cases mapped : (IpAddr.ipv6OfOctets (payload.take 16)).toIpv4Mapped with
        | none => simp [bind, Except.bind, mapped, Except.mapError]
        | some v4 => simp [bind, Except.bind, mapped, Except.mapError]
    · rw [if_neg inet6, if_neg inet6]
      rfl

/-- The reader that is followed is the one that was modelled: the same result, and the same rest after a success. -/
theorem consumeProxyV2_refines (reader : Source UInt8) :
    (readProxyV2 reader).mapError .failed = (consumeProxyV2 reader).1.map (·, (consumeProxyV2 reader).2) := by
  unfold readProxyV2 consumeProxyV2 readExactOrIo
  rw [readExact_eq_readExactFrom]
  obtain ⟨first, reader⟩ := readExactFrom 16 reader
  cases first with
  | error held => rfl
  | ok header =>
    simp only [Except.map, bind, Except.bind]
    cases parseHeader header with
    | error error => rfl
    | ok fields =>
      obtain ⟨cmd, fam, payloadLen⟩ := fields
      simp only [readExact_eq_readExactFrom]
      obtain ⟨second, reader⟩ := readExactFrom payloadLen reader
      cases second with
      | error held => rfl
      | ok payload =>
        by_cases isLocal : cmd = 0x0
        · simp only [Except.map, if_pos isLocal]
          rfl
        · simp only [Except.map, if_neg isLocal, indexPeer_eq]
          cases parsePeer fam payload <;> rfl

/-! The fields of the fixed part, read off the stream. -/

def versionOf (stream : List UInt8) : UInt8 := stream.getD 12 0 >>> 4

def commandOf (stream : List UInt8) : UInt8 := stream.getD 12 0 &&& 0x0F

def familyOf (stream : List UInt8) : UInt8 := stream.getD 13 0 >>> 4

def declaredLen (stream : List UInt8) : Nat := (IpAddr.u16At stream 14).toNat

def Announced (stream : List UInt8) : Prop :=
  stream.take 12 = proxyV2Magic ∧ versionOf stream = 2 ∧ declaredLen stream ≤ 1024

theorem parseHeader_announced (stream : List UInt8) :
    (Announced stream ∧ parseHeader (stream.take 16) = .ok (commandOf stream, familyOf stream, declaredLen stream)) ∨
      (¬Announced stream ∧ ∃ error, parseHeader (stream.take 16) = .error error) := by
  have magic : (stream.take 16).take 12 = stream.take 12 := by rw [List.take_take, Nat.min_eq_left (by decide)]
  have field (index : Nat) (inside : index < 16) : (stream.take 16).getD index 0 = stream.getD index 0 := by
    simp [List.getD_eq_getElem?_getD, inside]
  have length : IpAddr.u16At (stream.take 16) 14 = IpAddr.u16At stream 14 := by
    rw [IpAddr.u16At, IpAddr.u16At, List.drop_take, List.take_take]
    rfl
  simp only [parseHeader, magic, field 12 (by decide), field 13 (by decide), length, Announced, versionOf, commandOf,
    familyOf, declaredLen]
  split_ifs with unsigned version large
  · exact .inr ⟨fun announced => unsigned announced.1, _, rfl⟩
  · exact .inr ⟨fun announced => version announced.2.1, _, rfl⟩
  · exact .inr ⟨fun announced => not_lt.mpr announced.2.2 large, _, rfl⟩
  · exact .inl ⟨⟨not_not.mp unsigned, not_not.mp version, not_lt.mp large⟩, rfl⟩

/-- What the reader makes of a stream, and how many bytes it takes for it. -/
inductive Outcome (stream : List UInt8) : Except Stop (Option SocketAddr) → Nat → Prop
  | cutHeader (short : stream.length < 16) : Outcome stream (.error (.failed .io)) stream.length
  | refused (error : ProxyProtocolError) (enough : 16 ≤ stream.length) (other : ¬Announced stream) :
      Outcome stream (.error (.failed error)) 16
  | cutPayload (announced : Announced stream) (short : stream.length < 16 + declaredLen stream) :
      Outcome stream (.error (.failed .io)) stream.length
  | withoutAddress (announced : Announced stream) (enough : 16 + declaredLen stream ≤ stream.length)
      (isLocal : commandOf stream = 0) : Outcome stream (.ok none) (16 + declaredLen stream)
  | proxied (announced : Announced stream) (enough : 16 + declaredLen stream ≤ stream.length)
      (other : commandOf stream ≠ 0) (payload : List UInt8) (size : payload.length = declaredLen stream) :
      Outcome stream ((parsePeer (familyOf stream) payload).mapError .failed) (16 + declaredLen stream)

theorem consumeProxyV2_outcome (reader : Source UInt8) :
    ∃ consumed, Outcome (content reader) (consumeProxyV2 reader).1 consumed ∧ consumed ≤ (content reader).length ∧
      content (consumeProxyV2 reader).2 = (content reader).drop consumed := by
  obtain ⟨first, left⟩ := readExactFrom_spec 16 reader
  unfold consumeProxyV2
  generalize readExactFrom 16 reader = header at first left
  obtain ⟨header, middle⟩ := header
  dsimp only at first left
  by_cases enough : 16 ≤ (content reader).length
  · rw [if_pos enough] at first
    subst first
    dsimp only
    rcases parseHeader_announced (content reader) with ⟨announced, fields⟩ | ⟨other, error, failed⟩
    · rw [fields]
      dsimp only
      obtain ⟨second, rest⟩ := readExactFrom_spec (declaredLen (content reader)) middle
      generalize readExactFrom (declaredLen (content reader)) middle = payload at second rest
      obtain ⟨payload, behind⟩ := payload
      dsimp only at second rest
      rw [left, List.drop_drop] at rest
      have size : (content middle).length = (content reader).length - 16 := by rw [left, List.length_drop]
      by_cases all : declaredLen (content reader) ≤ (content middle).length
      · rw [if_pos all] at second
        subst second
        refine ⟨16 + declaredLen (content reader), ?_, by omega, ?_⟩
        · dsimp only
          split_ifs with isLocal
          · exact .withoutAddress announced (by omega) isLocal
          · rw [indexPeer_eq]
            exact .proxied announced (by omega) isLocal _ (by rw [List.length_take]; omega)
        · dsimp only
          split_ifs <;> exact rest
      · rw [if_neg all] at second
        subst second
        refine ⟨(content reader).length, .cutPayload announced (by omega), le_rfl, ?_⟩
        rw [List.drop_length]
        dsimp only
        rw [rest, List.drop_eq_nil_of_le (by omega)]
    · rw [failed]
      exact ⟨16, .refused error enough other, enough, left⟩
  · rw [if_neg enough] at first
    subst first
    refine ⟨(content reader).length, .cutHeader (by omega), le_rfl, ?_⟩
    dsimp only
    rw [left, List.drop_length, List.drop_eq_nil_of_le (by omega)]

theorem parsePeer_cases (fam : UInt8) (payload : List UInt8) :
    (∃ peer, parsePeer fam payload = .ok peer ∧ (fam = 1 → 12 ≤ payload.length) ∧ (fam = 2 → 36 ≤ payload.length) ∧
        (peer.isSome = true → fam = 1 ∨ fam = 2)) ∨
      ∃ error, parsePeer fam payload = .error error ∧
        ((fam = 1 ∧ payload.length < 12) ∨ (fam = 2 ∧ payload.length < 36)) := by
  unfold parsePeer
  by_cases inet : fam = 0x1
  · rw [if_pos inet]
    split_ifs with short
    · exact .inr ⟨_, rfl, .inl ⟨inet, short⟩⟩
    · refine .inl ⟨_, rfl, fun _ => not_lt.mp short, fun other => ?_, fun _ => .inl inet⟩
      rw [inet] at other
      exact absurd other (by decide)
  · rw [if_neg inet]
    by_cases inet6 : fam = 0x2
    · rw [if_pos inet6]
      split_ifs with short
      · exact .inr ⟨_, rfl, .inr ⟨inet6, short⟩⟩
      · dsimp only
        split
        · exact .inl ⟨_, rfl, fun other => absurd other inet, fun _ => not_lt.mp short, fun _ => .inr inet6⟩
        · exact .inl ⟨_, rfl, fun other => absurd other inet, fun _ => not_lt.mp short, fun _ => .inr inet6⟩
    · rw [if_neg inet6]
      exact .inl ⟨none, rfl, fun other => absurd other inet, fun other => absurd other inet6,
        fun named => by cases named⟩

def Addressed (stream : List UInt8) : Prop :=
  (familyOf stream = 1 ∧ 12 ≤ declaredLen stream) ∨ (familyOf stream = 2 ∧ 36 ≤ declaredLen stream)

def Strict (stream : List UInt8) (consumed : Nat) : Except Stop (Option SocketAddr) → Prop
  | .ok peer =>
    Announced stream ∧ consumed = 16 + declaredLen stream ∧ (commandOf stream = 0 ∨ commandOf stream = 1) ∧
      (peer.isSome = true → commandOf stream = 1 ∧ Addressed stream)
  | .error (.failed _) => consumed ≤ 1040
  | .error .outOfRange => False

def ReservedCommand (stream : List UInt8) : Prop :=
  Announced stream ∧ 16 + declaredLen stream ≤ stream.length ∧ commandOf stream ≠ 0 ∧ commandOf stream ≠ 1 ∧
    (familyOf stream = 1 → 12 ≤ declaredLen stream) ∧ (familyOf stream = 2 → 36 ≤ declaredLen stream)

/-- The reader is strict except about the command: it takes a reserved one for PROXY. -/
theorem consumeProxyV2_strict_iff (reader : Source UInt8) :
    (content (consumeProxyV2 reader).2 <:+ content reader ∧
        Strict (content reader) ((content reader).length - (content (consumeProxyV2 reader).2).length)
          (consumeProxyV2 reader).1) ↔
      ¬ReservedCommand (content reader) := by
  obtain ⟨consumed, outcome, most, left⟩ := consumeProxyV2_outcome reader
  have taken : (content reader).length - (content (consumeProxyV2 reader).2).length = consumed := by
    rw [left, List.length_drop]
    omega
  have behind : content (consumeProxyV2 reader).2 <:+ content reader := left ▸ List.drop_suffix _ _
  rw [taken, and_iff_right behind]
  generalize (consumeProxyV2 reader).1 = result at outcome
  generalize content reader = stream at outcome
  cases outcome with
  | cutHeader short =>
    refine iff_of_true ?_ fun reserved => ?_
    · change stream.length ≤ 1040
      omega
    · have enough := reserved.2.1
      omega
  | refused error enough other => exact iff_of_true (by decide : 16 ≤ 1040) fun reserved => other reserved.1
  | cutPayload announced short =>
    refine iff_of_true ?_ fun reserved => absurd reserved.2.1 (by omega)
    have small := announced.2.2
    change stream.length ≤ 1040
    omega
  | withoutAddress announced enough isLocal =>
    exact iff_of_true ⟨announced, rfl, .inl isLocal, fun named => by cases named⟩
      fun reserved => reserved.2.2.1 isLocal
  | proxied announced enough other payload size =>
    rcases parsePeer_cases (familyOf stream) payload with ⟨peer, found, inet, inet6, known⟩ | ⟨error, failed, short⟩
    · rw [found]
      rw [size] at inet inet6
      by_cases proxy : commandOf stream = 1
      · refine iff_of_true ⟨announced, rfl, .inr proxy, fun named => ⟨proxy, ?_⟩⟩ fun reserved => reserved.2.2.2.1 proxy
        rcases known named with family | family
        · exact .inl ⟨family, inet family⟩
        · exact .inr ⟨family, inet6 family⟩
      · refine iff_of_false (fun strict => ?_) (not_not.mpr ⟨announced, enough, other, proxy, inet, inet6⟩)
        rcases strict.2.2.1 with isLocal | isProxy
        · exact other isLocal
        · exact proxy isProxy
    · rw [failed]
      have small := announced.2.2
      refine iff_of_true ?_ fun reserved => ?_
      · change 16 + declaredLen stream ≤ 1040
        omega
      · rcases short with ⟨family, few⟩ | ⟨family, few⟩
        · have least := reserved.2.2.2.2.1 family
          omega
        · have least := reserved.2.2.2.2.2 family
          omega

/-- A frame with command 2 is taken for a PROXY command and names a client. -/
theorem reserved_command_accepted :
    let stream := proxyV2Magic ++ [0x22, 0x11, 0, 12, 192, 0, 2, 1, 203, 0, 113, 1, 195, 80, 1, 187]
    commandOf stream = 2 ∧ (consumeProxyV2 [stream]).1 = .ok (some (.plain (.v4 0xC0000201) 50000)) := by
  decide +kernel

/-! The first record of a client. -/

def consumeClientHello (ready : Bool) (stream : Source UInt8) : Except HelloError Bytes × Source UInt8 :=
  match fillFrom 5 5 stream with
  | (.error [], stream) => (.error .closedBeforeData, stream)
  | (.error _, stream) => (.error .eofInHeader, stream)
  | (.ok header, stream) =>
    if header.headD 0 ≠ 0x16 then
      if ready then (.ok (header ++ (read 512 stream).1), (read 512 stream).2) else (.ok header, stream)
    else
      let recordLen := (IpAddr.u16At header 3).toNat
      if 16384 < recordLen then (.error .recordTooLong, stream)
      else
        match fillFrom 4096 recordLen stream with
        | (.error _, stream) => (.error .eofInPayload, stream)
        | (.ok payload, stream) => (.ok (header ++ payload), stream)

theorem consumeClientHello_refines (ready : Bool) (stream : Source UInt8) :
    readClientHelloRecord ready stream =
      (consumeClientHello ready stream).1.map (·, (consumeClientHello ready stream).2) := by
  unfold readClientHelloRecord consumeClientHello fill
  obtain ⟨first, stream⟩ := fillFrom 5 5 stream
  cases first with
  | error held => cases held <;> rfl
  | ok header =>
    simp only [Except.map]
    by_cases other : header.headD 0 ≠ 0x16
    · rw [if_pos other, if_pos other]
      cases ready <;> rfl
    · rw [if_neg other, if_neg other]
      by_cases long : 16384 < (IpAddr.u16At header 3).toNat
      · rw [if_pos long, if_pos long]
      · rw [if_neg long, if_neg long]
        obtain ⟨second, stream⟩ := fillFrom 4096 (IpAddr.u16At header 3).toNat stream
        cases second <;> rfl

def recordLen (stream : List UInt8) : Nat := (IpAddr.u16At stream 3).toNat

def helloOf (stream : List UInt8) : Except HelloError Bytes × Nat :=
  if stream = [] then (.error .closedBeforeData, 0)
  else if stream.length < 5 then (.error .eofInHeader, stream.length)
  else if 16384 < recordLen stream then (.error .recordTooLong, 5)
  else if stream.length < 5 + recordLen stream then (.error .eofInPayload, stream.length)
  else (.ok (stream.take (5 + recordLen stream)), 5 + recordLen stream)

theorem consumeClientHello_handshake (ready : Bool) (client : Source UInt8)
    (handshake : ∀ byte ∈ (content client).head?, byte = 0x16) :
    (consumeClientHello ready client).1 = (helloOf (content client)).1 ∧
      content (consumeClientHello ready client).2 = (content client).drop (helloOf (content client)).2 := by
  obtain ⟨first, left⟩ := fillFrom_spec 5 5 (by decide) client
  unfold consumeClientHello helloOf
  generalize fillFrom 5 5 client = header at first left
  obtain ⟨header, middle⟩ := header
  dsimp only at first left
  by_cases enough : 5 ≤ (content client).length
  · rw [if_pos enough] at first
    subst first
    dsimp only
    have present : content client ≠ [] := by
      intro empty
      simp [empty] at enough
    have kind : ((content client).take 5).headD 0 = 0x16 := by
      cases known : content client with
      | nil => exact absurd known present
      | cons byte rest => exact handshake byte (by rw [known]; rfl)
    have declared : IpAddr.u16At ((content client).take 5) 3 = IpAddr.u16At (content client) 3 := by
      rw [IpAddr.u16At, IpAddr.u16At, List.drop_take, List.take_take]
      rfl
    rw [if_neg (not_not.mpr kind), declared, if_neg present, if_neg (not_lt.mpr enough)]
    by_cases long : 16384 < recordLen (content client)
    · rw [if_pos long, if_pos (show 16384 < (IpAddr.u16At (content client) 3).toNat from long)]
      exact ⟨rfl, left⟩
    · rw [if_neg long, if_neg (show ¬16384 < (IpAddr.u16At (content client) 3).toNat from long)]
      obtain ⟨second, rest⟩ := fillFrom_spec 4096 (recordLen (content client)) (by decide) middle
      have size : (content middle).length = (content client).length - 5 := by rw [left, List.length_drop]
      rw [left, List.drop_drop] at rest
      unfold recordLen at second rest ⊢
      generalize fillFrom 4096 (IpAddr.u16At (content client) 3).toNat middle = payload at second rest
      obtain ⟨payload, behind⟩ := payload
      dsimp only at second rest
      by_cases all : (IpAddr.u16At (content client) 3).toNat ≤ (content middle).length
      · rw [if_pos all] at second
        subst second
        rw [if_neg (by omega)]
        refine ⟨?_, rest⟩
        dsimp only
        rw [left, ← List.take_add]
      · rw [if_neg all] at second
        subst second
        rw [if_pos (by omega), List.drop_length]
        refine ⟨rfl, ?_⟩
        dsimp only
        rw [rest, List.drop_eq_nil_of_le (by omega)]
  · rw [if_neg enough] at first
    subst first
    rw [List.drop_eq_nil_of_le (by omega)] at left
    cases known : content client with
    | nil => exact ⟨rfl, left⟩
    | cons byte rest =>
      rw [if_neg (by simp), if_pos (by rw [← known]; omega), List.drop_length]
      exact ⟨rfl, left⟩

/-- Of a stream that begins with a handshake record the reader returns the record and leaves the rest, or it fails
without going beyond the record; how the stream is cut into pieces makes no difference. -/
theorem clientHello_reads (ready : Bool) (client : Source UInt8)
    (handshake : ∀ byte ∈ (content client).head?, byte = 0x16) :
    (recordLen (content client) ≤ 16384 → 5 + recordLen (content client) ≤ (content client).length →
      (consumeClientHello ready client).1 = .ok ((content client).take (5 + recordLen (content client))) ∧
      content (consumeClientHello ready client).2 = (content client).drop (5 + recordLen (content client))) ∧
    (16384 < recordLen (content client) ∨ (content client).length < 5 + recordLen (content client) →
      (∃ error, (consumeClientHello ready client).1 = .error error) ∧
      ∃ consumed ≤ 5 + recordLen (content client),
        content (consumeClientHello ready client).2 = (content client).drop consumed) ∧
    ∀ (again : Bool) (other : Source UInt8), content other = content client →
      (consumeClientHello again other).1 = (consumeClientHello ready client).1 ∧
      content (consumeClientHello again other).2 = content (consumeClientHello ready client).2 := by
  obtain ⟨result, left⟩ := consumeClientHello_handshake ready client handshake
  refine ⟨?_, ?_, ?_⟩
  · intro short enough
    have whole : helloOf (content client) =
        (.ok ((content client).take (5 + recordLen (content client))), 5 + recordLen (content client)) := by
      have present : content client ≠ [] := by
        intro empty
        simp [empty] at enough
      rw [helloOf, if_neg present, if_neg (by omega), if_neg (by omega), if_neg (by omega)]
    rw [result, left, whole]
    exact ⟨rfl, rfl⟩
  · intro broken
    rw [result, left]
    unfold helloOf
    split_ifs with empty cut long missing
    · exact ⟨⟨_, rfl⟩, 0, by omega, rfl⟩
    · exact ⟨⟨_, rfl⟩, (content client).length, by omega, rfl⟩
    · exact ⟨⟨_, rfl⟩, 5, by omega, rfl⟩
    · exact ⟨⟨_, rfl⟩, (content client).length, by omega, rfl⟩
    · omega
  · intro again other same
    obtain ⟨otherResult, otherLeft⟩ := consumeClientHello_handshake again other (same ▸ handshake)
    rw [otherResult, otherLeft, result, left, same]
    exact ⟨rfl, rfl⟩

theorem clientHello_reads_pieces :
    (consumeClientHello true [[0x16, 3, 1], [0, 2, 7], [8, 9]]).1 = .ok [0x16, 3, 1, 0, 2, 7, 8] ∧
      content (consumeClientHello true [[0x16, 3, 1], [0, 2, 7], [8, 9]]).2 = [9] :=
  (clientHello_reads true [[0x16, 3, 1], [0, 2, 7], [8, 9]] (by simp [content])).1 (by decide) (by decide)

/-- The beginning of a plain request, cut in two ways. -/
theorem preview_depends_on_pieces :
    content [[71, 69, 84, 32, 47], [32], [72]] = content [[71, 69, 84, 32, 47], [32, 72]] ∧
      (consumeClientHello true [[71, 69, 84, 32, 47], [32], [72]]).1 = .ok [71, 69, 84, 32, 47, 32] ∧
      (consumeClientHello true [[71, 69, 84, 32, 47], [32, 72]]).1 = .ok [71, 69, 84, 32, 47, 32, 72] := by
  decide +kernel

end Praeco.Tunnel.Consumption
