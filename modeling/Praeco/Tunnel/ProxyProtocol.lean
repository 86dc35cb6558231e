import Praeco.Net.Address
import Praeco.Streams.Reading

/-! The PROXY protocol header, version 2, in which the relay passes the client's address to the gateway. -/

namespace Praeco.Tunnel.ProxyProtocol
open Praeco.Net.Address Praeco.Streams Reading

def proxyV2Magic : List UInt8 := [0x0D, 0x0A, 0x0D, 0x0A, 0x00, 0x0D, 0x0A, 0x51, 0x55, 0x49, 0x54, 0x0A]

inductive ProxyProtocolError where
  | io
  | invalidMagic (header : List UInt8)
  | unsupportedVersion (version : UInt8)
  | payloadTooLarge (size : Nat)
  | truncatedPayload (expected got : Nat)
  deriving DecidableEq, Repr

def encodeProxyV2 (src dst : SocketAddr) : List UInt8 :=
  match src.ip, dst.ip with
  | .v4 s, .v4 d =>
    proxyV2Magic ++ [0x21] ++ [0x11] ++ BigEndian.encode 2 12 ++ (IpAddr.v4 s).octets ++ (IpAddr.v4 d).octets ++
      BigEndian.encode 2 src.port.toNat ++ BigEndian.encode 2 dst.port.toNat
  | .v6 s0 s1 s2 s3 s4 s5 s6 s7, .v6 d0 d1 d2 d3 d4 d5 d6 d7 =>
    proxyV2Magic ++ [0x21] ++ [0x21] ++ BigEndian.encode 2 36 ++ (IpAddr.v6 s0 s1 s2 s3 s4 s5 s6 s7).octets ++
      (IpAddr.v6 d0 d1 d2 d3 d4 d5 d6 d7).octets ++ BigEndian.encode 2 src.port.toNat ++
      BigEndian.encode 2 dst.port.toNat
  | s, d =>
    proxyV2Magic ++ [0x21] ++ [0x21] ++ BigEndian.encode 2 36 ++ s.toIpv6Mapped.octets ++ d.toIpv6Mapped.octets ++
      BigEndian.encode 2 src.port.toNat ++ BigEndian.encode 2 dst.port.toNat

def parsePeer (fam : UInt8) (payload : List UInt8) : Except ProxyProtocolError (Option SocketAddr) :=
  if fam = 0x1 then
    if payload.length < 12 then .error (.truncatedPayload 12 payload.length)
    else .ok (some (.plain (IpAddr.ipv4OfOctets (payload.take 4)) (IpAddr.u16At payload 8)))
  else if fam = 0x2 then
    if payload.length < 36 then .error (.truncatedPayload 36 payload.length)
    else
      let srcIp := IpAddr.ipv6OfOctets (payload.take 16)
      let srcPort := IpAddr.u16At payload 32
      match srcIp.toIpv4Mapped with
      | some v4 => .ok (some (.plain (.v4 v4) srcPort))
      | none => .ok (some (.plain srcIp srcPort))
  else .ok none

def parseHeader (header : List UInt8) : Except ProxyProtocolError (UInt8 × UInt8 × Nat) :=
  let versionCmd := header.getD 12 0
  let version := versionCmd >>> 4
  let payloadLen := (IpAddr.u16At header 14).toNat
  if header.take 12 ≠ proxyV2Magic then .error (.invalidMagic header)
  else if version ≠ 2 then .error (.unsupportedVersion version)
  else if 1024 < payloadLen then .error (.payloadTooLarge payloadLen)
  else .ok (versionCmd &&& 0x0F, header.getD 13 0 >>> 4, payloadLen)

def readExactOrIo (size : Nat) (reader : Source UInt8) : Except ProxyProtocolError (List UInt8 × Source UInt8) :=
  match readExact size reader with
  | .ok result => .ok result
  | .error _ => .error .io

def readProxyV2 (reader : Source UInt8) : Except ProxyProtocolError (Option SocketAddr × Source UInt8) := do
  let (header, reader) ← readExactOrIo 16 reader
  let (cmd, fam, payloadLen) ← parseHeader header
  let (payload, reader) ← readExactOrIo payloadLen reader
  if cmd = 0x0 then return (none, reader)
  let peer ← parsePeer fam payload
  return (peer, reader)

/-- The address that survives the header: a mapped one as IPv4, without flow label and scope. -/
def carriedPeer (src : SocketAddr) : SocketAddr := .plain src.ip.unmapped src.port

theorem readExactOrIo_ok (reader : Source UInt8) (front rest : List UInt8) (size : Nat) (length : front.length = size)
    (same : content reader = front ++ rest) :
    ∃ left, readExactOrIo size reader = .ok (front, left) ∧ content left = rest := by
  obtain ⟨left, done, remaining⟩ := readExact_ok reader front rest same
  refine ⟨left, ?_, remaining⟩
  rw [readExactOrIo, ← length, done]

theorem readProxyV2_frame (reader : Source UInt8) (header payload rest : List UInt8) (fam : UInt8) (payloadLen : Nat)
    (size : header.length = 16) (parsed : parseHeader header = .ok (1, fam, payloadLen))
    (payloadSize : payload.length = payloadLen) (peer : Option SocketAddr)
    (found : parsePeer fam payload = .ok peer) (same : content reader = header ++ payload ++ rest) :
    ∃ left, readProxyV2 reader = .ok (peer, left) ∧ content left = rest := by
  rw [List.append_assoc] at same
  obtain ⟨middle, first, after⟩ := readExactOrIo_ok reader header (payload ++ rest) 16 size same
  obtain ⟨left, second, remaining⟩ := readExactOrIo_ok middle payload rest payloadLen payloadSize after
  refine ⟨left, ?_, remaining⟩
  simp only [readProxyV2, first, parsed, second, found, bind, Except.bind, pure, Except.pure]
  rfl

theorem readProxyV2_unsigned (reader : Source UInt8) (other : (content reader).take 12 ≠ proxyV2Magic) :
    ∃ error, readProxyV2 reader = .error error := by
  cases first : readExact 16 reader with
  | error partialHeader =>
    refine ⟨.io, ?_⟩
    simp only [readProxyV2, readExactOrIo, first]
    rfl
  | ok result =>
    obtain ⟨whole, size⟩ := fill_spec 16 16 (by decide) reader result.1 result.2 first
    have mismatch : parseHeader result.1 = .error (.invalidMagic result.1) := by
      rw [← whole, List.take_append_of_le_length (by omega)] at other
      rw [parseHeader, if_pos other]
    refine ⟨.invalidMagic result.1, ?_⟩
    simp only [readProxyV2, readExactOrIo, first, bind, Except.bind, mismatch]

theorem length_payload_v4 (s d : UInt32) (srcPort dstPort : UInt16) :
    ((IpAddr.v4 s).octets ++ (IpAddr.v4 d).octets ++ BigEndian.encode 2 srcPort.toNat ++
      BigEndian.encode 2 dstPort.toNat).length = 12 := by
  simp [IpAddr.octets]

theorem parsePeer_v4 (s d : UInt32) (srcPort dstPort : UInt16) :
    parsePeer 0x1 ((IpAddr.v4 s).octets ++ (IpAddr.v4 d).octets ++ BigEndian.encode 2 srcPort.toNat ++
      BigEndian.encode 2 dstPort.toNat) = .ok (some (.plain (.v4 s) srcPort)) := by
  have ip := IpAddr.ipv4OfOctets_octets s []
  have port := IpAddr.u16At_encode ((IpAddr.v4 s).octets ++ (IpAddr.v4 d).octets)
    (BigEndian.encode 2 dstPort.toNat) srcPort 8 rfl
  rw [parsePeer, if_pos rfl, length_payload_v4, if_neg (by decide), port]
  exact congrArg (fun ip => Except.ok (some (SocketAddr.plain ip srcPort))) ip

theorem octets_v6 (ip : IpAddr) : ip.toIpv6Mapped.octets.length = 16 ∧
    ∀ after, IpAddr.ipv6OfOctets (ip.toIpv6Mapped.octets ++ after) = ip.toIpv6Mapped := by
  cases ip with
  | v4 addr => exact ⟨rfl, IpAddr.ipv6OfOctets_octets _ _ _ _ _ _ _ _⟩
  | v6 s0 s1 s2 s3 s4 s5 s6 s7 => exact ⟨rfl, IpAddr.ipv6OfOctets_octets _ _ _ _ _ _ _ _⟩

theorem length_payload_v6 (s d : IpAddr) (srcPort dstPort : UInt16) :
    (s.toIpv6Mapped.octets ++ d.toIpv6Mapped.octets ++ BigEndian.encode 2 srcPort.toNat ++
      BigEndian.encode 2 dstPort.toNat).length = 36 := by
  simp [(octets_v6 s).1, (octets_v6 d).1]

theorem parsePeer_v6 (s d : IpAddr) (srcPort dstPort : UInt16) :
    parsePeer 0x2 (s.toIpv6Mapped.octets ++ d.toIpv6Mapped.octets ++ BigEndian.encode 2 srcPort.toNat ++
      BigEndian.encode 2 dstPort.toNat) = .ok (some (.plain s.unmapped srcPort)) := by
  obtain ⟨size, same⟩ := octets_v6 s
  have dstSize := (octets_v6 d).1
  have port := IpAddr.u16At_encode (s.toIpv6Mapped.octets ++ d.toIpv6Mapped.octets)
    (BigEndian.encode 2 dstPort.toNat) srcPort 32 (by rw [List.length_append, size, dstSize])
  have ip : IpAddr.ipv6OfOctets ((s.toIpv6Mapped.octets ++ d.toIpv6Mapped.octets ++
      BigEndian.encode 2 srcPort.toNat ++ BigEndian.encode 2 dstPort.toNat).take 16) = s.toIpv6Mapped := by
    rw [List.append_assoc, List.append_assoc, List.take_left' size, ← List.append_nil s.toIpv6Mapped.octets, same]
  rw [← IpAddr.unmapped_toIpv6Mapped, parsePeer, if_neg (by decide), if_pos rfl, length_payload_v6,
    if_neg (by decide), ip, port, IpAddr.unmapped]
  dsimp only
  cases s.toIpv6Mapped.toIpv4Mapped with
  | none => rfl
  | some addr => rfl

theorem encodeProxyV2_v6 (src dst : SocketAddr) (mixed : ∀ s d, ¬ (src.ip = .v4 s ∧ dst.ip = .v4 d)) :
    encodeProxyV2 src dst = proxyV2Magic ++ [0x21] ++ [0x21] ++ BigEndian.encode 2 36 ++
      (src.ip.toIpv6Mapped.octets ++ dst.ip.toIpv6Mapped.octets ++ BigEndian.encode 2 src.port.toNat ++
        BigEndian.encode 2 dst.port.toNat) := by
  unfold encodeProxyV2
  split
  · rename_i s d srcIp dstIp
    exact absurd ⟨srcIp, dstIp⟩ (mixed s d)
  · rename_i srcIp dstIp
    rw [srcIp, dstIp]
    simp only [IpAddr.toIpv6Mapped, List.append_assoc]
  · simp only [List.append_assoc]

theorem readProxyV2_encodeProxyV2 (src dst : SocketAddr) (rest : List UInt8) (reader : Source UInt8)
    (delivers : content reader = encodeProxyV2 src dst ++ rest) :
    ∃ left, readProxyV2 reader = .ok (some (carriedPeer src), left) ∧ content left = rest := by
  by_cases both : ∃ s d, src.ip = .v4 s ∧ dst.ip = .v4 d
  · obtain ⟨s, d, srcIp, dstIp⟩ := both
    have found := parsePeer_v4 s d src.port dst.port
    have carried : carriedPeer src = .plain (.v4 s) src.port := by
      rw [carriedPeer, srcIp]
      rfl
    rw [carried]
    refine readProxyV2_frame reader (proxyV2Magic ++ [0x21] ++ [0x11] ++ BigEndian.encode 2 12) _ rest 0x1 12 rfl
      (by rfl) (length_payload_v4 s d src.port dst.port) _ found ?_
    rw [delivers, encodeProxyV2, srcIp, dstIp]
    simp only [List.append_assoc]
  · have found := parsePeer_v6 src.ip dst.ip src.port dst.port
    refine readProxyV2_frame reader (proxyV2Magic ++ [0x21] ++ [0x21] ++ BigEndian.encode 2 36) _ rest 0x2 36 rfl
      (by rfl) (length_payload_v6 src.ip dst.ip src.port dst.port) _ found ?_
    rw [delivers, encodeProxyV2_v6 src dst (fun s d same => both ⟨s, d, same⟩)]

/-- Whatever follows the header and however the stream is cut, the reader learns the client's address and leaves
what follows. -/
theorem proxyV2_roundTrip (src dst : SocketAddr) (rest : List UInt8) (reader : Source UInt8)
    (delivers : content reader = encodeProxyV2 src dst ++ rest) :
    ∃ peer left, readProxyV2 reader = .ok (some peer, left) ∧ content left = rest ∧
      (∀ addr, src.ip.toIpv4Mapped = some addr → peer.ip = .v4 addr) ∧
      (src.ip.toIpv4Mapped = none → peer.ip = src.ip) ∧
      peer.port = src.port ∧ peer.flowinfo = 0 ∧ peer.scopeId = 0 := by
  obtain ⟨left, done, remaining⟩ := readProxyV2_encodeProxyV2 src dst rest reader delivers
  refine ⟨carriedPeer src, left, done, remaining, ?_, ?_, rfl, rfl, rfl⟩
  · intro addr mapped
    rw [carriedPeer, SocketAddr.plain, IpAddr.unmapped, mapped]
  · intro unmapped
    rw [carriedPeer, SocketAddr.plain, IpAddr.unmapped, unmapped]

private def mappedClient : SocketAddr :=
  ⟨.v6 0 0 0 0 0 0xffff 0xc000 0x0201, 50000, 7, 1, fun _ same => by cases same⟩

theorem proxyV2_roundTrip_mapped :
    ∃ peer left, readProxyV2 ([encodeProxyV2 mappedClient (.plain (.v4 0xcb007101) 443), [0x16], [0x03]]) =
        .ok (some peer, left) ∧ content left = [0x16, 0x03] ∧
      (∀ addr, mappedClient.ip.toIpv4Mapped = some addr → peer.ip = .v4 addr) ∧
      (mappedClient.ip.toIpv4Mapped = none → peer.ip = mappedClient.ip) ∧
      peer.port = mappedClient.port ∧ peer.flowinfo = 0 ∧ peer.scopeId = 0 :=
  proxyV2_roundTrip mappedClient (.plain (.v4 0xcb007101) 443) [0x16, 0x03] _ (by simp [content])

end Praeco.Tunnel.ProxyProtocol
