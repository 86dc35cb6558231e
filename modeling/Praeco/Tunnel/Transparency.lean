import Praeco.Tunnel.ProxyProtocol
import Praeco.Tunnel.Overwrite

/-! A client connection on its way through the relay: the record that names the server, the bytes written into the
tunnel, and what the gateway makes of them. -/

namespace Praeco.Tunnel.Transparency
open Praeco.Strings Utf8 Fields Praeco.Streams Reading Praeco.Net.Address
open Praeco.Tunnel.ProxyProtocol Register Registry Overwrite Praeco.Schedule.Runs Praeco.Schedule.Processes

inductive HelloError where
  | closedBeforeData
  | eofInHeader
  | recordTooLong
  | eofInPayload
  deriving DecidableEq, Repr

/-- `ready` tells whether the read of further bytes of a stream that is not TLS returns in time. -/
def readClientHelloRecord (ready : Bool) (stream : Source UInt8) : Except HelloError (Bytes × Source UInt8) :=
  match fill 5 5 stream with
  | .error [] => .error .closedBeforeData
  | .error _ => .error .eofInHeader
  | .ok (header, stream) =>
    if header.headD 0 ≠ 0x16 then
      if ready then .ok (header ++ (read 512 stream).1, (read 512 stream).2) else .ok (header, stream)
    else
      let recordLen := (IpAddr.u16At header 3).toNat
      if 16384 < recordLen then .error .recordTooLong
      else
        match fill 4096 recordLen stream with
        | .error _ => .error .eofInPayload
        | .ok (payload, stream) => .ok (header ++ payload, stream)

/-- A connection on the data plane: the tunnel it is routed to and the bytes written into it. `extractSni` stands
for the TLS parser. -/
def forward (unicode : Alphanumerics) (extractSni : Bytes → Option Text) (tunnels : AList (fun _ : Text => TunnelRoute))
    (clientAddr : SocketAddr) (localAddr : Option SocketAddr) (ready : Bool) (client : Source UInt8) :
    Option (TunnelRoute × Bytes) := do
  let (buf, client) ← (readClientHelloRecord ready client).toOption
  let name ← extractSni buf
  let sni := toAsciiLowercase name
  guard (isValidSni unicode sni)
  let route ← tunnels.lookup sni
  let ppv2Header := if route.supportsProxyV2 then encodeProxyV2 clientAddr (localAddr.getD clientAddr) else []
  return (route, ppv2Header ++ buf ++ drain 8192 client)

def resolveTunnelPeer (stream : Source UInt8) (useProxyProtocol : Bool) : Option (SocketAddr × Source UInt8) :=
  if !useProxyProtocol then some (.unspecified, stream)
  else
    match readProxyV2 stream with
    | .ok (some addr, stream) => some (addr, stream)
    | .ok (none, stream) => some (.unspecified, stream)
    | .error _ => none

def HandshakeRecord (record : Bytes) : Prop :=
  ∃ version payload : Bytes, record = [0x16] ++ version ++ BigEndian.encode 2 payload.length ++ payload ∧
    version.length = 2 ∧ payload.length ≤ 16384

theorem readClientHelloRecord_ok (ready : Bool) (client : Source UInt8) (record rest : Bytes)
    (hello : HandshakeRecord record) (delivers : content client = record ++ rest) :
    ∃ left, readClientHelloRecord ready client = .ok (record, left) ∧ content left = rest := by
  obtain ⟨version, payload, rfl, versionSize, short⟩ := hello
  have headerSize : ([0x16] ++ version ++ BigEndian.encode 2 payload.length).length = 5 := by
    simp [versionSize]
  have announced :
      (IpAddr.u16At ([0x16] ++ version ++ BigEndian.encode 2 payload.length) 3).toNat = payload.length := by
    have field := IpAddr.u16At_encode ([0x16] ++ version) [] (UInt16.ofNat payload.length) 3 (by simp [versionSize])
    have size : (UInt16.ofNat payload.length).toNat = payload.length := by
      rw [UInt16.toNat_ofNat']
      omega
    rw [size, List.append_nil] at field
    rw [field, size]
  rw [List.append_assoc] at delivers
  obtain ⟨middle, headerRead, after⟩ := fill_ok 5 5 (by decide) client _ _ headerSize delivers
  obtain ⟨left, payloadRead, remaining⟩ := fill_ok 4096 payload.length (by decide) middle payload rest rfl after
  refine ⟨left, ?_, remaining⟩
  rw [readClientHelloRecord, headerRead]
  dsimp only
  rw [if_neg (by simp), announced, if_neg (by omega), payloadRead]

theorem forward_ok (unicode : Alphanumerics) (extractSni : Bytes → Option Text)
    (tunnels : AList (fun _ : Text => TunnelRoute)) (clientAddr : SocketAddr) (localAddr : Option SocketAddr)
    (ready : Bool) (client : Source UInt8) (record rest : Bytes) (hello : HandshakeRecord record)
    (delivers : content client = record ++ rest) (name : Text) (asks : extractSni record = some name)
    (valid : isValidSni unicode (toAsciiLowercase name) = true) (route : TunnelRoute)
    (routed : tunnels.lookup (toAsciiLowercase name) = some route) :
    forward unicode extractSni tunnels clientAddr localAddr ready client =
      some (route, (if route.supportsProxyV2 then encodeProxyV2 clientAddr (localAddr.getD clientAddr) else []) ++
        (record ++ rest)) := by
  obtain ⟨left, done, remaining⟩ := readClientHelloRecord_ok ready client record rest hello delivers
  simp [forward, done, Except.toOption, asks, valid, routed, guard, drain_eq, remaining]

theorem resolveTunnelPeer_header (stream : Source UInt8) (src dst : SocketAddr) (rest : Bytes)
    (delivers : content stream = encodeProxyV2 src dst ++ rest) :
    ∃ left, resolveTunnelPeer stream true = some (carriedPeer src, left) ∧ content left = rest := by
  obtain ⟨left, done, remaining⟩ := readProxyV2_encodeProxyV2 src dst rest stream delivers
  refine ⟨left, ?_, remaining⟩
  rw [resolveTunnelPeer, done]
  rfl

theorem resolveTunnelPeer_bare (stream : Source UInt8) (record rest : Bytes) (hello : HandshakeRecord record)
    (delivers : content stream = record ++ rest) : resolveTunnelPeer stream true = none := by
  obtain ⟨version, payload, rfl, _, _⟩ := hello
  have unsigned : (content stream).take 12 ≠ proxyV2Magic := by
    rw [delivers]
    intro same
    have first : (0x16 : UInt8) = 0x0D := (List.cons.inj same).1
    exact absurd first (by decide)
  obtain ⟨error, done⟩ := readProxyV2_unsigned stream unsigned
  rw [resolveTunnelPeer, done]
  rfl

/-- The gateway registers, the relay forwards, the gateway resolves: in every interleaving of control connections, while
the entry of the gateway's connection is in the table, and with agreeing settings, the client's stream arrives as it was
sent, under the client's address if the gateway asks for it. A gateway that asks for addresses of a relay that sends none
refuses every connection. -/
theorem tunnel_transparent (unicode : Alphanumerics) (extractSni : Bytes → Option Text) (allowedSnis : List Text)
    (tunnel : TunnelConfig) (enableProxyProtocol : Bool) (clientAddr : SocketAddr) (localAddr : Option SocketAddr)
    (ready : Bool) (control client : Source UInt8) (frames record rest : Bytes) (name : Text)
    (valid : isValidSni unicode (toAsciiLowercase tunnel.sniDomain) = true)
    (authorized : ∃ allowed ∈ allowedSnis, eqIgnoreAsciiCase allowed (toAsciiLowercase tunnel.sniDomain) = true)
    (registers : content control = utf8 (regCmd tunnel) ++ frames) (hello : HandshakeRecord record)
    (delivers : content client = record ++ rest) (asks : extractSni record = some name)
    (forTunnel : toAsciiLowercase name = toAsciiLowercase tunnel.sniDomain) :
    (∃ registration left,
      acceptRegistration unicode allowedSnis enableProxyProtocol control = some (registration, left) ∧
      content left = frames) ∧
    ∀ (labels : List (Label (List Text × Source UInt8) Signal)) (index : Nat) (stage : Stage)
      (registered : RegisteredTunnel unicode),
      let relay := run (step (controlPlane unicode enableProxyProtocol)) (initial unicode) labels
      (starts labels)[index]? = some (allowedSnis, control) →
      relay.processes[index]? = some (.registered stage registered) →
      relay.shared.tunnels.lookup (toAsciiLowercase tunnel.sniDomain) = some registered.route →
      ∃ written, forward unicode extractSni relay.shared.tunnels clientAddr localAddr ready client =
          some (registered.route, written) ∧
        ∀ stream, content stream = written →
          ((tunnel.proxyProtocol = true → enableProxyProtocol = true) →
            ∃ tls, resolveTunnelPeer stream tunnel.proxyProtocol =
                some (if tunnel.proxyProtocol then carriedPeer clientAddr else .unspecified, tls) ∧
              content tls = record ++ rest) ∧
          (tunnel.proxyProtocol = true ∧ enableProxyProtocol = false →
            resolveTunnelPeer stream tunnel.proxyProtocol = none) := by
  obtain ⟨left, accepted, remaining⟩ :=
    acceptRegistration_regCmd unicode allowedSnis tunnel enableProxyProtocol control frames valid authorized registers
  refine ⟨⟨_, left, accepted, remaining⟩, ?_⟩
  intro labels index stage registered relay begun present routed
  obtain ⟨_, asked⟩ := registered_asked unicode enableProxyProtocol begun present
  have capability : registered.route.supportsProxyV2 = (tunnel.proxyProtocol && enableProxyProtocol) :=
    congrArg (fun result => result.1.supportsProxyV2) (Option.some.inj (asked.symm.trans accepted))
  have forwarded := forward_ok unicode extractSni relay.shared.tunnels clientAddr localAddr ready client record rest hello
    delivers name asks (forTunnel ▸ valid) registered.route (forTunnel ▸ routed)
  refine ⟨_, forwarded, ?_⟩
  intro stream arrives
  rw [capability] at arrives
  cases asked : tunnel.proxyProtocol with
  | false =>
    rw [asked, Bool.false_and, if_neg Bool.false_ne_true, List.nil_append] at arrives
    exact ⟨fun _ => ⟨stream, rfl, arrives⟩, fun wrong => absurd wrong.1 (by decide)⟩
  | true =>
    rw [asked, Bool.true_and] at arrives
    cases offered : enableProxyProtocol with
    | false =>
      rw [offered, if_neg Bool.false_ne_true, List.nil_append] at arrives
      exact ⟨fun agree => absurd (agree rfl) (by decide),
        fun _ => resolveTunnelPeer_bare stream record rest hello arrives⟩
    | true =>
      rw [offered, if_pos rfl] at arrives
      exact ⟨fun _ => resolveTunnelPeer_header stream clientAddr _ _ arrives, fun wrong => absurd wrong.2 (by decide)⟩

/-- A gateway and a relay that speak the header, a tunnel that is entered while another one is there, and a client whose
first record arrives in two pieces. -/
theorem tunnel_transparent_header :
    let tunnel : TunnelConfig := ⟨[], "a.b".toList, [], [], [], none, true⟩
    let client : SocketAddr := .plain (.v4 0xC6336401) 50000
    let record : Bytes := [0x16, 3, 1, 0, 1, 7]
    let extractSni : Bytes → Option Text := fun _ => some "A.b".toList
    let labels := connect "c.d".toList 0 ++ .spawn (["a.b".toList], [utf8 (regCmd tunnel)]) ::
      (advance 0 3 ++ advance 1 4)
    ∃ written, forward asciiAlphanumerics extractSni
        (run (step (controlPlane asciiAlphanumerics true)) (initial asciiAlphanumerics) labels).shared.tunnels client none
        false [[0x16, 3, 1], [0, 1, 7, 9]] = some (⟨1, 2, true⟩, written) ∧
      ∃ tls, resolveTunnelPeer [written] tunnel.proxyProtocol = some (carriedPeer client, tls) ∧
        content tls = record ++ [9] := by
  intro tunnel client record extractSni labels
  have through := tunnel_transparent asciiAlphanumerics extractSni ["a.b".toList]
    tunnel true client none false [utf8 (regCmd tunnel)] [[0x16, 3, 1], [0, 1, 7, 9]] [] record [9] "A.b".toList
    (by decide +kernel) ⟨"a.b".toList, List.mem_singleton_self _, by decide +kernel⟩ (by simp [content])
    ⟨[3, 1], [7], by decide, by decide, by decide⟩ (by decide) rfl (by decide +kernel)
  have entered : (run (step (controlPlane asciiAlphanumerics true)) (initial asciiAlphanumerics) labels).processes[1]?.bind
      runningEntry = some ("a.b".toList, ⟨1, 2, true⟩) := by decide +kernel
  obtain ⟨connection, present, running⟩ := Option.bind_eq_some_iff.mp entered
  obtain ⟨registered, rfl, same⟩ := runningEntry_some running
  have route : registered.route = ⟨1, 2, true⟩ := (congrArg Prod.snd same).symm
  obtain ⟨written, forwarded, resolves⟩ := through.2 labels 1 .running registered rfl present
    (route ▸ by decide +kernel)
  exact ⟨written, route ▸ forwarded, (resolves [written] (by simp [content])).1 (fun _ => rfl)⟩

/-- The gateway asks for the header, the relay does not send it: the connection is refused. -/
theorem unanswered_request_refused :
    let tunnel : TunnelConfig := ⟨[], "a.b".toList, [], [], [], none, true⟩
    let client : SocketAddr := .plain (.v4 0xC6336401) 50000
    let record : Bytes := [0x16, 3, 1, 0, 1, 7]
    let route : TunnelRoute := ⟨0, 1, false⟩
    acceptRegistration asciiAlphanumerics ["a.b".toList] false [utf8 (regCmd tunnel)] =
        some (⟨"a.b".toList, route.supportsProxyV2⟩, [[]]) ∧
      forward asciiAlphanumerics (fun _ => some "a.b".toList) (AList.singleton "a.b".toList route) client none false
        [record] = some (route, record) ∧
      resolveTunnelPeer [record] tunnel.proxyProtocol = none := by
  decide +kernel

end Praeco.Tunnel.Transparency
