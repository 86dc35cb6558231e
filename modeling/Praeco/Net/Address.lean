import Praeco.Streams.BigEndian

/-! Client addresses, the form under which clients are counted, and the octets of an address. -/

namespace Praeco.Net.Address
open Praeco.Streams

inductive IpAddr where
  | v4 (addr : UInt32)
  | v6 (s0 s1 s2 s3 s4 s5 s6 s7 : UInt16)
  deriving DecidableEq, Repr

/-- Mapped addresses are taken as IPv4, and an IPv6 client stands for its /64 network; the loopback and the
unspecified address stay. -/
def canonicalClientIp : IpAddr → IpAddr
  | .v4 addr => .v4 addr
  | .v6 0 0 0 0 0 0xffff s6 s7 => .v4 ((s6.toUInt32 <<< 16) ||| s7.toUInt32)
  | .v6 0 0 0 0 0 0 0 1 => .v6 0 0 0 0 0 0 0 1
  | .v6 0 0 0 0 0 0 0 0 => .v6 0 0 0 0 0 0 0 0
  | .v6 s0 s1 s2 s3 _ _ _ _ => .v6 s0 s1 s2 s3 0 0 0 0

example : canonicalClientIp (.v6 0 0 0 0 0 0xffff 0xc0a8 0x0132) = .v4 0xc0a80132 := by decide

theorem canonicalClientIp_network (s0 s1 s2 s3 : UInt16) :
    canonicalClientIp (.v6 s0 s1 s2 s3 0 0 0 0) = .v6 s0 s1 s2 s3 0 0 0 0 := by
  unfold canonicalClientIp
  split <;> simp_all

theorem canonicalClientIp_idem (ip : IpAddr) : canonicalClientIp (canonicalClientIp ip) = canonicalClientIp ip := by
  generalize same : canonicalClientIp ip = result
  unfold canonicalClientIp at same
  split at same
  · subst same
    rfl
  · subst same
    rfl
  · subst same
    rfl
  · subst same
    rfl
  · subst same
    exact canonicalClientIp_network _ _ _ _

namespace IpAddr

def isUnspecified : IpAddr → Bool
  | .v4 0 => true
  | .v6 0 0 0 0 0 0 0 0 => true
  | _ => false

def v4Text (addr : UInt32) : List Char :=
  ['.'].intercalate (([24, 16, 8, 0] : List UInt32).map fun shift => (Nat.repr ((addr >>> shift) &&& 255).toNat).toList)

/-- The start and the length of the longest run of zero segments, the first of them if there are several. -/
def longestZeros (segments : List UInt16) : Nat × Nat :=
  let (_, _, longest) := segments.foldl (fun (index, current, longest) segment =>
    if segment = 0 then
      let current : Nat × Nat := (if current.2 = 0 then index else current.1, current.2 + 1)
      (index + 1, current, if longest.2 < current.2 then current else longest)
    else (index + 1, (0, 0), longest)) ((0 : Nat), ((0 : Nat), (0 : Nat)), ((0 : Nat), (0 : Nat)))
  longest

def segmentsText (segments : List UInt16) : List Char :=
  [':'].intercalate (segments.map fun segment => Nat.toDigits 16 segment.toNat)

def toText : IpAddr → List Char
  | .v4 addr => v4Text addr
  | .v6 0 0 0 0 0 0xffff s6 s7 => "::ffff:".toList ++ v4Text ((s6.toUInt32 <<< 16) ||| s7.toUInt32)
  | .v6 s0 s1 s2 s3 s4 s5 s6 s7 =>
    let segments := [s0, s1, s2, s3, s4, s5, s6, s7]
    let (start, length) := longestZeros segments
    if 1 < length then
      segmentsText (segments.take start) ++ "::".toList ++ segmentsText (segments.drop (start + length))
    else segmentsText segments

example : toText (.v6 0x2001 0xdb8 0 0 1 0 0 0) = "2001:db8:0:0:1::".toList := by decide

def octets : IpAddr → List UInt8
  | .v4 addr => BigEndian.encode 4 addr.toNat
  | .v6 s0 s1 s2 s3 s4 s5 s6 s7 =>
    ([s0, s1, s2, s3, s4, s5, s6, s7] : List UInt16).flatMap fun segment => BigEndian.encode 2 segment.toNat

def u16At (bytes : List UInt8) (offset : Nat) : UInt16 := UInt16.ofNat (BigEndian.decode ((bytes.drop offset).take 2))

def ipv4OfOctets (bytes : List UInt8) : IpAddr := .v4 (UInt32.ofNat (BigEndian.decode (bytes.take 4)))

def ipv6OfOctets (bytes : List UInt8) : IpAddr :=
  .v6 (u16At bytes 0) (u16At bytes 2) (u16At bytes 4) (u16At bytes 6)
    (u16At bytes 8) (u16At bytes 10) (u16At bytes 12) (u16At bytes 14)

def toIpv6Mapped : IpAddr → IpAddr
  | .v4 addr => .v6 0 0 0 0 0 0xffff (addr >>> 16).toUInt16 addr.toUInt16
  | .v6 s0 s1 s2 s3 s4 s5 s6 s7 => .v6 s0 s1 s2 s3 s4 s5 s6 s7

def toIpv4Mapped : IpAddr → Option UInt32
  | .v6 0 0 0 0 0 0xffff s6 s7 => some ((s6.toUInt32 <<< 16) ||| s7.toUInt32)
  | _ => none

def unmapped (ip : IpAddr) : IpAddr :=
  match ip.toIpv4Mapped with
  | some addr => .v4 addr
  | none => ip

theorem u16At_encode (before after : List UInt8) (n : UInt16) (offset : Nat) (reached : before.length = offset) :
    u16At (before ++ BigEndian.encode 2 n.toNat ++ after) offset = n := by
  rw [u16At, List.append_assoc, List.drop_left' reached, List.take_left' (BigEndian.length_encode 2 n.toNat),
    BigEndian.decode_encode_of_lt 2 n.toNat n.toNat_lt, UInt16.ofNat_toNat]

theorem u16At_segments (segments : List UInt16) (after : List UInt8) (k : Nat) (inside : k < segments.length) :
    u16At ((segments.flatMap fun segment => BigEndian.encode 2 segment.toNat) ++ after) (2 * k) = segments[k] := by
  induction segments generalizing k with
  | nil => exact absurd inside (Nat.not_lt_zero k)
  | cons segment segments ih =>
    rw [List.flatMap_cons, List.append_assoc]
    cases k with
    | zero => exact u16At_encode [] _ segment 0 rfl
    | succ k =>
      rw [u16At, Nat.mul_succ, Nat.add_comm, ← List.drop_drop,
        List.drop_left' (BigEndian.length_encode 2 segment.toNat)]
      exact ih k (Nat.lt_of_succ_lt_succ inside)

theorem ipv4OfOctets_octets (addr : UInt32) (after : List UInt8) :
    ipv4OfOctets (octets (.v4 addr) ++ after) = .v4 addr := by
  have field : (octets (.v4 addr) ++ after).take 4 = octets (.v4 addr) :=
    List.take_left' (BigEndian.length_encode 4 addr.toNat)
  rw [ipv4OfOctets, field, octets, BigEndian.decode_encode_of_lt 4 addr.toNat addr.toNat_lt, UInt32.ofNat_toNat]

theorem ipv6OfOctets_octets (s0 s1 s2 s3 s4 s5 s6 s7 : UInt16) (after : List UInt8) :
    ipv6OfOctets (octets (.v6 s0 s1 s2 s3 s4 s5 s6 s7) ++ after) = .v6 s0 s1 s2 s3 s4 s5 s6 s7 := by
  have segment (k : Nat) (inside : k < 8) := u16At_segments [s0, s1, s2, s3, s4, s5, s6, s7] after k inside
  unfold ipv6OfOctets
  congr 1
  · exact segment 0 (by decide)
  · exact segment 1 (by decide)
  · exact segment 2 (by decide)
  · exact segment 3 (by decide)
  · exact segment 4 (by decide)
  · exact segment 5 (by decide)
  · exact segment 6 (by decide)
  · exact segment 7 (by decide)

private theorem join_halves (addr : UInt32) :
    ((addr >>> 16).toUInt16.toUInt32 <<< 16) ||| addr.toUInt16.toUInt32 = addr := by
  apply UInt32.toNat_inj.mp
  have bound := addr.toNat_lt
  simp only [UInt32.toNat_or, UInt32.toNat_shiftLeft, UInt16.toNat_toUInt32, UInt32.toNat_toUInt16,
    UInt32.toNat_shiftRight, UInt32.reduceToNat, Nat.reduceMod, Nat.shiftRight_eq_div_pow]
  have high : (addr.toNat / 2 ^ 16 % 2 ^ 16) <<< 16 < 2 ^ 32 := by
    rw [Nat.shiftLeft_eq]
    omega
  rw [Nat.mod_eq_of_lt high, ← Nat.shiftLeft_add_eq_or_of_lt (Nat.mod_lt _ (by decide)), Nat.shiftLeft_eq]
  omega

theorem unmapped_toIpv6Mapped (ip : IpAddr) : ip.toIpv6Mapped.unmapped = ip.unmapped := by
  cases ip with
  | v4 addr =>
    rw [unmapped, unmapped, toIpv6Mapped, toIpv4Mapped, join_halves]
    rfl
  | v6 s0 s1 s2 s3 s4 s5 s6 s7 => rfl

end IpAddr

/-- The flow label and the scope belong to IPv6 addresses. -/
structure SocketAddr where
  ip : IpAddr
  port : UInt16
  flowinfo : UInt32
  scopeId : UInt32
  zoneless : ∀ addr, ip = .v4 addr → flowinfo = 0 ∧ scopeId = 0
  deriving DecidableEq, Repr

namespace SocketAddr

def plain (ip : IpAddr) (port : UInt16) : SocketAddr := ⟨ip, port, 0, 0, fun _ _ => ⟨rfl, rfl⟩⟩

def unspecified : SocketAddr := plain (.v4 0) 0

end SocketAddr

end Praeco.Net.Address
