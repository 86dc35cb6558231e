import Praeco.Bits.Prefix
import Praeco.Collections.Fallible
import Praeco.Http.Message
import Praeco.Net.Parse
import Praeco.Strings.Split

/-! The IP filter. A rule is an address with a number of leading bits; it is compiled to a masked network address, and a
client is compared with it under the mask. -/

namespace Praeco.Limits.IpFilter
open Praeco.Strings Utf8 Fields Split Praeco.Net Address Parse Praeco.Bits.Prefix Praeco.Collections.Fallible
open Praeco.Http.Message

def u128 (s0 s1 s2 s3 s4 s5 s6 s7 : UInt16) : BitVec 128 :=
  s0.toBitVec ++ s1.toBitVec ++ s2.toBitVec ++ s3.toBitVec ++ s4.toBitVec ++ s5.toBitVec ++ s6.toBitVec ++ s7.toBitVec

inductive IpCidr where
  | v4 (network mask : BitVec 32) (prefixLen : Nat)
  | v6 (network mask : BitVec 128) (prefixLen : Nat)
  deriving DecidableEq, Repr

/-- The mask as both branches of `parse` compute it: no shift by the whole width is made. -/
def maskOf (w prefixLen : Nat) : BitVec w := if prefixLen = 0 then 0 else ~~~0#w <<< (w - prefixLen)

def networkV4 (addr : UInt32) (prefixLen : Nat) : IpCidr :=
  .v4 (addr.toBitVec &&& maskOf 32 prefixLen) (maskOf 32 prefixLen) prefixLen

def networkV6 (addr : BitVec 128) (prefixLen : Nat) : IpCidr :=
  .v6 (addr &&& maskOf 128 prefixLen) (maskOf 128 prefixLen) prefixLen

def invalidLength (family text trimmed : Text) : Text :=
  "Invalid ".toList ++ family ++ "prefix length '".toList ++ text ++ "' in CIDR '".toList ++ trimmed ++ "'".toList

def lengthOutOfRange (family : Text) (prefixLen most : Nat) (trimmed : Text) : Text :=
  family ++ "prefix length ".toList ++ (Nat.repr prefixLen).toList ++ " out of range (0..=".toList ++
    (Nat.repr most).toList ++ ") in CIDR '".toList ++ trimmed ++ "'".toList

def withLength (family : Text) (most : Nat) (network : Nat → IpCidr) (trimmed : Text) (prefixPart : Option Text) :
    Except Text IpCidr :=
  match prefixPart with
  | none => .ok (network most)
  | some text =>
    match parseU8 text with
    | none => .error (invalidLength family text trimmed)
    | some prefixLen =>
      if most < prefixLen then .error (lengthOutOfRange family prefixLen most trimmed) else .ok (network prefixLen)

def finishV4 (addr : UInt32) : Text → Option Text → Except Text IpCidr :=
  withLength "IPv4 ".toList 32 (networkV4 addr)

def finishV6 (addr : BitVec 128) : Text → Option Text → Except Text IpCidr :=
  withLength "IPv6 ".toList 128 (networkV6 addr)

/-- An IPv6 address: a mapped one counts as IPv4 unless its length is one for IPv6 only. -/
def parseV6 (addr : BitVec 128) (mapped : Option UInt32) (trimmed : Text) (prefixPart : Option Text) :
    Except Text IpCidr :=
  match mapped, prefixPart with
  | none, prefixPart => finishV6 addr trimmed prefixPart
  | some mappedV4, none => finishV4 mappedV4 trimmed none
  | some mappedV4, some text =>
    match parseU8 text with
    | none => .error (invalidLength [] text trimmed)
    | some pfx =>
      if pfx ≤ 32 then finishV4 mappedV4 trimmed (some text)
      else if 96 ≤ pfx ∧ pfx ≤ 128 then .ok (networkV4 mappedV4 (pfx - 96))
      else finishV6 addr trimmed (some text)

def parseAddress (trimmed ipPart : Text) (prefixPart : Option Text) : Except Text IpCidr :=
  match parseIpAddr ipPart with
  | none =>
    .error ("Invalid IP address in CIDR '".toList ++ trimmed ++ "': ".toList ++ ipSyntaxError)
  | some (.v4 addr) => finishV4 addr trimmed prefixPart
  | some (.v6 s0 s1 s2 s3 s4 s5 s6 s7) =>
    parseV6 (u128 s0 s1 s2 s3 s4 s5 s6 s7) (IpAddr.toIpv4Mapped (.v6 s0 s1 s2 s3 s4 s5 s6 s7)) trimmed prefixPart

def splitOnce (sep : Char) (text : Text) : Option (Text × Text) :=
  if sep ∈ text then some (text.takeWhile (· ≠ sep), (text.dropWhile (· ≠ sep)).tail) else none

def IpCidr.parse (input : Text) : Except Text IpCidr :=
  let trimmed := trim input
  if trimmed = [] then .error "CIDR string cannot be empty".toList
  else
    match splitOnce '/' trimmed with
    | some (ipS, pfxS) =>
      if '/' ∈ pfxS then .error ("Invalid CIDR '".toList ++ trimmed ++ "': multiple '/' delimiters".toList)
      else parseAddress trimmed (trim ipS) (some (trim pfxS))
    | none => parseAddress trimmed trimmed none

def IpCidr.contains (cidr : IpCidr) (ip : IpAddr) : Bool :=
  match cidr, ip.unmapped with
  | .v4 network mask _, .v4 addr => addr.toBitVec &&& mask = network
  | .v6 network mask _, .v6 s0 s1 s2 s3 s4 s5 s6 s7 => u128 s0 s1 s2 s3 s4 s5 s6 s7 &&& mask = network
  | _, _ => false

def ipv6OfU128 (bits : BitVec 128) : IpAddr :=
  .v6 ⟨bits.extractLsb' 112 16⟩ ⟨bits.extractLsb' 96 16⟩ ⟨bits.extractLsb' 80 16⟩ ⟨bits.extractLsb' 64 16⟩
    ⟨bits.extractLsb' 48 16⟩ ⟨bits.extractLsb' 32 16⟩ ⟨bits.extractLsb' 16 16⟩ ⟨bits.extractLsb' 0 16⟩

def ruleText (address : IpAddr) (prefixLen : Nat) : Text := address.toText ++ '/' :: (Nat.repr prefixLen).toList

def IpCidr.fmt : IpCidr → Text
  | .v4 network _ prefixLen => ruleText (.v4 ⟨network⟩) prefixLen
  | .v6 network _ prefixLen => ruleText (ipv6OfU128 network) prefixLen

inductive IpFilterRejection where
  | deniedByBlocklist (clientIp : IpAddr) (matchedCidr : IpCidr)
  | notInAllowlist (clientIp : IpAddr)
  | missingClientIp
  deriving DecidableEq, Repr

structure IpFilterLayer where
  allowCidrs : List IpCidr
  denyCidrs : List IpCidr
  trustForwardedHeaders : Bool
  serverName : Text
  deriving DecidableEq, Repr

def parseCidrs (serverName list : Text) (raws : List Text) : Except Text (List IpCidr) :=
  raws.mapM fun raw => (IpCidr.parse raw).mapError fun e =>
    serverName ++ ": Invalid CIDR in [Server.Layers.IpFilter].".toList ++ list ++ ": ".toList ++ e

def IpFilterLayer.fromCidrStrings (allow deny : List Text) (trustForwardedHeaders : Bool) (serverName : Text) :
    Except Text IpFilterLayer := do
  let allowCidrs ← parseCidrs serverName "allow_cidrs".toList allow
  let denyCidrs ← parseCidrs serverName "deny_cidrs".toList deny
  .ok ⟨allowCidrs, denyCidrs, trustForwardedHeaders, serverName⟩

def IpFilterLayer.evaluateIp (layer : IpFilterLayer) (clientIp : Option IpAddr) : Except IpFilterRejection Unit :=
  match clientIp with
  | some clientIp =>
    let ip := clientIp.unmapped
    match layer.denyCidrs.find? (·.contains ip) with
    | some cidr => .error (.deniedByBlocklist ip cidr)
    | none =>
      if layer.allowCidrs ≠ [] ∧ ¬layer.allowCidrs.any (·.contains ip) then .error (.notInAllowlist ip) else .ok ()
  | none => if layer.allowCidrs ≠ [] then .error .missingClientIp else .ok ()

/-! What a rule means. -/

def written (text : Text) : Option (IpAddr × Option Nat) :=
  match (trim text).splitOn '/' with
  | [address] => (parseIpAddr address).map (·, none)
  | [address, length] => do
    let ip ← parseIpAddr (trim address)
    let bits ← parseU8 (trim length)
    some (ip, some bits)
  | _ => none

def width : IpAddr → Nat
  | .v4 _ => 32
  | .v6 .. => 128

def range (ip : IpAddr) (bits : Option Nat) : IpAddr × Nat :=
  match ip.toIpv4Mapped, bits with
  | none, none => (ip, width ip)
  | none, some n => (ip, n)
  | some mapped, none => (.v4 mapped, 32)
  | some mapped, some n =>
    if n ≤ 32 then (.v4 mapped, n) else if 96 ≤ n ∧ n ≤ 128 then (.v4 mapped, n - 96) else (ip, n)

def Agree (n : Nat) : IpAddr → IpAddr → Prop
  | .v4 x, .v4 y => ∀ i < n, x.toBitVec.getMsbD i = y.toBitVec.getMsbD i
  | .v6 s0 s1 s2 s3 s4 s5 s6 s7, .v6 t0 t1 t2 t3 t4 t5 t6 t7 =>
    ∀ i < n, (u128 s0 s1 s2 s3 s4 s5 s6 s7).getMsbD i = (u128 t0 t1 t2 t3 t4 t5 t6 t7).getMsbD i
  | _, _ => False

def Covers (text : Text) (ip : IpAddr) : Prop :=
  ∃ address bits, written text = some (address, bits) ∧ Agree (range address bits).2 ip (range address bits).1

theorem maskOf_eq (w prefixLen : Nat) : maskOf w prefixLen = leading w prefixLen := by
  unfold maskOf
  split_ifs with none
  · rw [none, leading_zero]
    rfl
  · rw [leading, BitVec.not_zero]

def networkOf (address : IpAddr) (n : Nat) : IpCidr :=
  match address with
  | .v4 addr => networkV4 addr n
  | .v6 s0 s1 s2 s3 s4 s5 s6 s7 => networkV6 (u128 s0 s1 s2 s3 s4 s5 s6 s7) n

theorem contains_networkOf (address ip : IpAddr) (n : Nat) (within : n ≤ width address) :
    (networkOf address n).contains ip = true ↔ Agree n ip.unmapped address := by
  unfold IpCidr.contains
  cases address with
  | v4 addr =>
    cases ip.unmapped with
    | v4 client =>
      simp only [networkOf, networkV4, maskOf_eq, decide_eq_true_eq, Agree]
      exact and_leading_eq_iff _ _ n within
    | v6 => simp [networkOf, networkV4, Agree]
  | v6 s0 s1 s2 s3 s4 s5 s6 s7 =>
    cases ip.unmapped with
    | v4 client => simp [networkOf, networkV6, Agree]
    | v6 t0 t1 t2 t3 t4 t5 t6 t7 =>
      simp only [networkOf, networkV6, maskOf_eq, decide_eq_true_eq, Agree]
      exact and_leading_eq_iff _ _ n within

theorem withLength_ok {family : Text} {most : Nat} {network : Nat → IpCidr} {trimmed : Text} {prefixPart : Option Text}
    {cidr : IpCidr} (done : withLength family most network trimmed prefixPart = .ok cidr) :
    ∃ bits : Option Nat, prefixPart.map parseU8 = bits.map some ∧ bits.getD most ≤ most ∧
      cidr = network (bits.getD most) := by
  unfold withLength at done
  split at done
  · cases done
    exact ⟨none, rfl, le_rfl, rfl⟩
  · split at done
    · cases done
    · rename_i text prefixLen parsed
      split_ifs at done with large
      cases done
      exact ⟨some prefixLen, congrArg some parsed, not_lt.mp large, rfl⟩

structure CompiledTo (address : IpAddr) (bits : Option Nat) (cidr : IpCidr) : Prop where
  fits : (range address bits).2 ≤ width (range address bits).1
  network : cidr = networkOf (range address bits).1 (range address bits).2

private theorem range_unmapped (ip : IpAddr) (bits : Option Nat) (plain : ip.toIpv4Mapped = none) :
    range ip bits = (ip, bits.getD (width ip)) := by
  cases bits <;> simp [range, plain]

private theorem parseV6_ok (ip : IpAddr) (s0 s1 s2 s3 s4 s5 s6 s7 : UInt16) (same : ip = .v6 s0 s1 s2 s3 s4 s5 s6 s7)
    (trimmed : Text) (prefixPart : Option Text) (cidr : IpCidr)
    (done : parseV6 (u128 s0 s1 s2 s3 s4 s5 s6 s7) ip.toIpv4Mapped trimmed prefixPart = .ok cidr) :
    ∃ bits : Option Nat, prefixPart.map parseU8 = bits.map some ∧ CompiledTo ip bits cidr := by
  have wide : width ip = 128 := by rw [same]; rfl
  have network : ∀ n, networkV6 (u128 s0 s1 s2 s3 s4 s5 s6 s7) n = networkOf ip n := fun n => by rw [same]; rfl
  unfold parseV6 at done
  split at done
  · rename_i plain
    obtain ⟨bits, parsed, small, rfl⟩ := withLength_ok done
    have shape := range_unmapped ip bits plain
    rw [wide] at shape
    exact ⟨bits, parsed, by rw [shape, wide]; exact small, by rw [shape, network]⟩
  · rename_i mappedV4 mapped
    cases done
    have shape : range ip none = (.v4 mappedV4, 32) := by simp [range, mapped]
    exact ⟨none, rfl, by rw [shape]; exact le_rfl, by rw [shape]; rfl⟩
  · rename_i mappedV4 text mapped
    split at done
    · cases done
    · rename_i pfx parsed
      have read : (some text).map parseU8 = (some pfx).map some := congrArg some parsed
      refine ⟨some pfx, read, ?_⟩
      split_ifs at done with short long
      · obtain ⟨bits, again, -, rfl⟩ := withLength_ok done
        obtain rfl : bits = some pfx := Option.map_injective (Option.some_injective Nat) (again.symm.trans read)
        have shape : range ip (some pfx) = (.v4 mappedV4, pfx) := by simp [range, mapped, short]
        exact ⟨by rw [shape]; exact short, by rw [shape]; rfl⟩
      · cases done
        have shape : range ip (some pfx) = (.v4 mappedV4, pfx - 96) := by simp [range, mapped, short, long]
        have fits : pfx - 96 ≤ 32 := by omega
        exact ⟨by rw [shape]; exact fits, by rw [shape]; rfl⟩
      · obtain ⟨bits, again, small, rfl⟩ := withLength_ok done
        obtain rfl : bits = some pfx := Option.map_injective (Option.some_injective Nat) (again.symm.trans read)
        have shape : range ip (some pfx) = (ip, pfx) := by simp [range, mapped, short, long]
        exact ⟨by rw [shape, wide]; exact small, by rw [shape, network]; rfl⟩

private theorem parseAddress_ok {trimmed ipPart : Text} {prefixPart : Option Text} {cidr : IpCidr}
    (done : parseAddress trimmed ipPart prefixPart = .ok cidr) :
    ∃ address bits, parseIpAddr ipPart = some address ∧ prefixPart.map parseU8 = bits.map some ∧
      CompiledTo address bits cidr := by
  unfold parseAddress at done
  split at done
  · cases done
  · rename_i addr parsed
    obtain ⟨bits, read, small, rfl⟩ := withLength_ok done
    have shape : range (.v4 addr) bits = (.v4 addr, bits.getD 32) := range_unmapped _ bits rfl
    exact ⟨.v4 addr, bits, parsed, read, by rw [shape]; exact small, by rw [shape]; rfl⟩
  · rename_i s0 s1 s2 s3 s4 s5 s6 s7 parsed
    obtain ⟨bits, read, compiled⟩ := parseV6_ok _ s0 s1 s2 s3 s4 s5 s6 s7 rfl trimmed prefixPart cidr done
    exact ⟨_, bits, parsed, read, compiled⟩

theorem splitOnce_some {sep : Char} {text front back : Text} (split : splitOnce sep text = some (front, back)) :
    text = front ++ sep :: back ∧ sep ∉ front := by
  unfold splitOnce at split
  split_ifs at split with present
  obtain ⟨before, after, rfl, absent⟩ := List.eq_append_cons_of_mem present
  have clean : ∀ c ∈ before, decide (c ≠ sep) = true := fun c member => by
    simpa using fun same : c = sep => absent (same ▸ member)
  rw [List.takeWhile_append_of_pos clean, List.dropWhile_append_of_pos clean] at split
  obtain ⟨rfl, rfl⟩ : before = front ∧ after = back := by simpa using split
  exact ⟨rfl, absent⟩

theorem parse_ok (text : Text) (cidr : IpCidr) (done : IpCidr.parse text = .ok cidr) :
    ∃ address bits, written text = some (address, bits) ∧ CompiledTo address bits cidr := by
  simp only [IpCidr.parse] at done
  obtain ⟨-, done⟩ := guard_ok done
  unfold written
  split at done
  · rename_i front back split
    obtain ⟨one, done⟩ := guard_ok done
    obtain ⟨whole, clean⟩ := splitOnce_some split
    obtain ⟨address, bits, parsed, read, compiled⟩ := parseAddress_ok done
    cases bits with
    | none => cases read
    | some n =>
      have parts : (trim text).splitOn '/' = [front, back] := by
        rw [whole, splitOn_cons_part '/' front back clean, splitOn_clean '/' back one]
      have length : parseU8 (trim back) = some n := Option.some.inj read
      refine ⟨address, some n, ?_, compiled⟩
      simp only [parts, parsed, length]
      rfl
  · rename_i whole
    obtain ⟨address, bits, parsed, read, compiled⟩ := parseAddress_ok done
    cases bits with
    | some n => cases read
    | none =>
      have absent : '/' ∉ trim text := by
        intro present
        simp [splitOnce, present] at whole
      refine ⟨address, none, ?_, compiled⟩
      rw [splitOn_clean '/' (trim text) absent]
      simp only [parsed]
      rfl

/-- A rule that parses contains exactly the addresses it covers, in whatever form they come. -/
theorem parse_contains_iff (text : Text) (cidr : IpCidr) (done : IpCidr.parse text = .ok cidr) (ip : IpAddr) :
    cidr.contains ip = true ↔ Covers text ip.unmapped := by
  obtain ⟨address, bits, rule, compiled⟩ := parse_ok text cidr done
  rw [compiled.network, contains_networkOf _ _ _ compiled.fits]
  constructor
  · intro agree
    exact ⟨address, bits, rule, agree⟩
  · rintro ⟨other, otherBits, again, agree⟩
    obtain ⟨rfl, rfl⟩ : address = other ∧ bits = otherBits := by simpa using rule.symm.trans again
    exact agree

theorem unmapped_idem (ip : IpAddr) : ip.unmapped.unmapped = ip.unmapped := by
  cases mapped : ip.toIpv4Mapped with
  | some addr =>
    have same : ip.unmapped = .v4 addr := by rw [IpAddr.unmapped, mapped]
    rw [same]
    rfl
  | none =>
    have same : ip.unmapped = ip := by rw [IpAddr.unmapped, mapped]
    rw [same, same]

theorem parseCidrs_ok {serverName list : Text} {raws : List Text} {cidrs : List IpCidr}
    (done : parseCidrs serverName list raws = .ok cidrs) :
    List.Forall₂ (fun raw cidr => IpCidr.parse raw = .ok cidr) raws cidrs := by
  apply (mapM_ok done).imp
  intro raw cidr parsed
  cases known : IpCidr.parse raw with
  | error e =>
    rw [known] at parsed
    cases parsed
  | ok other =>
    rw [known] at parsed
    exact parsed

theorem parseCidrs_succeeds (serverName list : Text) (raws : List Text)
    (accepted : ∀ raw ∈ raws, ∃ cidr, IpCidr.parse raw = .ok cidr) :
    ∃ cidrs, parseCidrs serverName list raws = .ok cidrs := by
  apply (mapM_ok_iff _ raws).mpr
  intro raw member
  obtain ⟨cidr, parsed⟩ := accepted raw member
  exact ⟨cidr, by rw [parsed]; rfl⟩

theorem exists_contains_iff {raws : List Text} {cidrs : List IpCidr}
    (compiled : List.Forall₂ (fun raw cidr => IpCidr.parse raw = .ok cidr) raws cidrs) (ip : IpAddr) :
    (∃ cidr ∈ cidrs, cidr.contains ip = true) ↔ ∃ raw ∈ raws, Covers raw ip.unmapped := by
  induction compiled with
  | nil => simp
  | @cons raw cidr raws cidrs parsed _ ih =>
    simp only [List.mem_cons, exists_eq_or_imp, ih, parse_contains_iff raw cidr parsed ip]

/-- What the rules say about a client: no deny rule covers it, and an allow rule does if there are any. -/
def Permitted (allow deny : List Text) : Option IpAddr → Prop
  | some ip => (¬∃ raw ∈ deny, Covers raw ip.unmapped) ∧ (allow = [] ∨ ∃ raw ∈ allow, Covers raw ip.unmapped)
  | none => allow = []

theorem evaluateIp_iff (layer : IpFilterLayer) (allow deny : List Text)
    (allowed : List.Forall₂ (fun raw cidr => IpCidr.parse raw = .ok cidr) allow layer.allowCidrs)
    (denied : List.Forall₂ (fun raw cidr => IpCidr.parse raw = .ok cidr) deny layer.denyCidrs)
    (clientIp : Option IpAddr) : layer.evaluateIp clientIp = .ok () ↔ Permitted allow deny clientIp := by
  have empty : layer.allowCidrs = [] ↔ allow = [] := by
    rw [← List.length_eq_zero_iff, ← List.length_eq_zero_iff, allowed.length_eq]
  cases clientIp with
  | none =>
    simp only [IpFilterLayer.evaluateIp, Permitted, ← empty]
    split_ifs with active
    · simp [active]
    · simpa using active
  | some ip =>
    have deny := exists_contains_iff denied ip.unmapped
    have allow := exists_contains_iff allowed ip.unmapped
    rw [unmapped_idem] at deny allow
    simp only [IpFilterLayer.evaluateIp, Permitted, ← empty, ← deny, ← allow]
    cases blocked : layer.denyCidrs.find? (·.contains ip.unmapped) with
    | some cidr =>
      have member := List.mem_of_find?_eq_some blocked
      have found := List.find?_some blocked
      exact iff_of_false (by simp) fun facts => facts.1 ⟨cidr, member, found⟩
    | none =>
      have free : ¬∃ cidr ∈ layer.denyCidrs, cidr.contains ip.unmapped = true := by
        simpa using List.find?_eq_none.mp blocked
      simp only [free, not_false_eq_true, true_and]
      split_ifs with refused
      · simpa using refused
      · simpa [or_iff_not_imp_left] using refused

/-- For rules that parse, the layer is built and admits exactly the clients the rules permit. -/
theorem ipFilter_correct (allow deny : List Text) (trustForwardedHeaders : Bool) (serverName : Text)
    (allowAccepted : ∀ raw ∈ allow, ∃ cidr, IpCidr.parse raw = .ok cidr)
    (denyAccepted : ∀ raw ∈ deny, ∃ cidr, IpCidr.parse raw = .ok cidr) :
    ∃ layer, IpFilterLayer.fromCidrStrings allow deny trustForwardedHeaders serverName = .ok layer ∧
      ∀ clientIp, layer.evaluateIp clientIp = .ok () ↔ Permitted allow deny clientIp := by
  obtain ⟨allowCidrs, allowOk⟩ := parseCidrs_succeeds serverName "allow_cidrs".toList allow allowAccepted
  obtain ⟨denyCidrs, denyOk⟩ := parseCidrs_succeeds serverName "deny_cidrs".toList deny denyAccepted
  refine ⟨⟨allowCidrs, denyCidrs, trustForwardedHeaders, serverName⟩, ?_, ?_⟩
  · rw [IpFilterLayer.fromCidrStrings, allowOk, denyOk]
    rfl
  · exact evaluateIp_iff _ allow deny (parseCidrs_ok allowOk) (parseCidrs_ok denyOk)

theorem ipFilter_correct_private :
    ∃ layer, IpFilterLayer.fromCidrStrings ["10.0.0.0/8".toList] ["::ffff:10.1.0.0/112".toList] false [] = .ok layer ∧
      ∀ clientIp, layer.evaluateIp clientIp = .ok () ↔
        Permitted ["10.0.0.0/8".toList] ["::ffff:10.1.0.0/112".toList] clientIp := by
  have allow : IpCidr.parse "10.0.0.0/8".toList = .ok (networkV4 0x0A000000 8) := by decide +kernel
  have deny : IpCidr.parse "::ffff:10.1.0.0/112".toList = .ok (networkV4 0x0A010000 16) := by decide +kernel
  exact ipFilter_correct _ _ _ _ (fun raw member => ⟨_, List.mem_singleton.mp member ▸ allow⟩)
    fun raw member => ⟨_, List.mem_singleton.mp member ▸ deny⟩

end Praeco.Limits.IpFilter
