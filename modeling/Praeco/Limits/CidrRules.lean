import Praeco.Limits.IpFilter
import Praeco.Net.Display

/-! CIDR rules as they are written: whether a rule covers the address it names, and reading back the text a compiled
rule is shown as. -/

namespace Praeco.Limits.CidrRules
open Praeco.Strings Utf8 Percent Fields Praeco.Net Address Parse Display Praeco.Bits.Prefix IpFilter

/-- The rule is written with a mapped address and a length that is taken for IPv6. -/
def KeptAsIpv6 (address : IpAddr) (bits : Option Nat) : Prop :=
  address.toIpv4Mapped.isSome = true ∧ ∃ n, bits = some n ∧ 32 < n ∧ n < 96

theorem width_le (ip : IpAddr) : width ip ≤ 128 := by
  cases ip with
  | v4 => exact Nat.le_of_ble_eq_true rfl
  | v6 => exact le_rfl

inductive Ranged (address : IpAddr) (bits : Option Nat) : IpAddr × Nat → Prop
  | plain (n : Nat) (unmapped : address.toIpv4Mapped = none) : Ranged address bits (address, n)
  | unwrapped (addr : UInt32) (n : Nat) (mapped : address.toIpv4Mapped = some addr)
      (other : ¬KeptAsIpv6 address bits) : Ranged address bits (.v4 addr, n)
  | kept (n : Nat) (ipv6 : KeptAsIpv6 address bits) (short : n < 96) : Ranged address bits (address, n)

theorem ranged (address : IpAddr) (bits : Option Nat)
    (fits : (range address bits).2 ≤ width (range address bits).1) : Ranged address bits (range address bits) := by
  cases mapped : address.toIpv4Mapped with
  | none =>
    cases bits with
    | none => simpa [range, mapped] using Ranged.plain (width address) mapped
    | some n => simpa [range, mapped] using Ranged.plain n mapped
  | some addr =>
    cases bits with
    | none =>
      have other : ¬KeptAsIpv6 address none := by
        rintro ⟨-, n, same, -⟩
        cases same
      simpa [range, mapped] using Ranged.unwrapped addr 32 mapped other
    | some n =>
      by_cases short : n ≤ 32
      · have other : ¬KeptAsIpv6 address (some n) := by
          rintro ⟨-, m, same, low, -⟩
          cases same
          omega
        simpa [range, mapped, short] using Ranged.unwrapped addr n mapped other
      · by_cases long : 96 ≤ n ∧ n ≤ 128
        · have other : ¬KeptAsIpv6 address (some n) := by
            rintro ⟨-, m, same, -, high⟩
            cases same
            omega
          simpa [range, mapped, short, long] using Ranged.unwrapped addr (n - 96) mapped other
        · have named : range address (some n) = (address, n) := by simp only [range, mapped, short, long, if_false]
          rw [named] at fits ⊢
          have most : n ≤ 128 := fits.trans (width_le address)
          exact .kept n ⟨by rw [mapped]; rfl, n, rfl, by omega, by omega⟩ (by omega)

theorem agree_self (n : Nat) (ip : IpAddr) : Agree n ip ip := by
  cases ip <;> exact fun _ _ => rfl

/-- A rule contains the address it is written with, unless that address is mapped and the rule is kept for IPv6: then
membership looks for the IPv4 address in an IPv6 network. -/
theorem contains_named_iff (text : Text) (cidr : IpCidr) (done : IpCidr.parse text = .ok cidr) :
    ∃ address bits, written text = some (address, bits) ∧
      (cidr.contains address = true ↔ ¬KeptAsIpv6 address bits) := by
  obtain ⟨address, bits, rule, compiled⟩ := parse_ok text cidr done
  refine ⟨address, bits, rule, ?_⟩
  rw [compiled.network, contains_networkOf _ _ _ compiled.fits]
  have compiledAs := ranged address bits compiled.fits
  generalize range address bits = shape at compiledAs
  cases compiledAs with
  | plain n unmapped =>
    have same : address.unmapped = address := by rw [IpAddr.unmapped, unmapped]
    have plain : ¬KeptAsIpv6 address bits := by
      rintro ⟨present, -⟩
      simp [unmapped] at present
    rw [same]
    exact iff_of_true (agree_self n address) plain
  | unwrapped addr n mapped other =>
    have same : address.unmapped = .v4 addr := by rw [IpAddr.unmapped, mapped]
    rw [same]
    exact iff_of_true (agree_self n (.v4 addr)) other
  | kept n ipv6 short =>
    obtain ⟨addr, mapped⟩ := Option.isSome_iff_exists.mp ipv6.1
    have same : address.unmapped = .v4 addr := by rw [IpAddr.unmapped, mapped]
    have apart : ¬Agree n (.v4 addr) address := by
      intro agree
      cases address with
      | v4 other => cases mapped
      | v6 => exact agree
    rw [same]
    exact iff_of_false apart (not_not.mpr ipv6)

theorem contains_named_iff_private :
    ∃ address bits, written "10.1.2.3/8".toList = some (address, bits) ∧
      ((networkV4 0x0A000000 8).contains address = true ↔ ¬KeptAsIpv6 address bits) :=
  contains_named_iff "10.1.2.3/8".toList _ (by decide +kernel)

theorem mapped_rule_misses_itself :
    ∃ cidr, IpCidr.parse "::ffff:1.2.3.4/40".toList = .ok cidr ∧
      written "::ffff:1.2.3.4/40".toList = some (.v6 0 0 0 0 0 0xffff 0x0102 0x0304, some 40) ∧
      cidr.contains (.v6 0 0 0 0 0 0xffff 0x0102 0x0304) = false := by
  refine ⟨networkV6 (u128 0 0 0 0 0 0xffff 0x0102 0x0304) 40, ?_, ?_, ?_⟩ <;> decide +kernel

/-! The text of a rule. -/

def IsMapped (bits : BitVec 128) : Prop := ∀ i < 96, bits.getMsbD i = decide (80 ≤ i)

theorem getMsbD_u128 (s0 s1 s2 s3 s4 s5 s6 s7 : UInt16) (k j : Nat) (segment : k < 8) (bit : j < 16) :
    (u128 s0 s1 s2 s3 s4 s5 s6 s7).getMsbD (16 * k + j) =
      ([s0, s1, s2, s3, s4, s5, s6, s7].getD k 0).toBitVec.getMsbD j := by
  unfold u128
  by_cases last : k = 7
  · subst last
    exact getMsbD_back _ _ rfl
  · have before : k < 7 := by omega
    interval_cases k
    · simp (disch := omega) only [getMsbD_front]
      exact congrArg s0.toBitVec.getMsbD (Nat.zero_add j)
    all_goals
      simp (disch := omega) only [getMsbD_front]
      exact getMsbD_back _ _ rfl

theorem getMsbD_segment (bits : BitVec 128) (k j : Nat) (segment : k < 8) (bit : j < 16) :
    (bits.extractLsb' (112 - 16 * k) 16).getMsbD j = bits.getMsbD (16 * k + j) := by
  have inside : 112 - 16 * k + 16 - j ≤ 128 := by omega
  have place : 128 - (112 - 16 * k + 16 - j) = 16 * k + j := by omega
  rw [BitVec.getMsbD_extractLsb', place]
  simp [bit, inside]

theorem u128_ofU128 (bits : BitVec 128) :
    u128 ⟨bits.extractLsb' 112 16⟩ ⟨bits.extractLsb' 96 16⟩ ⟨bits.extractLsb' 80 16⟩ ⟨bits.extractLsb' 64 16⟩
      ⟨bits.extractLsb' 48 16⟩ ⟨bits.extractLsb' 32 16⟩ ⟨bits.extractLsb' 16 16⟩ ⟨bits.extractLsb' 0 16⟩ = bits := by
  apply BitVec.eq_of_getMsbD_eq
  intro i inside
  obtain ⟨k, j, segment, bit, rfl⟩ : ∃ k j, k < 8 ∧ j < 16 ∧ i = 16 * k + j :=
    ⟨i / 16, i % 16, by omega, by omega, by omega⟩
  have known := getMsbD_segment bits k j segment bit
  rw [getMsbD_u128 _ _ _ _ _ _ _ _ k j segment bit]
  interval_cases k <;> exact known

def mappedFront : List UInt16 := [0, 0, 0, 0, 0, 0xffff]

theorem mappedFront_bits : ∀ k < 6, ∀ j < 16, (mappedFront.getD k 0).toBitVec.getMsbD j = decide (80 ≤ 16 * k + j) := by
  decide

theorem toIpv4Mapped_isSome_iff (s0 s1 s2 s3 s4 s5 s6 s7 : UInt16) :
    (IpAddr.toIpv4Mapped (.v6 s0 s1 s2 s3 s4 s5 s6 s7)).isSome = true ↔ IsMapped (u128 s0 s1 s2 s3 s4 s5 s6 s7) := by
  have shape : (IpAddr.toIpv4Mapped (.v6 s0 s1 s2 s3 s4 s5 s6 s7)).isSome = true ↔
      s0 = 0 ∧ s1 = 0 ∧ s2 = 0 ∧ s3 = 0 ∧ s4 = 0 ∧ s5 = 0xffff := by
    unfold IpAddr.toIpv4Mapped
    split
    · simp_all
    · rename_i other
      apply iff_of_false (by simp)
      rintro ⟨rfl, rfl, rfl, rfl, rfl, rfl⟩
      exact other _ _ rfl
  rw [shape]
  constructor
  · rintro ⟨rfl, rfl, rfl, rfl, rfl, rfl⟩ i inside
    obtain ⟨k, j, segment, bit, rfl⟩ : ∃ k j, k < 6 ∧ j < 16 ∧ i = 16 * k + j :=
      ⟨i / 16, i % 16, by omega, by omega, by omega⟩
    rw [getMsbD_u128 _ _ _ _ _ _ _ _ k j (by omega) bit, ← mappedFront_bits k segment j bit]
    interval_cases k <;> rfl
  · intro mapped
    have same (k : Nat) (front : k < 6) : [s0, s1, s2, s3, s4, s5, s6, s7].getD k 0 = mappedFront.getD k 0 := by
      apply UInt16.toBitVec_inj.mp
      apply BitVec.eq_of_getMsbD_eq
      intro j bit
      rw [← getMsbD_u128 s0 s1 s2 s3 s4 s5 s6 s7 k j (by omega) bit, mapped (16 * k + j) (by omega),
        mappedFront_bits k front j bit]
    exact ⟨same 0 (by decide), same 1 (by decide), same 2 (by decide), same 3 (by decide), same 4 (by decide),
      same 5 (by decide)⟩

theorem IsMapped.of_masked {bits : BitVec 128} {n : Nat} (within : n ≤ 128)
    (mapped : IsMapped (bits &&& maskOf 128 n)) : 96 ≤ n ∧ IsMapped bits := by
  have masked (i : Nat) : (bits &&& maskOf 128 n).getMsbD i = (bits.getMsbD i && decide (i < n)) := by
    rw [maskOf_eq, BitVec.getMsbD_and, getMsbD_leading n i within]
  have last : 95 < n := by
    have one := mapped 95 (by decide)
    rw [masked] at one
    simpa using (Bool.and_eq_true_iff.mp one).2
  refine ⟨last, fun i inside => ?_⟩
  have kept : i < n := by omega
  have known := mapped i inside
  rw [masked] at known
  simpa [kept] using known

/-- What a rule that parses is compiled to. No network of an IPv6 rule is a mapped address. -/
theorem parse_network (text : Text) (cidr : IpCidr) (done : IpCidr.parse text = .ok cidr) :
    (∃ addr n, n ≤ 32 ∧ cidr = networkV4 addr n) ∨
      ∃ bits n, n ≤ 128 ∧ ¬IsMapped (bits &&& maskOf 128 n) ∧ cidr = networkV6 bits n := by
  obtain ⟨address, bits, -, compiled⟩ := parse_ok text cidr done
  have network := compiled.network
  have fits := compiled.fits
  have compiledAs := ranged address bits fits
  generalize range address bits = shape at compiledAs network fits
  obtain ⟨named, n⟩ := shape
  cases named with
  | v4 addr => exact .inl ⟨addr, n, fits, network⟩
  | v6 s0 s1 s2 s3 s4 s5 s6 s7 =>
    refine .inr ⟨_, n, fits, ?_, network⟩
    intro masked
    obtain ⟨many, mapped⟩ := masked.of_masked fits
    rw [← toIpv4Mapped_isSome_iff] at mapped
    cases compiledAs with
    | plain _ unmapped => simp [unmapped] at mapped
    | kept _ _ short => exact absurd short (not_lt.mpr many)

theorem trim_clean (text : Text) (clean : ∀ c ∈ text, isWhitespace c = false) : trim text = text := by
  have front : text.dropWhile isWhitespace = text := by
    apply List.dropWhile_eq_self_iff.mpr
    intro nonempty
    rw [clean _ (List.getElem_mem nonempty)]
    decide
  have back : text.rdropWhile isWhitespace = text := by
    apply List.rdropWhile_eq_self_iff.mpr
    intro nonempty
    rw [clean _ (List.getLast_mem nonempty)]
    decide
  rw [trim, front, back]

theorem addressChar_plain {c : Char} (known : AddressChar c) : isWhitespace c = false ∧ c ≠ '/' := by
  rcases known with digit | rfl | rfl
  · have range : (48 ≤ c.toNat ∧ c.toNat ≤ 57) ∨ (97 ≤ c.toNat ∧ c.toNat ≤ 102) ∨ (65 ≤ c.toNat ∧ c.toNat ≤ 70) := by
      unfold digitValue at digit
      split_ifs at digit with decimal lower upper
      · exact .inl decimal
      · exact .inr (.inl lower)
      · exact .inr (.inr upper)
      · cases digit
    constructor
    · simp only [isWhitespace, Bool.or_eq_false_iff, decide_eq_false_iff_not]
      omega
    · rintro rfl
      revert range
      decide
  · decide
  · decide

theorem parseU8_repr : ∀ n < 256, parseU8 (Nat.repr n).toList = some n := by
  decide +kernel

theorem splitOnce_front (sep : Char) (front back : Text) (clean : sep ∉ front) :
    splitOnce sep (front ++ sep :: back) = some (front, back) := by
  have other : ∀ c ∈ front, decide (c ≠ sep) = true := by
    intro c member
    simpa using fun same : c = sep => clean (same ▸ member)
  rw [splitOnce, if_pos (List.mem_append_right front List.mem_cons_self), List.takeWhile_append_of_pos other,
    List.dropWhile_append_of_pos other]
  simp

theorem parse_ruleText (address : IpAddr) (n : Nat) :
    IpCidr.parse (ruleText address n) =
      parseAddress (ruleText address n) address.toText (some (Nat.repr n).toList) := by
  have address_clean : ∀ c ∈ address.toText, isWhitespace c = false ∧ c ≠ '/' := fun c member =>
    addressChar_plain (addressChar_of_mem_toText member)
  have digits : (Nat.repr n).toList = Nat.toDigits 10 n := by
    rw [Nat.repr_eq_ofList_toDigits, String.toList_ofList]
  have length_clean : ∀ c ∈ (Nat.repr n).toList, isWhitespace c = false ∧ c ≠ '/' := fun c member =>
    addressChar_plain (addressChar_of_mem_toDigits (by decide) (by decide) (digits ▸ member))
  have clean : ∀ c ∈ ruleText address n, isWhitespace c = false := by
    intro c member
    rcases List.mem_append.mp member with front | back
    · exact (address_clean c front).1
    · rcases List.mem_cons.mp back with rfl | digit
      · decide
      · exact (length_clean c digit).1
  have split : splitOnce '/' (ruleText address n) = some (address.toText, (Nat.repr n).toList) :=
    splitOnce_front '/' _ _ fun member => (address_clean '/' member).2 rfl
  have one : '/' ∉ (Nat.repr n).toList := fun member => (length_clean '/' member).2 rfl
  have nonempty : ruleText address n ≠ [] := by simp [ruleText]
  simp only [IpCidr.parse, trim_clean _ clean, nonempty, if_false, split, one,
    trim_clean address.toText fun c member => (address_clean c member).1,
    trim_clean (Nat.repr n).toList fun c member => (length_clean c member).1]

/-- A rule that parses is read back from its text. -/
theorem parse_fmt (text : Text) (cidr : IpCidr) (done : IpCidr.parse text = .ok cidr) :
    IpCidr.parse cidr.fmt = .ok cidr := by
  rcases parse_network text cidr done with ⟨addr, n, small, rfl⟩ | ⟨bits, n, small, plain, rfl⟩
  · have length := parseU8_repr n (by omega)
    calc
      IpCidr.parse (ruleText (.v4 ⟨addr.toBitVec &&& maskOf 32 n⟩) n)
        = .ok (networkV4 ⟨addr.toBitVec &&& maskOf 32 n⟩ n) := by
        rw [parse_ruleText, parseAddress, parseIpAddr_toText]
        simp only [finishV4, withLength, length, not_lt.mpr small, if_false]
      _ = .ok (networkV4 addr n) := by rw [networkV4, networkV4, BitVec.and_assoc, BitVec.and_self]
  · have length := parseU8_repr n (by omega)
    have unmapped : (ipv6OfU128 (bits &&& maskOf 128 n)).toIpv4Mapped = none := by
      rw [← Option.not_isSome_iff_eq_none, ipv6OfU128, toIpv4Mapped_isSome_iff, u128_ofU128]
      exact plain
    calc
      IpCidr.parse (ruleText (ipv6OfU128 (bits &&& maskOf 128 n)) n)
        = .ok (networkV6 (bits &&& maskOf 128 n) n) := by
        rw [parse_ruleText, parseAddress, parseIpAddr_toText]
        rw [ipv6OfU128] at unmapped ⊢
        simp only [unmapped, u128_ofU128, parseV6, finishV6, withLength, length, not_lt.mpr small, if_false]
      _ = .ok (networkV6 bits n) := by rw [networkV6, networkV6, BitVec.and_assoc, BitVec.and_self]

theorem parse_fmt_shared :
    IpCidr.parse (networkV6 (u128 0x2001 0xdb8 0 0 0 0 0 0) 33).fmt =
      .ok (networkV6 (u128 0x2001 0xdb8 0 0 0 0 0 0) 33) :=
  parse_fmt "2001:db8::7/33".toList _ (by decide +kernel)

end Praeco.Limits.CidrRules
