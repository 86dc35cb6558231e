import Praeco.Net.Parse

/-! Addresses as they are written and read: every address is read back from its own text. -/

namespace Praeco.Net.Display
open Praeco.Strings Utf8 Percent Praeco.Net Address Address.IpAddr Parse

theorem digitValue_digitChar : ∀ n < 16, digitValue (Nat.digitChar n) = some n := by
  decide

variable {radix n : Nat} {c : Char} {segments : List UInt16}

theorem mem_toDigits (positional : 1 < radix) (member : c ∈ Nat.toDigits radix n) :
    ∃ digit < radix, c = Nat.digitChar digit := by
  induction n using Nat.strong_induction_on with
  | _ n ih =>
    by_cases small : n < radix
    · rw [Nat.toDigits_of_lt_base small, List.mem_singleton] at member
      exact ⟨n, small, member⟩
    · rw [Nat.toDigits_of_base_le positional (not_lt.mp small), List.mem_append, List.mem_singleton] at member
      rcases member with member | last
      · exact ih (n / radix) (Nat.div_lt_self (by omega) positional) member
      · exact ⟨n % radix, Nat.mod_lt _ (by omega), last⟩

theorem isDigitIn_of_mem_toDigits (positional : 1 < radix) (small : radix ≤ 16) (member : c ∈ Nat.toDigits radix n) :
    isDigitIn radix c = true := by
  obtain ⟨digit, bound, rfl⟩ := mem_toDigits positional member
  rw [isDigitIn, digitValue_digitChar digit (by omega)]
  simpa using bound

theorem numberOf_toDigits (radix n : Nat) (positional : 1 < radix) (small : radix ≤ 16) :
    numberOf radix (Nat.toDigits radix n) = n := by
  induction n using Nat.strong_induction_on with
  | _ n ih =>
    by_cases single : n < radix
    · rw [Nat.toDigits_of_lt_base single]
      simp [numberOf, digitValue_digitChar n (by omega)]
    · have last : n % radix < radix := Nat.mod_lt _ (by omega)
      have front := ih (n / radix) (Nat.div_lt_self (by omega) positional)
      rw [numberOf] at front
      rw [Nat.toDigits_of_base_le positional (not_lt.mp single), numberOf, List.foldl_concat, front,
        digitValue_digitChar (n % radix) (by omega), Option.getD_some]
      exact Nat.div_add_mod n radix

def AddressChar (c : Char) : Prop := (digitValue c).isSome = true ∨ c = '.' ∨ c = ':'

theorem addressChar_of_mem_toDigits (positional : 1 < radix) (small : radix ≤ 16) (member : c ∈ Nat.toDigits radix n) :
    AddressChar c := by
  obtain ⟨digit, bound, rfl⟩ := mem_toDigits positional member
  exact .inl (by rw [digitValue_digitChar digit (by omega)]; rfl)

theorem readOctet_toDigits : ∀ n < 256, readOctet (Nat.toDigits 10 n) = some (n, []) := by
  decide +kernel

def Ends (tail : Text) : Prop := tail = [] ∨ ∃ rest, tail = ':' :: rest

theorem readGivenChar_self (target : Char) (rest : Text) : readGivenChar target (target :: rest) = some ((), rest) := by
  simp [readGivenChar]

theorem readOctet_dot (n : Nat) (rest : Text) (bound : n < 256) :
    readOctet (Nat.toDigits 10 n ++ '.' :: rest) = some (n, '.' :: rest) := by
  have whole := readNumber_undisturbed 10 (some 3) false 256 '.' rest (by decide) (Nat.toDigits 10 n)
  have read := readOctet_toDigits n bound
  rw [readOctet] at read ⊢
  rw [whole, read]
  rfl

theorem v4Text_eq (addr : UInt32) :
    v4Text addr = Nat.toDigits 10 (addr.toNat / 2 ^ 24 % 256) ++ '.' :: (Nat.toDigits 10 (addr.toNat / 2 ^ 16 % 256) ++
      '.' :: (Nat.toDigits 10 (addr.toNat / 2 ^ 8 % 256) ++ '.' :: Nat.toDigits 10 (addr.toNat % 256))) := by
  have octet (shift : UInt32) (few : shift.toNat < 32) :
      ((addr >>> shift) &&& 255).toNat = addr.toNat / 2 ^ shift.toNat % 256 := by
    rw [UInt32.toNat_and, UInt32.toNat_shiftRight, Nat.mod_eq_of_lt few, Nat.shiftRight_eq_div_pow]
    exact Nat.and_two_pow_sub_one_eq_mod _ 8
  have text (n : Nat) : (Nat.repr n).toList = Nat.toDigits 10 n := by
    rw [Nat.repr_eq_ofList_toDigits, String.toList_ofList]
  simp only [v4Text, List.map_cons, List.map_nil, text, octet 24 (by decide), octet 16 (by decide), octet 8 (by decide),
    octet 0 (by decide)]
  simp [List.intercalate, List.intersperse]

theorem readIpv4Addr_v4Text (addr : UInt32) : readIpv4Addr (v4Text addr) = some (addr, []) := by
  have bound := addr.toNat_lt
  have small (n : Nat) : n % 256 < 256 := Nat.mod_lt n (by decide)
  have dot (rest : Text) := readGivenChar_self '.' rest
  rw [v4Text_eq]
  calc
    _ = some (UInt32.ofNat (((addr.toNat / 2 ^ 24 % 256 * 256 + addr.toNat / 2 ^ 16 % 256) * 256 +
          addr.toNat / 2 ^ 8 % 256) * 256 + addr.toNat % 256), []) := by
      refine (read_bind_some (readOctet_dot _ _ (small _))).trans ((read_bind_some (dot _)).trans ?_)
      refine (read_bind_some (readOctet_dot _ _ (small _))).trans ((read_bind_some (dot _)).trans ?_)
      refine (read_bind_some (readOctet_dot _ _ (small _))).trans ((read_bind_some (dot _)).trans ?_)
      exact read_bind_some (readOctet_toDigits _ (small _))
    _ = some (addr, []) := by
      congr 2
      apply UInt32.toNat_inj.mp
      rw [UInt32.toNat_ofNat']
      omega

/-! IPv6 addresses are written in groups. -/

def groupText (segment : UInt16) : Text := Nat.toDigits 16 segment.toNat

theorem dot_not_mem_groupText (segment : UInt16) : '.' ∉ groupText segment := by
  intro member
  obtain ⟨digit, bound, same⟩ := mem_toDigits (by decide) member
  have known := digitValue_digitChar digit bound
  rw [← same] at known
  exact absurd known (by simp [digitValue])

theorem readGroup (segment : UInt16) (tail : Text) (ends : Ends tail) :
    readNumber 16 (some 4) true 65536 (groupText segment ++ tail) = some (segment.toNat, tail) := by
  have digits : ∀ c ∈ groupText segment, isDigitIn 16 c = true := fun c member =>
    isDigitIn_of_mem_toDigits (by decide) (by decide) member
  have alone : readNumber 16 (some 4) true 65536 (groupText segment) = some (segment.toNat, []) := by
    have fits : segment.toNat < 65536 := segment.toNat_lt
    have short : (groupText segment).length ≤ 4 := (Nat.length_toDigits_le_iff (by decide) (by decide)).mpr fits
    have value : numberOf 16 (groupText segment) = segment.toNat := numberOf_toDigits 16 _ (by decide) (by decide)
    have present : groupText segment ≠ [] := Nat.toDigits_ne_nil
    simp [readNumber, List.takeWhile_eq_self_iff.mpr digits, List.dropWhile_eq_nil_iff.mpr digits, value, fits, present,
      short]
  rcases ends with rfl | ⟨rest, rfl⟩
  · rw [List.append_nil]
    exact alone
  · rw [readNumber_undisturbed 16 (some 4) true 65536 ':' rest (by decide) (groupText segment), alone]
    rfl

theorem readIpv4Addr_dotless (text : Text) (clean : '.' ∉ text) : readIpv4Addr text = none := by
  cases octet : readOctet text with
  | none => exact read_bind_none octet
  | some result =>
    obtain ⟨n, rest⟩ := result
    have left : rest = text.dropWhile (isDigitIn 10) := by
      simp only [readOctet, readNumber] at octet
      split_ifs at octet
      cases octet
      rfl
    have absent : '.' ∉ rest := fun member => clean ((left ▸ List.dropWhile_suffix _).subset member)
    have dot : readGivenChar '.' rest = none := by
      cases rest with
      | nil => rfl
      | cons c rest =>
        have other : c ≠ '.' := by
          rintro rfl
          exact absent List.mem_cons_self
        exact if_neg other
    exact (read_bind_some octet).trans (read_bind_none dot)

theorem readIpv4Addr_group (segment : UInt16) (tail : Text) (ends : Ends tail) :
    readIpv4Addr (groupText segment ++ tail) = none := by
  have alone := readIpv4Addr_dotless (groupText segment) (dot_not_mem_groupText segment)
  rcases ends with rfl | ⟨rest, rfl⟩
  · rw [List.append_nil]
    exact alone
  · rw [readIpv4Addr_undisturbed rest (groupText segment), alone]
    rfl

theorem readers_end (tail : Text) (ends : Ends tail) :
    readIpv4Addr tail = none ∧ readNumber 16 (some 4) true 65536 tail = none := by
  rcases ends with rfl | ⟨rest, rfl⟩
  · exact ⟨rfl, rfl⟩
  · have octet : readOctet (':' :: rest) = none := by simp [readOctet, readNumber, isDigitIn, digitValue]
    exact ⟨read_bind_none octet, by simp [readNumber, isDigitIn, digitValue]⟩

def lead (first : Bool) : Text := if first then [] else [':']

theorem readSeparated_lead {α : Type} (first : Bool) (inner : Reader α) (text : Text) :
    readSeparated first inner (lead first ++ text) = inner text := by
  cases first with
  | true => rfl
  | false => exact read_bind_some (readGivenChar_self ':' text)

def grouped (first : Bool) : List UInt16 → Text
  | [] => []
  | segment :: segments => lead first ++ (groupText segment ++ grouped false segments)

theorem segmentsText_eq (segments : List UInt16) : segmentsText segments = grouped true segments := by
  have joined (first : UInt16) (segments : List UInt16) :
      [':'].intercalate ((first :: segments).map groupText) = groupText first ++ grouped false segments := by
    induction segments generalizing first with
    | nil => simp [List.intercalate, grouped]
    | cons second segments ih =>
      have tail := ih second
      simp only [List.map_cons, List.intercalate, List.intersperse] at tail ⊢
      rw [List.flatten_cons, List.flatten_cons, tail]
      rfl
  cases segments with
  | nil => rfl
  | cons first segments => exact joined first segments

theorem grouped_ends (segments : List UInt16) (tail : Text) (ends : Ends tail) :
    Ends (grouped false segments ++ tail) := by
  cases segments with
  | nil => exact ends
  | cons segment segments => exact .inr ⟨_, rfl⟩

theorem readGroups_group (first : Bool) (left : Nat) (segment : UInt16) (tail : Text) (ends : Ends tail) {ipv4 : Bool}
    {rest : Text} (read : readGroups false left tail = (segments, ipv4, rest)) :
    readGroups first (left + 1) (lead first ++ (groupText segment ++ tail)) = (segment :: segments, ipv4, rest) := by
  rw [readGroups]
  simp only [readSeparated_lead, readIpv4Addr_group segment tail ends, readGroup segment tail ends, ite_self, read,
    UInt16.ofNat_toNat]

theorem readGroups_grouped (first : Bool) (left : Nat) (segments : List UInt16) (tail : Text)
    (fits : segments.length ≤ left) (stop : tail = [] ∨ ∃ rest, tail = ':' :: ':' :: rest) :
    readGroups first left (grouped first segments ++ tail) = (segments, false, tail) := by
  have ends : Ends tail := by
    rcases stop with rfl | ⟨rest, rfl⟩
    · exact .inl rfl
    · exact .inr ⟨_, rfl⟩
  induction segments generalizing first left with
  | nil =>
    cases left with
    | zero => rfl
    | succ left =>
      have none_read : readSeparated first readIpv4Addr tail = none ∧
          readSeparated first (readNumber 16 (some 4) true 65536) tail = none := by
        cases first with
        | true => exact readers_end tail ends
        | false =>
          rcases stop with rfl | ⟨rest, rfl⟩
          · exact ⟨rfl, rfl⟩
          · have second := readers_end (':' :: rest) (.inr ⟨rest, rfl⟩)
            have colon := readGivenChar_self ':' (':' :: rest)
            exact ⟨(read_bind_some colon).trans second.1, (read_bind_some colon).trans second.2⟩
      simp only [grouped, List.nil_append, readGroups, none_read.1, none_read.2, ite_self]
  | cons segment segments ih =>
    obtain ⟨slots, rfl⟩ : ∃ slots, left = slots + 1 := ⟨left - 1, by simp only [List.length_cons] at fits; omega⟩
    have after := grouped_ends segments tail ends
    have rest := ih false slots (Nat.le_of_succ_le_succ fits)
    have text : grouped first (segment :: segments) ++ tail =
        lead first ++ (groupText segment ++ (grouped false segments ++ tail)) := by
      simp only [grouped, List.append_assoc]
    rw [text]
    exact readGroups_group first slots segment _ after rest

/-! The run of zeros that is left out. -/

def ZeroRun (segments : List UInt16) (run : Nat × Nat) : Prop :=
  ∀ i, run.1 ≤ i → i < run.1 + run.2 → segments[i]? = some 0

theorem ZeroRun.append {run : Nat × Nat} (zeros : ZeroRun segments run) (more : List UInt16) :
    ZeroRun (segments ++ more) run := by
  intro i low high
  have known := zeros i low high
  obtain ⟨inside, -⟩ := List.getElem?_eq_some_iff.mp known
  rw [List.getElem?_append_left inside]
  exact known

theorem ZeroRun.shape {run : Nat × Nat} (zeros : ZeroRun segments run) :
    segments = segments.take run.1 ++ List.replicate run.2 0 ++ segments.drop (run.1 + run.2) := by
  have middle : (segments.drop run.1).take run.2 = List.replicate run.2 0 := by
    apply List.ext_getElem?
    intro i
    rw [List.getElem?_take, List.getElem?_drop, List.getElem?_replicate]
    split_ifs with inside
    · exact zeros (run.1 + i) (by omega) (by omega)
    · rfl
  rw [← middle, ← List.drop_drop, List.append_assoc, List.take_append_drop, List.take_append_drop]

structure Searched (segments : List UInt16) (state : Nat × (Nat × Nat) × (Nat × Nat)) : Prop where
  index : state.1 = segments.length
  current : ZeroRun segments state.2.1
  reaches : state.2.1.2 ≠ 0 → state.2.1.1 + state.2.1.2 = segments.length
  longest : ZeroRun segments state.2.2

theorem longestZeros_zero (segments : List UInt16) : ZeroRun segments (longestZeros segments) := by
  have none_yet : ZeroRun [] (0, 0) := fun i _ high => absurd high (Nat.not_lt_zero i)
  unfold longestZeros
  refine @Searched.longest segments _ ?_
  induction segments using List.reverseRecOn with
  | nil => exact ⟨rfl, none_yet, fun some => absurd rfl some, none_yet⟩
  | append_singleton segments segment ih =>
    rw [List.foldl_concat]
    revert ih
    generalize List.foldl _ _ segments = state
    intro searched
    obtain ⟨index, current, longest⟩ := state
    obtain rfl : index = segments.length := searched.index
    have reached : current.2 ≠ 0 → current.1 + current.2 = segments.length := searched.reaches
    have longest_zero : ZeroRun (segments ++ [segment]) longest := searched.longest.append [segment]
    by_cases zero : segment = 0
    · -- the run that reaches the end grows by the new segment, or starts with it
      subst zero
      have grown : ZeroRun (segments ++ [0])
          (if current.2 = 0 then segments.length else current.1, current.2 + 1) := by
        intro i low high
        by_cases last : i = segments.length
        · rw [last, List.getElem?_concat_length]
        · split_ifs at low high with fresh
          · simp only [fresh] at high
            omega
          · have before := reached fresh
            have inside : i < current.1 + current.2 := by
              simp only at high
              omega
            exact searched.current.append [0] i low inside
      have reaches :
          (if current.2 = 0 then segments.length else current.1) + (current.2 + 1) = segments.length + 1 := by
        split_ifs with fresh
        · rw [fresh]
        · have before := reached fresh
          omega
      simp only [if_true]
      refine ⟨by simp, grown, fun _ => by simpa using reaches, ?_⟩
      by_cases longer : longest.2 < current.2 + 1
      · simpa only [if_pos longer] using grown
      · simpa only [if_neg longer] using longest_zero
    · simp only [if_neg zero]
      refine ⟨by simp, fun i _ high => absurd high (Nat.not_lt_zero i), fun some => absurd rfl some, longest_zero⟩

theorem readIpv4Addr_grouped (segments : List UInt16) (tail : Text) (ends : Ends tail) :
    readIpv4Addr (grouped true segments ++ tail) = none := by
  cases segments with
  | nil => exact (readers_end tail ends).1
  | cons segment segments =>
    have text : grouped true (segment :: segments) ++ tail = groupText segment ++ (grouped false segments ++ tail) := by
      simp [grouped, lead]
    rw [text]
    exact readIpv4Addr_group segment _ (grouped_ends segments tail ends)

theorem readIpv6Addr_grouped (segments : List UInt16) (all : segments.length = 8) :
    readIpv6Addr (grouped true segments) = some (segments, []) := by
  have groups := readGroups_grouped true 8 segments [] all.le (.inl rfl)
  rw [List.append_nil] at groups
  simp [readIpv6Addr, groups, all]

theorem readIpv6Addr_shortened (head back : List UInt16) (groups : Text) (ipv4 : Bool)
    (shorter : head.length + back.length < 8)
    (read : readGroups true (7 - head.length) groups = (back, ipv4, [])) :
    readIpv6Addr (grouped true head ++ "::".toList ++ groups) =
      some (head ++ List.replicate (8 - head.length - back.length) 0 ++ back, []) := by
  have front := readGroups_grouped true 8 head (':' :: ':' :: groups) (by omega) (.inr ⟨groups, rfl⟩)
  have open8 : head.length ≠ 8 := by omega
  have text : grouped true head ++ "::".toList ++ groups = grouped true head ++ ':' :: ':' :: groups := by simp
  rw [text]
  simp [readIpv6Addr, front, open8, readGivenChar_self, read]

theorem parseIpAddr_v6 {text : Text} (other : readIpv4Addr text = none)
    (read : readIpv6Addr text = some (segments, [])) : parseIpAddr text = some (ipv6OfGroups segments) := by
  rw [parseIpAddr, parseWith, readIpAddr, other, read]
  rfl

theorem halves_join (s6 s7 : UInt16) (addr : UInt32) (joined : (s6.toUInt32 <<< 16) ||| s7.toUInt32 = addr) :
    s6 = (addr >>> 16).toUInt16 ∧ s7 = addr.toUInt16 := by
  have high := s6.toNat_lt
  have low := s7.toNat_lt
  have value : addr.toNat = s6.toNat * 2 ^ 16 + s7.toNat := by
    have fits : s6.toNat <<< 16 < 2 ^ 32 := by
      rw [Nat.shiftLeft_eq]
      omega
    simp only [← joined, UInt32.toNat_or, UInt32.toNat_shiftLeft, UInt16.toNat_toUInt32, UInt32.reduceToNat,
      Nat.reduceMod]
    rw [Nat.mod_eq_of_lt fits, ← Nat.shiftLeft_add_eq_or_of_lt low, Nat.shiftLeft_eq]
  constructor
  · apply UInt16.toNat_inj.mp
    simp only [UInt32.toNat_toUInt16, UInt32.toNat_shiftRight, UInt32.reduceToNat, Nat.reduceMod,
      Nat.shiftRight_eq_div_pow]
    omega
  · apply UInt16.toNat_inj.mp
    rw [UInt32.toNat_toUInt16]
    omega

private theorem parseIpAddr_mapped (s6 s7 : UInt16) :
    parseIpAddr ("::ffff:".toList ++ v4Text ((s6.toUInt32 <<< 16) ||| s7.toUInt32)) =
      some (.v6 0 0 0 0 0 0xffff s6 s7) := by
  generalize joined : (s6.toUInt32 <<< 16) ||| s7.toUInt32 = addr
  have last : readGroups false 6 (':' :: v4Text addr) = ([(addr >>> 16).toUInt16, addr.toUInt16], true, []) := by
    have read : readSeparated false readIpv4Addr (':' :: v4Text addr) = some (addr, []) :=
      (readSeparated_lead false readIpv4Addr (v4Text addr)).trans (readIpv4Addr_v4Text addr)
    simp [readGroups, read]
  have groups : readGroups true 7 ("ffff:".toList ++ v4Text addr) =
      (([0xffff, (addr >>> 16).toUInt16, addr.toUInt16] : List UInt16), true, []) := by
    exact readGroups_group true 6 0xffff (':' :: v4Text addr) (.inr ⟨_, rfl⟩) last
  have read := readIpv6Addr_shortened [] [0xffff, (addr >>> 16).toUInt16, addr.toUInt16] _ true (by simp) groups
  have other : readIpv4Addr ("::ffff:".toList ++ v4Text addr) = none := (readers_end _ (.inr ⟨_, rfl⟩)).1
  obtain ⟨rfl, rfl⟩ := halves_join s6 s7 addr joined
  exact parseIpAddr_v6 other read

/-- The longest run of zeros is left out if it has more than one segment. -/
theorem parseIpAddr_shortened (segments : List UInt16) (run : Nat × Nat) (all : segments.length = 8)
    (zeros : ZeroRun segments run) (long : 1 < run.2) :
    parseIpAddr (grouped true (segments.take run.1) ++ "::".toList ++ grouped true (segments.drop (run.1 + run.2))) =
      some (ipv6OfGroups segments) := by
  have bound : run.1 + run.2 ≤ 8 := by
    obtain ⟨inside, -⟩ := List.getElem?_eq_some_iff.mp (zeros (run.1 + run.2 - 1) (by omega) (by omega))
    omega
  have front : (segments.take run.1).length = run.1 := by
    rw [List.length_take]
    omega
  have behind : (segments.drop (run.1 + run.2)).length = 8 - (run.1 + run.2) := by rw [List.length_drop, all]
  have back := readGroups_grouped true (7 - run.1) (segments.drop (run.1 + run.2)) [] (by omega) (.inl rfl)
  rw [List.append_nil] at back
  have read := readIpv6Addr_shortened (segments.take run.1) (segments.drop (run.1 + run.2)) _ false (by omega)
    (by rw [front]; exact back)
  have missing : 8 - run.1 - (8 - (run.1 + run.2)) = run.2 := by omega
  rw [front, behind, missing, ← zeros.shape] at read
  have other := readIpv4Addr_grouped (segments.take run.1)
    (':' :: ':' :: grouped true (segments.drop (run.1 + run.2))) (.inr ⟨_, rfl⟩)
  have text : grouped true (segments.take run.1) ++ "::".toList ++ grouped true (segments.drop (run.1 + run.2)) =
      grouped true (segments.take run.1) ++ ':' :: ':' :: grouped true (segments.drop (run.1 + run.2)) := by simp
  exact parseIpAddr_v6 (text ▸ other) read

theorem parseIpAddr_toText (ip : IpAddr) : parseIpAddr ip.toText = some ip := by
  unfold toText
  split
  · rename_i addr
    rw [parseIpAddr, parseWith, readIpAddr, readIpv4Addr_v4Text]
    rfl
  · exact parseIpAddr_mapped _ _
  · rename_i s0 s1 s2 s3 s4 s5 s6 s7 _
    have zeros := longestZeros_zero [s0, s1, s2, s3, s4, s5, s6, s7]
    simp only [segmentsText_eq]
    split_ifs with long
    · exact parseIpAddr_shortened [s0, s1, s2, s3, s4, s5, s6, s7] _ rfl zeros long
    · have read := readIpv6Addr_grouped [s0, s1, s2, s3, s4, s5, s6, s7] rfl
      have other := readIpv4Addr_grouped [s0, s1, s2, s3, s4, s5, s6, s7] [] (.inl rfl)
      rw [List.append_nil] at other
      exact parseIpAddr_v6 other read

theorem addressChar_of_mem_v4Text {addr : UInt32} (member : c ∈ v4Text addr) : AddressChar c := by
  rw [v4Text_eq] at member
  simp only [List.mem_append, List.mem_cons] at member
  rcases member with digit | rfl | digit | rfl | digit | rfl | digit
  · exact addressChar_of_mem_toDigits (by decide) (by decide) digit
  · exact .inr (.inl rfl)
  · exact addressChar_of_mem_toDigits (by decide) (by decide) digit
  · exact .inr (.inl rfl)
  · exact addressChar_of_mem_toDigits (by decide) (by decide) digit
  · exact .inr (.inl rfl)
  · exact addressChar_of_mem_toDigits (by decide) (by decide) digit

theorem addressChar_of_mem_grouped {first : Bool} (member : c ∈ grouped first segments) : AddressChar c := by
  induction segments generalizing first with
  | nil => cases member
  | cons segment segments ih =>
    rw [grouped, List.mem_append, List.mem_append] at member
    rcases member with separator | digit | later
    · cases first with
      | true => cases separator
      | false => exact .inr (.inr (List.mem_singleton.mp separator))
    · exact addressChar_of_mem_toDigits (by decide) (by decide) digit
    · exact ih later

theorem addressChar_of_mem_toText {ip : IpAddr} (member : c ∈ ip.toText) : AddressChar c := by
  unfold toText at member
  split at member
  · exact addressChar_of_mem_v4Text member
  · rcases List.mem_append.mp member with front | digits
    · have known : c = ':' ∨ c = 'f' ∨ c = ':' := by simpa using front
      rcases known with rfl | rfl | rfl
      · exact .inr (.inr rfl)
      · exact .inl rfl
      · exact .inr (.inr rfl)
    · exact addressChar_of_mem_v4Text digits
  · simp only [segmentsText_eq] at member
    split_ifs at member
    · rcases List.mem_append.mp member with front | back
      · rcases List.mem_append.mp front with head | both
        · exact addressChar_of_mem_grouped head
        · have known : c = ':' := by simpa using both
          exact .inr (.inr known)
      · exact addressChar_of_mem_grouped back
    · exact addressChar_of_mem_grouped member

end Praeco.Net.Display
