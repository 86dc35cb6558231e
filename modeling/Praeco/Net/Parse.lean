import Praeco.Net.Address
import Praeco.Strings.Fields
import Praeco.Strings.Percent

/-! The address parsers of the standard library. A reader takes what it recognises from the front of a text and leaves the
rest; a reader that fails has taken nothing. -/

namespace Praeco.Net.Parse
open Praeco.Strings Utf8 Percent Fields Praeco.Net.Address

abbrev Reader := StateT Text Option

def readGivenChar (target : Char) : Reader Unit
  | c :: rest => if c = target then some ((), rest) else none
  | [] => none

def isDigitIn (radix : Nat) (c : Char) : Bool := (digitValue c).any (· < radix)

def numberOf (radix : Nat) (digits : Text) : Nat :=
  digits.foldl (fun result c => radix * result + (digitValue c).getD 0) 0

/-- `read_number` for a type with values below `bound`: all leading digits are taken, and they are refused if there are
none or more than allowed, if they start with a zero that may not be there, or if the number does not fit. -/
def readNumber (radix : Nat) (maxDigits : Option Nat) (allowZeroPrefix : Bool) (bound : Nat) : Reader Nat := fun text =>
  let digits := text.takeWhile (isDigitIn radix)
  if digits = [] ∨ maxDigits.any (· < digits.length) then none
  else if allowZeroPrefix = false ∧ digits.head? = some '0' ∧ 1 < digits.length then none
  else if numberOf radix digits < bound then some (numberOf radix digits, text.dropWhile (isDigitIn radix))
  else none

def readOctet : Reader Nat := readNumber 10 (some 3) false 256

def readIpv4Addr : Reader UInt32 := do
  let one ← readOctet
  readGivenChar '.'
  let two ← readOctet
  readGivenChar '.'
  let three ← readOctet
  readGivenChar '.'
  let four ← readOctet
  pure (UInt32.ofNat (((one * 256 + two) * 256 + three) * 256 + four))

def readSeparated {α : Type} (first : Bool) (inner : Reader α) : Reader α :=
  if first then inner
  else do
    readGivenChar ':'
    inner

/-- The groups that can be read into the slots left, whether they end in an embedded IPv4 address, and the rest. Such an
address takes two slots. -/
def readGroups (first : Bool) : Nat → Text → List UInt16 × Bool × Text
  | 0, text => ([], false, text)
  | left + 1, text =>
    match if 0 < left then readSeparated first readIpv4Addr text else none with
    | some (addr, rest) => ([(addr >>> 16).toUInt16, addr.toUInt16], true, rest)
    | none =>
      match readSeparated first (readNumber 16 (some 4) true 65536) text with
      | some (group, rest) =>
        let (groups, ipv4, rest) := readGroups false left rest
        (UInt16.ofNat group :: groups, ipv4, rest)
      | none => ([], false, text)

/-- The eight groups of an address. Two colons stand for at least one group of zeros, and no IPv4 address may come
before them. -/
def readIpv6Addr : Reader (List UInt16) := fun text =>
  let (head, headIpv4, rest) := readGroups true 8 text
  if head.length = 8 then some (head, rest)
  else if headIpv4 then none
  else do
    let (_, rest) ← readGivenChar ':' rest
    let (_, rest) ← readGivenChar ':' rest
    let (tail, _, rest) := readGroups true (8 - (head.length + 1)) rest
    some (head ++ List.replicate (8 - head.length - tail.length) 0 ++ tail, rest)

def ipv6OfGroups (groups : List UInt16) : IpAddr :=
  .v6 (groups.getD 0 0) (groups.getD 1 0) (groups.getD 2 0) (groups.getD 3 0)
    (groups.getD 4 0) (groups.getD 5 0) (groups.getD 6 0) (groups.getD 7 0)

def readIpAddr : Reader IpAddr := fun text =>
  (readIpv4Addr text).map (fun (addr, rest) => (.v4 addr, rest)) <|>
    (readIpv6Addr text).map (fun (groups, rest) => (ipv6OfGroups groups, rest))

def readPort : Reader UInt16 := do
  readGivenChar ':'
  let port ← readNumber 10 none true 65536
  pure (UInt16.ofNat port)

def readScopeId : Reader UInt32 := do
  readGivenChar '%'
  let scopeId ← readNumber 10 none true (2 ^ 32)
  pure (UInt32.ofNat scopeId)

def readSocketAddrV4 : Reader SocketAddr := do
  let addr ← readIpv4Addr
  let port ← readPort
  pure (SocketAddr.plain (.v4 addr) port)

def readSocketAddrV6 : Reader SocketAddr := do
  readGivenChar '['
  let groups ← readIpv6Addr
  let scopeId ← fun text => some ((readScopeId text).getD (0, text))
  readGivenChar ']'
  let port ← readPort
  pure ⟨ipv6OfGroups groups, port, 0, scopeId, fun _ same => nomatch same⟩

def readSocketAddr : Reader SocketAddr := fun text => readSocketAddrV4 text <|> readSocketAddrV6 text

def parseWith {α : Type} (read : Reader α) (text : Text) : Option α :=
  match read text with
  | some (value, []) => some value
  | _ => none

def parseIpAddr : Text → Option IpAddr := parseWith readIpAddr

def parseSocketAddr : Text → Option SocketAddr := parseWith readSocketAddr

def ipSyntaxError : Text := "invalid IP address syntax".toList

example : parseIpAddr "::ffff:10.0.0.7".toList = some (.v6 0 0 0 0 0 0xffff 0x0a00 7) ∧
    parseIpAddr "1:2:3:4:5:6:7::".toList = some (.v6 1 2 3 4 5 6 7 0) ∧ parseIpAddr "01.2.3.4".toList = none := by
  decide +kernel

example : parseSocketAddr "[fe80::1%3]:80".toList = some ⟨.v6 0xfe80 0 0 0 0 0 0 1, 80, 0, 3, nofun⟩ ∧
    parseSocketAddr "::1:8080".toList = none := by
  decide +kernel

/-! Reading in front of a text that the reader cannot take anything from. -/

def Undisturbed {α : Type} (tail : Text) (read : Reader α) : Prop :=
  ∀ text, read (text ++ tail) = (read text).map fun result => (result.1, result.2 ++ tail)

variable {α β : Type} {first : Reader α} {next : α → Reader β} {text : Text}

theorem read_bind_none (failed : first text = none) : (first >>= next) text = none := by
  change (first text).bind (fun result => next result.1 result.2) = none
  rw [failed]
  rfl

theorem read_bind_some {rest : Text} {value : α} (read : first text = some (value, rest)) :
    (first >>= next) text = next value rest := by
  change (first text).bind (fun result => next result.1 result.2) = next value rest
  rw [read]
  rfl

theorem Undisturbed.pure (tail : Text) (value : α) : Undisturbed tail (Pure.pure value : Reader α) :=
  fun _ => rfl

theorem Undisturbed.bind {tail : Text} (front : Undisturbed tail first)
    (back : ∀ value, Undisturbed tail (next value)) : Undisturbed tail (first >>= next) := by
  intro text
  have read := front text
  cases known : first text with
  | none =>
    rw [known] at read
    rw [read_bind_none read, read_bind_none known]
    rfl
  | some result =>
    rw [known] at read
    rw [read_bind_some read, read_bind_some known]
    exact back result.1 result.2

theorem readGivenChar_undisturbed (target c : Char) (tail : Text) (other : c ≠ target) :
    Undisturbed (c :: tail) (readGivenChar target) := by
  intro text
  cases text with
  | nil => exact if_neg other
  | cons d text =>
    change (if d = target then _ else _) = Option.map _ (if d = target then _ else _)
    split_ifs <;> rfl

theorem readNumber_undisturbed (radix : Nat) (maxDigits : Option Nat) (allowZeroPrefix : Bool) (bound : Nat) (c : Char)
    (tail : Text) (other : isDigitIn radix c = false) :
    Undisturbed (c :: tail) (readNumber radix maxDigits allowZeroPrefix bound) := by
  intro text
  have taken : (text ++ c :: tail).takeWhile (isDigitIn radix) = text.takeWhile (isDigitIn radix) := by
    rw [List.takeWhile_append]
    split_ifs with all
    · rw [List.takeWhile_cons_of_neg (by simp [other]), List.append_nil]
      exact ((List.takeWhile_prefix _).eq_of_length all).symm
    · rfl
  have left : (text ++ c :: tail).dropWhile (isDigitIn radix) = text.dropWhile (isDigitIn radix) ++ c :: tail := by
    have joined : text.takeWhile (isDigitIn radix) ++ (text ++ c :: tail).dropWhile (isDigitIn radix) =
        text.takeWhile (isDigitIn radix) ++ (text.dropWhile (isDigitIn radix) ++ c :: tail) := by
      calc
        _ = (text ++ c :: tail).takeWhile (isDigitIn radix) ++ (text ++ c :: tail).dropWhile (isDigitIn radix) := by
          rw [taken]
        _ = text ++ c :: tail := List.takeWhile_append_dropWhile
        _ = _ := by rw [← List.append_assoc, List.takeWhile_append_dropWhile]
    exact List.append_cancel_left joined
  simp only [readNumber, taken, left]
  split_ifs <;> rfl

theorem readIpv4Addr_undisturbed (tail : Text) : Undisturbed (':' :: tail) readIpv4Addr := by
  have octet : Undisturbed (':' :: tail) readOctet := readNumber_undisturbed _ _ _ _ ':' tail (by decide)
  have dot : Undisturbed (':' :: tail) (readGivenChar '.') := readGivenChar_undisturbed '.' ':' tail (by decide)
  exact octet.bind fun _ => dot.bind fun _ => octet.bind fun _ => dot.bind fun _ => octet.bind fun _ =>
    dot.bind fun _ => octet.bind fun _ => .pure _ _

theorem digitValue_decimal (c : Char) (decimal : c.isDigit = true) : digitValue c = some (c.toNat - 48) := by
  have bounds : '0' ≤ c ∧ c ≤ '9' := by simpa [Char.isDigit, Char.le_def] using decimal
  rw [digitValue, if_pos bounds]

theorem numberOf_decimal (digits : Text) (decimal : ∀ c ∈ digits, c.isDigit = true) :
    numberOf 10 digits = Nat.ofDigitChars 10 digits 0 := by
  rw [numberOf, Nat.ofDigitChars_eq_foldl]
  apply List.foldl_ext
  intro result c member
  rw [digitValue_decimal c (decimal c member)]
  rfl

theorem readPort_repr (port : UInt16) : readPort (':' :: (Nat.repr port.toNat).toList) = some (port, []) := by
  have text : (Nat.repr port.toNat).toList = Nat.toDigits 10 port.toNat := by
    rw [Nat.repr_eq_ofList_toDigits, String.toList_ofList]
  have decimal : ∀ c ∈ Nat.toDigits 10 port.toNat, c.isDigit = true := fun c member =>
    Nat.isDigit_of_mem_toDigits (by decide) (by decide) member
  have digits : ∀ c ∈ Nat.toDigits 10 port.toNat, isDigitIn 10 c = true := by
    intro c member
    have bounds := decimal c member
    rw [isDigitIn, digitValue_decimal c bounds]
    simp only [Char.isDigit, Bool.and_eq_true, decide_eq_true_eq] at bounds
    have upper : c.toNat ≤ 57 := bounds.2
    simp only [Option.any_some, decide_eq_true_eq]
    omega
  have value : numberOf 10 (Nat.toDigits 10 port.toNat) = port.toNat := by
    rw [numberOf_decimal _ decimal, Nat.ofDigitChars_toDigits (by decide) (by decide)]
  have read : readNumber 10 none true 65536 (Nat.toDigits 10 port.toNat) = some (port.toNat, []) := by
    have fits : port.toNat < 65536 := port.toNat_lt
    simp only [readNumber, List.takeWhile_eq_self_iff.mpr digits, List.dropWhile_eq_nil_iff.mpr digits, value, fits,
      Nat.toDigits_ne_nil, Option.any_none, Bool.false_eq_true, or_self, if_false, if_true, false_and, reduceCtorEq]
  rw [text]
  calc
    readPort (':' :: Nat.toDigits 10 port.toNat) = some (UInt16.ofNat port.toNat, []) :=
      (read_bind_some rfl).trans (read_bind_some read)
    _ = some (port, []) := by rw [UInt16.ofNat_toNat]

theorem parseWith_some {read : Reader α} {value : α} (done : parseWith read text = some value) :
    read text = some (value, []) := by
  unfold parseWith at done
  split at done
  · rename_i found
    rw [found, Option.some.inj done]
  · cases done

theorem readIpv6Addr_bracket (text : Text) : readIpv6Addr ('[' :: text) = none := by
  have octet : readOctet ('[' :: text) = none := by
    simp [readOctet, readNumber, isDigitIn, digitValue]
  have number : readNumber 16 (some 4) true 65536 ('[' :: text) = none := by
    simp [readNumber, isDigitIn, digitValue]
  have addr : readIpv4Addr ('[' :: text) = none := read_bind_none octet
  have groups : readGroups true 8 ('[' :: text) = ([], false, '[' :: text) := by
    simp [readGroups, readSeparated, addr, number]
  simp [readIpv6Addr, groups, readGivenChar]

theorem parseSocketAddr_literal (text : Text) (ip : IpAddr) (port : UInt16) (literal : parseIpAddr text = some ip) :
    (∃ addr, parseSocketAddr (text ++ ':' :: (Nat.repr port.toNat).toList) = some addr) ↔ ∃ addr, ip = .v4 addr := by
  have whole := parseWith_some literal
  have front := readIpv4Addr_undisturbed (Nat.repr port.toNat).toList text
  cases known : readIpv4Addr text with
  | some result =>
    obtain ⟨addr, rest⟩ := result
    rw [readIpAddr, known] at whole
    obtain ⟨rfl, rfl⟩ : IpAddr.v4 addr = ip ∧ rest = [] := by simpa using whole
    rw [known] at front
    have socket : readSocketAddrV4 (text ++ ':' :: (Nat.repr port.toNat).toList) =
        some (SocketAddr.plain (.v4 addr) port, []) :=
      (read_bind_some front).trans (read_bind_some (readPort_repr port))
    refine iff_of_true ⟨SocketAddr.plain (.v4 addr) port, ?_⟩ ⟨addr, rfl⟩
    rw [parseSocketAddr, parseWith, readSocketAddr, socket]
    rfl
  | none =>
    rw [known] at front
    have groups : ∃ found, readIpv6Addr text = some (found, []) ∧ ipv6OfGroups found = ip := by
      rw [readIpAddr, known] at whole
      obtain ⟨⟨found, rest⟩, read, same⟩ := Option.map_eq_some_iff.mp whole
      obtain ⟨rfl, rfl⟩ : ipv6OfGroups found = ip ∧ rest = [] := by simpa using same
      exact ⟨found, read, rfl⟩
    obtain ⟨found, read, rfl⟩ := groups
    have open6 : readGivenChar '[' (text ++ ':' :: (Nat.repr port.toNat).toList) = none := by
      cases text with
      | nil => rfl
      | cons c text =>
        have other : c ≠ '[' := by
          rintro rfl
          rw [readIpv6Addr_bracket] at read
          cases read
        exact if_neg other
    have socket : readSocketAddr (text ++ ':' :: (Nat.repr port.toNat).toList) = none := by
      have v4 : readSocketAddrV4 (text ++ ':' :: (Nat.repr port.toNat).toList) = none := read_bind_none front
      have v6 : readSocketAddrV6 (text ++ ':' :: (Nat.repr port.toNat).toList) = none := read_bind_none open6
      rw [readSocketAddr, v4, v6]
      rfl
    apply iff_of_false
    · rw [parseSocketAddr, parseWith, socket]
      simp
    · rintro ⟨addr, same⟩
      cases same

end Praeco.Net.Parse
