import Praeco.Streams.Reading
import Praeco.Strings.Fields
import Praeco.Strings.Split

/-! The line with which a gateway asks the relay for a tunnel, and the checks the relay makes on it. -/

namespace Praeco.Tunnel.Register
open Praeco.Strings Utf8 Fields Praeco.Streams Reading

structure TunnelConfig where
  targetUrl : Text
  sniDomain : Text
  clientCertPath : Text
  clientKeyPath : Text
  caCertPath : Text
  maxYamuxStreams : Option Nat
  proxyProtocol : Bool
  deriving DecidableEq, Repr

def regCmd (tunnel : TunnelConfig) : Text :=
  if tunnel.proxyProtocol then "REGISTER ".toList ++ tunnel.sniDomain ++ " PROXY_V2\n".toList
  else "REGISTER ".toList ++ tunnel.sniDomain ++ "\n".toList

/-- The Unicode tables behind `char::is_alphanumeric`; no letter or digit is white space. -/
structure Alphanumerics where
  isAlphanumeric : Char → Bool
  visible : ∀ c, isAlphanumeric c = true → isWhitespace c = false

def asciiAlphanumerics : Alphanumerics where
  isAlphanumeric c := (48 ≤ c.toNat ∧ c.toNat ≤ 57) ∨ (65 ≤ c.toNat ∧ c.toNat ≤ 90) ∨ (97 ≤ c.toNat ∧ c.toNat ≤ 122)
  visible := by
    intro c letter
    rw [decide_eq_true_eq] at letter
    simp only [isWhitespace, Bool.or_eq_false_iff, decide_eq_false_iff_not]
    omega

def validLabel (unicode : Alphanumerics) (label : Text) : Bool :=
  !(label.isEmpty || 63 < (utf8 label).length) && label.all (fun c => unicode.isAlphanumeric c || c = '-') &&
    !(label.head? = some '-' || label.getLast? = some '-')

def isValidSni (unicode : Alphanumerics) (sni : Text) : Bool :=
  !(sni.isEmpty || 253 < (utf8 sni).length) && (sni.splitOn '.').all (validLabel unicode)

def readLine : Nat → Source UInt8 → Option (Bytes × Source UInt8)
  | 0, _ => none
  | room + 1, stream =>
    match readExact 1 stream with
    | .ok (byte, stream) =>
      if byte = [10] then some ([], stream)
      else (readLine room stream).map fun (line, stream) => (byte ++ line, stream)
    | .error _ => none

structure Registration where
  sni : Text
  supportsProxyV2 : Bool
  deriving DecidableEq, Repr

def parseRegister (enableProxyProtocol : Bool) (line : Text) : Option Registration :=
  match splitWhitespace (trim line) with
  | word :: name :: capabilities =>
    if word = "REGISTER".toList then
      some ⟨toAsciiLowercase name, "PROXY_V2".toList ∈ capabilities ∧ enableProxyProtocol = true⟩
    else none
  | _ => none

/-- A control connection up to the overwrite protection: the names of the client certificate, the command and
the checks on the name it asks for. -/
def acceptRegistration (unicode : Alphanumerics) (allowedSnis : List Text) (enableProxyProtocol : Bool)
    (stream : Source UInt8) : Option (Registration × Source UInt8) := do
  guard (allowedSnis ≠ [])
  let (lineBytes, stream) ← readLine 1024 stream
  let line ← fromUtf8 lineBytes
  let registration ← parseRegister enableProxyProtocol line
  guard (isValidSni unicode registration.sni)
  guard (allowedSnis.any fun allowed => eqIgnoreAsciiCase allowed registration.sni)
  return (registration, stream)

structure Admissible (unicode : Alphanumerics) (allowedSnis : List Text) (sni : Text) : Prop where
  lower : toAsciiLowercase sni = sni
  valid : isValidSni unicode sni = true
  authorized : ∃ allowed ∈ allowedSnis, eqIgnoreAsciiCase allowed sni = true

theorem parseRegister_lower (enableProxyProtocol : Bool) (line : Text) (registration : Registration)
    (parsed : parseRegister enableProxyProtocol line = some registration) :
    toAsciiLowercase registration.sni = registration.sni := by
  unfold parseRegister at parsed
  split at parsed
  · split_ifs at parsed
    cases parsed
    exact toAsciiLowercase_idem _
  · cases parsed

theorem acceptRegistration_admissible (unicode : Alphanumerics) (allowedSnis : List Text)
    (enableProxyProtocol : Bool) (stream : Source UInt8) (result : Registration × Source UInt8)
    (accepted : acceptRegistration unicode allowedSnis enableProxyProtocol stream = some result) :
    Admissible unicode allowedSnis result.1.sni := by
  simp only [acceptRegistration, Option.bind_eq_bind, Option.bind_eq_some_iff, Option.guard_eq_some'] at accepted
  obtain ⟨_, _, _, _, line, _, registration, parsed, _, valid, _, authorized, done⟩ := accepted
  cases done
  exact ⟨parseRegister_lower enableProxyProtocol line registration parsed, valid, List.any_eq_true.mp authorized⟩

theorem readLine_ok (line rest : Bytes) (room : Nat) (fits : line.length < room) (clean : 10 ∉ line)
    (stream : Source UInt8) (same : content stream = line ++ 10 :: rest) :
    ∃ left, readLine room stream = some (line, left) ∧ content left = rest := by
  induction line generalizing room stream with
  | nil =>
    cases room with
    | zero => omega
    | succ room =>
      obtain ⟨left, done, remaining⟩ := readExact_ok stream [10] rest same
      refine ⟨left, ?_, remaining⟩
      rw [List.length_singleton] at done
      rw [readLine, done]
      rfl
  | cons b line ih =>
    cases room with
    | zero => omega
    | succ room =>
      obtain ⟨middle, done, after⟩ := readExact_ok stream [b] (line ++ 10 :: rest) same
      obtain ⟨left, later, remaining⟩ := ih room (Nat.lt_of_succ_lt_succ fits)
        (fun member => clean (List.mem_cons_of_mem b member)) middle after
      refine ⟨left, ?_, remaining⟩
      have other : [b] ≠ [10] := by
        intro same
        exact clean (List.mem_cons.mpr (Or.inl (List.singleton_inj.mp same).symm))
      rw [List.length_singleton] at done
      rw [readLine, done]
      simp only [other, if_false, later]
      rfl

theorem isValidSni_visible (unicode : Alphanumerics) (sni : Text) (valid : isValidSni unicode sni = true) :
    sni ≠ [] ∧ (utf8 sni).length ≤ 253 ∧ ∀ c ∈ sni, isWhitespace c = false := by
  simp only [isValidSni, Bool.and_eq_true, Bool.not_eq_true', Bool.or_eq_false_iff, decide_eq_false_iff_not,
    List.isEmpty_eq_false_iff, List.all_eq_true, not_lt] at valid
  obtain ⟨⟨nonempty, short⟩, labels⟩ := valid
  refine ⟨nonempty, short, ?_⟩
  intro c member
  rcases Split.mem_part '.' sni c member with rfl | ⟨label, listed, inside⟩
  · rfl
  · have good := labels label listed
    simp only [validLabel, Bool.and_eq_true, List.all_eq_true, Bool.or_eq_true, decide_eq_true_eq] at good
    rcases good.1.2 c inside with letter | rfl
    · exact unicode.visible c letter
    · rfl

def regLine (tunnel : TunnelConfig) : Text :=
  "REGISTER ".toList ++ tunnel.sniDomain ++ if tunnel.proxyProtocol then " PROXY_V2".toList else []

theorem regCmd_eq (tunnel : TunnelConfig) : regCmd tunnel = regLine tunnel ++ ['\n'] := by
  unfold regCmd regLine
  cases tunnel.proxyProtocol with
  | false => simp
  | true => simp

theorem parseRegister_regLine (tunnel : TunnelConfig) (enableProxyProtocol : Bool) (nonempty : tunnel.sniDomain ≠ [])
    (visible : ∀ c ∈ tunnel.sniDomain, isWhitespace c = false) :
    parseRegister enableProxyProtocol (regLine tunnel) =
      some ⟨toAsciiLowercase tunnel.sniDomain, tunnel.proxyProtocol && enableProxyProtocol⟩ := by
  have name := splitWhitespace_word tunnel.sniDomain visible nonempty
  have words : splitWhitespace (regLine tunnel) = "REGISTER".toList :: tunnel.sniDomain ::
      if tunnel.proxyProtocol then ["PROXY_V2".toList] else [] := by
    have first (rest : Text) :
        splitWhitespace ("REGISTER ".toList ++ rest) = "REGISTER".toList :: splitWhitespace rest :=
      splitWhitespace_append "REGISTER".toList rest ' ' rfl
    unfold regLine
    cases tunnel.proxyProtocol with
    | false => rw [if_neg (by decide), List.append_nil, first, name, if_neg (by decide)]
    | true =>
      have last : splitWhitespace (tunnel.sniDomain ++ " PROXY_V2".toList) =
          splitWhitespace tunnel.sniDomain ++ ["PROXY_V2".toList] :=
        splitWhitespace_append tunnel.sniDomain "PROXY_V2".toList ' ' rfl
      rw [if_pos rfl, List.append_assoc, first, last, name, if_pos rfl]
      rfl
  rw [parseRegister, splitWhitespace_trim, words]
  cases tunnel.proxyProtocol with
  | false => simp
  | true => simp

theorem regLine_fits (tunnel : TunnelConfig) (short : (utf8 tunnel.sniDomain).length ≤ 253) :
    (utf8 (regLine tunnel)).length < 1024 := by
  have first : (utf8 "REGISTER ".toList).length = 9 := by decide
  have last : (utf8 (if tunnel.proxyProtocol then " PROXY_V2".toList else [])).length ≤ 9 := by
    cases tunnel.proxyProtocol <;> decide
  unfold regLine
  rw [utf8_append, utf8_append, List.length_append, List.length_append, first]
  exact Nat.lt_of_le_of_lt (Nat.add_le_add (Nat.add_le_add_left short 9) last) (by decide)

theorem regLine_clean (tunnel : TunnelConfig) (visible : ∀ c ∈ tunnel.sniDomain, isWhitespace c = false) :
    10 ∉ utf8 (regLine tunnel) := by
  have code : byteChar 10 = '\n' := by decide
  have first : '\n' ∉ "REGISTER ".toList := by decide
  have last : '\n' ∉ (if tunnel.proxyProtocol then " PROXY_V2".toList else []) := by
    cases tunnel.proxyProtocol <;> decide
  intro member
  have feed := mem_of_low_mem _ 10 (by decide) member
  unfold regLine at feed
  rw [code, List.mem_append, List.mem_append] at feed
  rcases feed with (inside | inside) | inside
  · exact first inside
  · exact absurd (visible '\n' inside) (by decide)
  · exact last inside

theorem acceptRegistration_regCmd (unicode : Alphanumerics) (allowedSnis : List Text) (tunnel : TunnelConfig)
    (enableProxyProtocol : Bool) (stream : Source UInt8) (frames : Bytes)
    (valid : isValidSni unicode (toAsciiLowercase tunnel.sniDomain) = true)
    (authorized : ∃ allowed ∈ allowedSnis, eqIgnoreAsciiCase allowed (toAsciiLowercase tunnel.sniDomain) = true)
    (sent : content stream = utf8 (regCmd tunnel) ++ frames) :
    ∃ left, acceptRegistration unicode allowedSnis enableProxyProtocol stream =
        some (⟨toAsciiLowercase tunnel.sniDomain, tunnel.proxyProtocol && enableProxyProtocol⟩, left) ∧
      content left = frames := by
  obtain ⟨nonempty, short, lowerVisible⟩ := isValidSni_visible unicode _ valid
  have visible : ∀ c ∈ tunnel.sniDomain, isWhitespace c = false := by
    intro c member
    rw [← isWhitespace_toLower]
    exact lowerVisible c.toLower (List.mem_map_of_mem member)
  have named : tunnel.sniDomain ≠ [] := by
    intro empty
    rw [empty] at nonempty
    exact nonempty rfl
  rw [utf8_toAsciiLowercase_length] at short
  have fits := regLine_fits tunnel short
  have clean := regLine_clean tunnel visible
  have whole : content stream = utf8 (regLine tunnel) ++ 10 :: frames := by
    rw [sent, regCmd_eq, utf8_append, List.append_assoc]
    rfl
  obtain ⟨left, read, remaining⟩ := readLine_ok _ frames 1024 fits clean stream whole
  refine ⟨left, ?_, remaining⟩
  have listed : allowedSnis ≠ [] := by
    obtain ⟨allowed, member, _⟩ := authorized
    exact List.ne_nil_of_mem member
  simp [acceptRegistration, listed, read, fromUtf8_utf8, parseRegister_regLine tunnel enableProxyProtocol named visible,
    valid, guard, authorized]

end Praeco.Tunnel.Register
