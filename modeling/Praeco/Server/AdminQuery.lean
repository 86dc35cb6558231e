import Praeco.Breaker.Node
import Praeco.Limits.CidrRules
import Praeco.Strings.Lossy
import Praeco.Strings.Split

/-! The control actions of the admin interface, and how it decodes the upstream that a query names. The decoder takes two
bytes behind every percent sign before it knows whether they are digits, and does not give them back. -/

namespace Praeco.Server.AdminQuery
open Praeco.Strings Utf8 Percent Fields Split Lossy Praeco.Net.Parse Praeco.Breaker.Node Praeco.Limits.IpFilter
  Praeco.Limits.CidrRules

/-- `u8::from_str_radix`: digits, after one plus sign at most, of a number below 256. -/
def fromStrRadix (radix : Nat) (text : Text) : Option UInt8 :=
  let digits := (stripPrefix ['+'] text).getD text
  if digits ≠ [] ∧ digits.all (isDigitIn radix) ∧ numberOf radix digits < 256 then
    some (UInt8.ofNat (numberOf radix digits))
  else none

def decodeBytes : Bytes → Bytes
  | [] => []
  | b :: rest =>
    if b = 0x25 then
      match rest with
      | high :: low :: rest =>
        match (fromUtf8 [high, low]).bind (fromStrRadix 16) with
        | some value => value :: decodeBytes rest
        | none => b :: decodeBytes rest
      | _ => [b]
    else if b = 0x2B then 0x20 :: decodeBytes rest
    else b :: decodeBytes rest

def urlencodingDecode (input : Text) : Text := lossy (decodeBytes (utf8 input))

structure ConfiguredNode where
  uri : Text
  node : UpstreamNode
  deriving DecidableEq, Repr

/-- The last `action` and the last `upstream` of a query. -/
def controlParameters (query : Text) : Option Text × Option Text :=
  (query.splitOn '&').foldl (fun (action, upstream) pair =>
    match splitOnce '=' pair with
    | some (key, value) =>
      if key = "action".toList then (some value, upstream)
      else if key = "upstream".toList then (action, some (urlencodingDecode value))
      else (action, upstream)
    | none => (action, upstream)) (none, none)

def trimEndSlashes (text : Text) : Text := text.rdropWhile (· = '/')

def perform (action : Text) (now : Nat) (node : UpstreamNode) : UpstreamNode :=
  if action = "mark_dead".toList ∨ action = "open".toList then node.markDead now
  else if action = "mark_alive".toList ∨ action = "close".toList ∨ action = "reset".toList then node.markAlive
  else node

def applyOptionalControlAction (query : Text) (now : Nat) (nodes : List ConfiguredNode) : List ConfiguredNode :=
  match controlParameters query with
  | (some action, some upstream) =>
    nodes.map fun entry =>
      if entry.uri = upstream ∨ trimEndSlashes entry.uri = trimEndSlashes upstream then
        { entry with node := perform action now entry.node }
      else entry
  | _ => nodes

inductive Escapes : Bytes → Text → Prop where
  | nil : Escapes [] []
  | cons {b : UInt8} {bytes : Bytes} {high low : Char} {text : Text} (hi : digitValue high = some (b.toNat / 16))
      (lo : digitValue low = some (b.toNat % 16)) (rest : Escapes bytes text) :
      Escapes (b :: bytes) ('%' :: high :: low :: text)

/-- A percent-encoding of a text: percent and plus signs are escaped, any other character may be. -/
inductive Encodes : Text → Text → Prop where
  | nil : Encodes [] []
  | literal {c : Char} {text encoded : Text} (percent : c ≠ '%') (plus : c ≠ '+') (rest : Encodes text encoded) :
      Encodes (c :: text) (c :: encoded)
  | escaped {c : Char} {text written encoded : Text} (escapes : Escapes (String.utf8EncodeChar c) written)
      (rest : Encodes text encoded) : Encodes (c :: text) (written ++ encoded)

def turn : Bytes → Option (UInt8 × Bytes)
  | [] => none
  | b :: rest =>
    if b = 0x25 then
      match rest with
      | high :: low :: rest => some (((fromUtf8 [high, low]).bind (fromStrRadix 16)).getD b, rest)
      | _ => some (b, [])
    else some (if b = 0x2B then 0x20 else b, rest)

inductive Reaches : Bytes → Bytes → Bytes → Prop where
  | start (bytes : Bytes) : Reaches bytes [] bytes
  | turn {bytes left pushed rest : Bytes} {b : UInt8} (taken : turn bytes = some (b, left))
      (later : Reaches left pushed rest) : Reaches bytes (b :: pushed) rest

def startsEscape : Text → Bool
  | '%' :: high :: low :: _ => isDigitIn 16 high && isDigitIn 16 low
  | _ => false

/-- The character behind this part of the input is neither a plus sign nor part of a percent sign with two hex digits. -/
inductive Ordinary : Text → Text → Char → Prop where
  | here {c : Char} {rest : Text} (plus : c ≠ '+') (single : startsEscape (c :: rest) = false) :
      Ordinary (c :: rest) [] c
  | behind {c d : Char} {rest front : Text} (single : startsEscape (c :: rest) = false)
      (later : Ordinary rest front d) : Ordinary (c :: rest) (c :: front) d
  | escape {high low d : Char} {rest front : Text} (hi : isDigitIn 16 high = true) (lo : isDigitIn 16 low = true)
      (later : Ordinary rest front d) : Ordinary ('%' :: high :: low :: rest) ('%' :: high :: low :: front) d

/-- The loop comes to the character behind this part of the input and pushes its bytes there, so that it stands in the
result between what was pushed before and what comes later. -/
def Copied (input front : Text) (c : Char) : Prop :=
  ∃ back pushed rest, input = front ++ c :: back ∧ Reaches (utf8 input) pushed (utf8 (c :: back)) ∧
    decodeBytes (utf8 (c :: back)) = String.utf8EncodeChar c ++ rest ∧
    urlencodingDecode input = lossy pushed ++ c :: lossy rest

def Kept (input : Text) : Prop := ∀ front c, Ordinary input front c → Copied input front c

/-- A percent sign without two hex digits stands at the end, before one plus sign at most, or before two plus signs, an
escape, or a plus sign and an escape. -/
inductive Regular : Text → Prop where
  | nil : Regular []
  | plain {c : Char} {rest : Text} (literal : c ≠ '%') (after : Regular rest) : Regular (c :: rest)
  | escape {high low : Char} {rest : Text} (hi : isDigitIn 16 high = true) (lo : isDigitIn 16 low = true)
      (after : Regular rest) : Regular ('%' :: high :: low :: rest)
  | last : Regular ['%']
  | lastPlus : Regular ['%', '+']
  | pluses {rest : Text} (after : Regular rest) : Regular ('%' :: '+' :: '+' :: rest)
  | beforeEscape {high low : Char} {rest : Text} (hi : isDigitIn 16 high = true) (lo : isDigitIn 16 low = true)
      (after : Regular rest) : Regular ('%' :: '%' :: high :: low :: rest)
  | plusEscape {high low : Char} {rest : Text} (hi : isDigitIn 16 high = true) (lo : isDigitIn 16 low = true)
      (after : Regular rest) : Regular ('%' :: '+' :: '%' :: high :: low :: rest)

theorem isDigitIn_iff {c : Char} : isDigitIn 16 c = true ↔ ∃ n, digitValue c = some n := by
  unfold isDigitIn
  cases value : digitValue c with
  | none => simp
  | some n => simp [digit_lt c n value]

theorem fromStrRadix_pair {high low : Char} {hi lo : Nat} (highValue : digitValue high = some hi)
    (lowValue : digitValue low = some lo) : fromStrRadix 16 [high, low] = some (UInt8.ofNat (16 * hi + lo)) := by
  have unsigned : high ≠ '+' := by
    rintro rfl
    cases highValue
  have digits : (stripPrefix ['+'] [high, low]).getD [high, low] = [high, low] := by
    rw [stripPrefix, if_neg (by rw [List.cons_prefix_cons]; exact fun same => unsigned same.1.symm)]
    rfl
  have value : numberOf 16 [high, low] = 16 * hi + lo := by
    simp [numberOf, highValue, lowValue]
  have all : [high, low].all (isDigitIn 16) = true := by
    simp [isDigitIn_iff.mpr ⟨hi, highValue⟩, isDigitIn_iff.mpr ⟨lo, lowValue⟩]
  have small := digit_lt high hi highValue
  have smaller := digit_lt low lo lowValue
  rw [fromStrRadix, digits, value, if_pos ⟨List.cons_ne_nil _ _, all, by omega⟩]

variable {bytes : Bytes} {b : UInt8}

theorem decodeBytes_turn {left : Bytes} (taken : turn bytes = some (b, left)) :
    decodeBytes bytes = b :: decodeBytes left := by
  unfold turn at taken
  split at taken
  · cases taken
  · next first rest =>
    rw [decodeBytes.eq_def]
    dsimp only
    split_ifs at taken ⊢ with percent plus
    · split at taken
      · next high low rest =>
        cases taken
        cases (fromUtf8 [high, low]).bind (fromStrRadix 16) with
        | none => rfl
        | some value => rfl
      · cases taken
        rfl
    · cases taken
      rfl
    · cases taken
      rfl

theorem turn_percent (bytes : Bytes) : ∃ b, turn (0x25 :: bytes) = some (b, bytes.drop 2) := by
  rcases bytes with _ | ⟨high, _ | ⟨low, rest⟩⟩
  · exact ⟨_, rfl⟩
  · exact ⟨_, rfl⟩
  · exact ⟨_, rfl⟩

theorem turn_other (percent : b ≠ 0x25) (rest : Bytes) :
    turn (b :: rest) = some (if b = 0x2B then 0x20 else b, rest) := if_neg percent

theorem turn_shorter {left : Bytes} (taken : turn bytes = some (b, left)) : left.length < bytes.length := by
  cases bytes with
  | nil => cases taken
  | cons first rest =>
    by_cases percent : first = 0x25
    · subst percent
      obtain ⟨pushed, same⟩ := turn_percent rest
      cases taken.symm.trans same
      rw [List.length_drop, List.length_cons]
      omega
    · cases taken.symm.trans (turn_other percent rest)
      exact Nat.lt_succ_self _

namespace Reaches

variable {bytes pushed rest : Bytes}

theorem decode (reaches : Reaches bytes pushed rest) : decodeBytes bytes = pushed ++ decodeBytes rest := by
  induction reaches with
  | start => rfl
  | turn taken _ ih => rw [decodeBytes_turn taken, ih, List.cons_append]

theorem trans {middle later : Bytes} (first : Reaches bytes pushed middle) (second : Reaches middle later rest) :
    Reaches bytes (pushed ++ later) rest := by
  induction first with
  | start => exact second
  | turn taken _ ih => exact .turn taken (ih second)

theorem length_le (reaches : Reaches bytes pushed rest) : rest.length ≤ bytes.length := by
  induction reaches with
  | start => exact le_rfl
  | turn taken _ ih => exact ih.trans (turn_shorter taken).le

theorem through {middle longer : Bytes} (first : Reaches bytes pushed middle) (whole : Reaches bytes longer rest)
    (short : rest.length ≤ middle.length) : ∃ later, Reaches middle later rest ∧ longer = pushed ++ later := by
  induction first generalizing longer with
  | start => exact ⟨longer, whole, rfl⟩
  | turn taken reaches ih =>
    cases whole with
    | start =>
      have shorter := turn_shorter taken
      have within := reaches.length_le
      omega
    | turn same whole =>
      cases taken.symm.trans same
      obtain ⟨later, onwards, rfl⟩ := ih whole short
      exact ⟨later, onwards, rfl⟩

theorem behind_percent (reaches : Reaches (0x25 :: bytes) pushed rest) :
    rest = 0x25 :: bytes ∨ rest.length ≤ bytes.length - 2 := by
  cases reaches with
  | start => exact .inl rfl
  | turn taken later =>
    obtain ⟨b, same⟩ := turn_percent bytes
    cases taken.symm.trans same
    refine .inr (later.length_le.trans ?_)
    rw [List.length_drop]

end Reaches

theorem utf8_percent (rest : Text) : utf8 ('%' :: rest) = 0x25 :: utf8 rest := by
  rw [utf8_cons, encode_ascii '%' (by decide)]
  rfl

theorem utf8_plus (rest : Text) : utf8 ('+' :: rest) = 0x2B :: utf8 rest := by
  rw [utf8_cons, encode_ascii '+' (by decide)]
  rfl

theorem reaches_char (c : Char) (percent : c ≠ '%') (plus : c ≠ '+') (rest : Bytes) :
    Reaches (String.utf8EncodeChar c ++ rest) (String.utf8EncodeChar c) rest := by
  have absent (b : UInt8) (low : b.toNat < 128) (other : byteChar b ≠ c) : b ∉ String.utf8EncodeChar c := by
    intro member
    have inside : b ∈ utf8 [c] := by rwa [utf8_cons, utf8_nil, List.append_nil]
    exact other (List.mem_singleton.mp (mem_of_low_mem [c] b low inside))
  have noPercent := absent 0x25 (by decide) (fun same => percent (same.symm.trans (by decide)))
  have noPlus := absent 0x2B (by decide) (fun same => plus (same.symm.trans (by decide)))
  generalize String.utf8EncodeChar c = bytes at noPercent noPlus
  induction bytes with
  | nil => exact .start rest
  | cons b bytes ih =>
    rw [List.mem_cons, not_or] at noPercent noPlus
    have taken := turn_other (Ne.symm noPercent.1) (bytes ++ rest)
    rw [if_neg (Ne.symm noPlus.1)] at taken
    exact .turn taken (ih noPercent.2 noPlus.2)

theorem reaches_plus (rest : Text) : Reaches (utf8 ('+' :: rest)) [0x20] (utf8 rest) := by
  rw [utf8_plus]
  exact .turn (turn_other (by decide) _) (.start _)

theorem turn_pair (high low : Char) (highLow : high.toNat < 128) (lowLow : low.toNat < 128) (rest : Text) :
    turn (utf8 ('%' :: high :: low :: rest)) = some ((fromStrRadix 16 [high, low]).getD 0x25, utf8 rest) := by
  have read : fromUtf8 [UInt8.ofNat high.toNat, UInt8.ofNat low.toNat] = some [high, low] := by
    have whole := fromUtf8_utf8 [high, low]
    rwa [utf8_cons, utf8_cons, encode_ascii high highLow, encode_ascii low lowLow] at whole
  rw [utf8_percent, utf8_cons, utf8_cons, encode_ascii high highLow, encode_ascii low lowLow]
  change turn (0x25 :: UInt8.ofNat high.toNat :: UInt8.ofNat low.toNat :: utf8 rest) = _
  rw [turn, if_pos rfl, read, Option.bind_some]

theorem reaches_escape {high low : Char} {hi lo : Nat} (highValue : digitValue high = some hi)
    (lowValue : digitValue low = some lo) (rest : Text) :
    Reaches (utf8 ('%' :: high :: low :: rest)) [UInt8.ofNat (16 * hi + lo)] (utf8 rest) := by
  have taken := turn_pair high low (digit_ascii high hi highValue) (digit_ascii low lo lowValue) rest
  rw [fromStrRadix_pair highValue lowValue] at taken
  exact .turn taken (.start _)

theorem decodeBytes_escapes {written : Text} (escapes : Escapes bytes written) (rest : Text) :
    decodeBytes (utf8 (written ++ rest)) = bytes ++ decodeBytes (utf8 rest) := by
  induction escapes with
  | nil => rfl
  | @cons b bytes high low text hi lo _ ih =>
    rw [List.cons_append, List.cons_append, List.cons_append, (reaches_escape hi lo _).decode, ih, Nat.div_add_mod,
      UInt8.ofNat_toNat]
    rfl

theorem decodeBytes_encodes {text encoded : Text} (encodes : Encodes text encoded) :
    decodeBytes (utf8 encoded) = utf8 text := by
  induction encodes with
  | nil => rfl
  | literal percent plus _ ih => rw [utf8_cons, (reaches_char _ percent plus _).decode, ih, utf8_cons]
  | escaped escapes _ ih => rw [decodeBytes_escapes escapes, ih, utf8_cons]

theorem urlencodingDecode_encodes {text encoded : Text} (encodes : Encodes text encoded) :
    urlencodingDecode encoded = text := by
  rw [urlencodingDecode, decodeBytes_encodes encodes, lossy_utf8]

/-! Which characters are kept. -/

section

variable {front rest : Text} {c : Char}

variable {pushed : Bytes} {high low : Char}

theorem Copied.intro (front : Text) {back : Text} {later : Bytes}
    (reaches : Reaches (utf8 (front ++ c :: back)) pushed (utf8 (c :: back)))
    (pushes : decodeBytes (utf8 (c :: back)) = String.utf8EncodeChar c ++ later) :
    Copied (front ++ c :: back) front c := by
  refine ⟨back, pushed, later, rfl, reaches, pushes, ?_⟩
  rw [urlencodingDecode, reaches.decode, pushes, lossy_char]

theorem copied_append (part : Text) (reaches : Reaches (utf8 (part ++ rest)) pushed (utf8 rest)) :
    Copied (part ++ rest) (part ++ front) c ↔ Copied rest front c := by
  constructor
  · rintro ⟨back, longer, later, split, whole, pushes, -⟩
    rw [List.append_assoc, List.append_cancel_left_eq] at split
    subst split
    have short : (utf8 (c :: back)).length ≤ (utf8 (front ++ c :: back)).length := by
      rw [utf8_append, List.length_append]
      omega
    obtain ⟨onwards, reached, -⟩ := reaches.through whole short
    exact .intro front reached pushes
  · rintro ⟨back, longer, later, rfl, whole, pushes, -⟩
    have joined := reaches.trans whole
    rw [← List.append_assoc] at joined ⊢
    exact .intro (part ++ front) joined pushes

theorem startsEscape_other (percent : c ≠ '%') (rest : Text) : startsEscape (c :: rest) = false := by
  unfold startsEscape
  split
  · next same => exact absurd (List.cons.inj same).1 percent
  · rfl

theorem startsEscape_iff : startsEscape (c :: rest) = true ↔
    ∃ high low after, c = '%' ∧ rest = high :: low :: after ∧ isDigitIn 16 high = true ∧ isDigitIn 16 low = true := by
  constructor
  · intro starts
    unfold startsEscape at starts
    split at starts
    · next high low after same =>
      cases same
      exact ⟨high, low, after, rfl, rfl, (Bool.and_eq_true _ _ ▸ starts).1, (Bool.and_eq_true _ _ ▸ starts).2⟩
    · cases starts
  · rintro ⟨high, low, after, rfl, rfl, hi, lo⟩
    rw [startsEscape, hi, lo]
    rfl

def Hidden (part rest : Text) : Prop :=
  ∀ front c, Ordinary (part ++ rest) front c ↔ ∃ behind, front = part ++ behind ∧ Ordinary rest behind c

theorem hidden_nil (rest : Text) : Hidden [] rest := by
  intro front c
  exact ⟨fun ordinary => ⟨front, rfl, ordinary⟩, fun ⟨_, same, ordinary⟩ => same ▸ ordinary⟩

theorem hidden_plus {part : Text} (hidden : Hidden part rest) : Hidden ('+' :: part) rest := by
  intro front d
  constructor
  · intro ordinary
    cases ordinary with
    | here plus single => exact absurd rfl plus
    | behind single later =>
      obtain ⟨behind, rfl, ordinary⟩ := (hidden _ _).mp later
      exact ⟨behind, rfl, ordinary⟩
  · rintro ⟨behind, rfl, ordinary⟩
    exact .behind (startsEscape_other (by decide) _) ((hidden _ _).mpr ⟨behind, rfl, ordinary⟩)

theorem hidden_escape (hi : isDigitIn 16 high = true) (lo : isDigitIn 16 low = true) (rest : Text) :
    Hidden ['%', high, low] rest := by
  intro front d
  have escapes : startsEscape ('%' :: high :: low :: rest) = true := by rw [startsEscape, hi, lo]; rfl
  constructor
  · intro ordinary
    cases ordinary with
    | here plus single => exact absurd (escapes.symm.trans single) (by decide)
    | behind single later => exact absurd (escapes.symm.trans single) (by decide)
    | escape hi lo later => exact ⟨_, rfl, later⟩
  · rintro ⟨behind, rfl, ordinary⟩
    exact .escape hi lo ordinary

theorem kept_hidden (part : Text) (hidden : Hidden part rest)
    (reaches : Reaches (utf8 (part ++ rest)) pushed (utf8 rest)) : Kept (part ++ rest) ↔ Kept rest := by
  constructor
  · intro kept front c ordinary
    exact (copied_append part reaches).mp (kept _ c ((hidden _ c).mpr ⟨front, rfl, ordinary⟩))
  · intro kept front c ordinary
    obtain ⟨behind, rfl, later⟩ := (hidden front c).mp ordinary
    exact (copied_append part reaches).mpr (kept behind c later)

theorem ordinary_lead {d : Char} (single : startsEscape (c :: rest) = false) (ordinary : Ordinary (c :: rest) front d) :
    front = [] ∧ d = c ∨ ∃ behind, front = c :: behind ∧ Ordinary rest behind d := by
  cases ordinary with
  | here _ _ => exact .inl ⟨rfl, rfl⟩
  | behind _ later => exact .inr ⟨_, rfl, later⟩
  | escape hi lo later =>
    rw [startsEscape, hi, lo] at single
    cases single

theorem kept_lead (part : Text) (hidden : Hidden part rest) (plus : c ≠ '+')
    (single : startsEscape (c :: (part ++ rest)) = false)
    (reaches : Reaches (utf8 (c :: (part ++ rest))) (String.utf8EncodeChar c ++ pushed) (utf8 rest)) :
    Kept (c :: (part ++ rest)) ↔ Kept rest := by
  constructor
  · intro kept front d ordinary
    exact (copied_append (c :: part) reaches).mp
      (kept _ d (.behind single ((hidden _ d).mpr ⟨front, rfl, ordinary⟩)))
  · intro kept front d ordinary
    rcases ordinary_lead single ordinary with ⟨rfl, rfl⟩ | ⟨behind, rfl, later⟩
    · have pushes := reaches.decode
      rw [List.append_assoc] at pushes
      exact Copied.intro [] (.start _) pushes
    · obtain ⟨behind, rfl, inside⟩ := (hidden _ d).mp later
      exact (copied_append (c :: part) reaches).mpr (kept behind d inside)

theorem kept_plain (percent : c ≠ '%') (rest : Text) : Kept (c :: rest) ↔ Kept rest := by
  by_cases plus : c = '+'
  · subst plus
    exact kept_hidden ['+'] (hidden_plus (hidden_nil rest)) (reaches_plus rest)
  · have reaches := reaches_char c percent plus (utf8 rest)
    rw [← utf8_cons, ← List.append_nil (String.utf8EncodeChar c)] at reaches
    exact kept_lead [] (hidden_nil rest) plus (startsEscape_other percent rest) reaches

theorem kept_escape (hi : isDigitIn 16 high = true) (lo : isDigitIn 16 low = true) (rest : Text) :
    Kept ('%' :: high :: low :: rest) ↔ Kept rest := by
  obtain ⟨n, highValue⟩ := isDigitIn_iff.mp hi
  obtain ⟨m, lowValue⟩ := isDigitIn_iff.mp lo
  exact kept_hidden ['%', high, low] (hidden_escape hi lo rest) (reaches_escape highValue lowValue rest)

theorem reaches_stray (first second : Char) (firstLow : first.toNat < 128) (secondLow : second.toNat < 128)
    (refused : fromStrRadix 16 [first, second] = none) (rest : Text) :
    Reaches (utf8 ('%' :: first :: second :: rest)) [0x25] (utf8 rest) := by
  have taken := turn_pair first second firstLow secondLow rest
  rw [refused] at taken
  exact .turn taken (.start _)

theorem kept_pluses (rest : Text) : Kept ('%' :: '+' :: '+' :: rest) ↔ Kept rest :=
  kept_lead ['+', '+'] (hidden_plus (hidden_plus (hidden_nil rest))) (by decide) rfl
    (reaches_stray '+' '+' (by decide) (by decide) (by decide) rest)

theorem reaches_digit (digit : isDigitIn 16 c = true) (rest : Text) :
    Reaches (utf8 (c :: rest)) (String.utf8EncodeChar c) (utf8 rest) := by
  rw [utf8_cons]
  refine reaches_char c ?_ ?_ _
  · rintro rfl
    revert digit
    decide
  · rintro rfl
    revert digit
    decide

theorem digit_low (digit : isDigitIn 16 c = true) : c.toNat < 128 := by
  obtain ⟨n, value⟩ := isDigitIn_iff.mp digit
  exact digit_ascii c n value

theorem kept_beforeEscape (hi : isDigitIn 16 high = true) (lo : isDigitIn 16 low = true) (rest : Text) :
    Kept ('%' :: '%' :: high :: low :: rest) ↔ Kept rest := by
  have sign : isDigitIn 16 '%' = false := by decide
  have digits : (stripPrefix ['+'] ['%', high]).getD ['%', high] = ['%', high] := rfl
  have refused : fromStrRadix 16 ['%', high] = none := by
    rw [fromStrRadix, digits, if_neg]
    intro fits
    simp [sign] at fits
  have reaches := (reaches_stray '%' high (by decide) (digit_low hi) refused (low :: rest)).trans
    (reaches_digit lo rest)
  exact kept_lead ['%', high, low] (hidden_escape hi lo rest) (by decide) rfl reaches

theorem kept_plusEscape (hi : isDigitIn 16 high = true) (lo : isDigitIn 16 low = true) (rest : Text) :
    Kept ('%' :: '+' :: '%' :: high :: low :: rest) ↔ Kept rest := by
  have reaches := (reaches_stray '+' '%' (by decide) (by decide) (by decide)
    (high :: low :: rest)).trans ((reaches_digit hi (low :: rest)).trans (reaches_digit lo rest))
  exact kept_lead ['+', '%', high, low] (hidden_plus (hidden_escape hi lo rest)) (by decide) rfl reaches

theorem kept_nil : Kept [] := by
  intro front c ordinary
  cases ordinary

theorem kept_last : Kept ['%'] := by
  have reaches : Reaches (utf8 ['%']) [0x25] (utf8 []) := .turn (by decide) (.start [])
  exact (kept_lead [] (hidden_nil []) (by decide) rfl reaches).mpr kept_nil

theorem kept_lastPlus : Kept ['%', '+'] := by
  have reaches : Reaches (utf8 ['%', '+']) [0x25] (utf8 []) := .turn (by decide) (.start [])
  exact (kept_lead ['+'] (hidden_plus (hidden_nil [])) (by decide) rfl reaches).mpr kept_nil

theorem kept_of_regular {input : Text} (regular : Regular input) : Kept input := by
  induction regular with
  | nil => exact kept_nil
  | plain literal _ ih => exact (kept_plain literal _).mpr ih
  | escape hi lo _ ih => exact (kept_escape hi lo _).mpr ih
  | last => exact kept_last
  | lastPlus => exact kept_lastPlus
  | pluses _ ih => exact (kept_pluses _).mpr ih
  | beforeEscape hi lo _ ih => exact (kept_beforeEscape hi lo _).mpr ih
  | plusEscape hi lo _ ih => exact (kept_plusEscape hi lo _).mpr ih

theorem lost_behind (front : Text) {back : Text} (ordinary : Ordinary ('%' :: (front ++ c :: back)) ('%' :: front) c)
    (short : (utf8 front).length ≤ 1) : ¬Kept ('%' :: (front ++ c :: back)) := by
  intro kept
  obtain ⟨behind, pushed, later, split, reaches, -⟩ := kept _ c ordinary
  have same : back = behind := by simpa using split
  subst same
  have some : 0 < (utf8 (c :: back)).length := List.length_pos_of_ne_nil (utf8_ne_nil _ (List.cons_ne_nil _ _))
  have size : (utf8 (front ++ c :: back)).length = (utf8 front).length + (utf8 (c :: back)).length := by
    rw [utf8_append, List.length_append]
  rw [utf8_percent] at reaches
  rcases reaches.behind_percent with whole | passed
  · have lengths := congrArg List.length whole
    rw [List.length_cons] at lengths
    omega
  · omega

theorem lost_number (digit : isDigitIn 16 c = true) (rest : Text) : ¬Kept ('%' :: '+' :: c :: rest) := by
  intro kept
  obtain ⟨n, value⟩ := isDigitIn_iff.mp digit
  have small := digit_lt c n value
  have number : fromStrRadix 16 ['+', c] = some (UInt8.ofNat n) := by
    have all : [c].all (isDigitIn 16) = true := by simp [digit]
    have read : numberOf 16 [c] = n := by simp [numberOf, value]
    have digits : (stripPrefix ['+'] ['+', c]).getD ['+', c] = [c] := rfl
    rw [fromStrRadix, digits, read, if_pos ⟨List.cons_ne_nil _ _, all, by omega⟩]
  have taken := turn_pair '+' c (by decide) (digit_low digit) rest
  rw [number] at taken
  obtain ⟨back, pushed, later, split, -, pushes, -⟩ := kept [] '%' (.here (by decide) rfl)
  cases split
  have first := congrArg List.head? ((decodeBytes_turn taken).symm.trans pushes)
  have value : (UInt8.ofNat n).toNat = 0x25 := congrArg UInt8.toNat (Option.some.inj first)
  rw [UInt8.toNat_ofNat'] at value
  omega

theorem regular_of_kept {input : Text} (kept : Kept input) : Regular input := by
  induction size : input.length using Nat.strong_induction_on generalizing input with
  | _ size ih =>
    subst size
    have later {rest : Text} (short : rest.length < input.length) (kept : Kept rest) : Regular rest :=
      ih rest.length short kept rfl
    rcases input with _ | ⟨c, rest⟩
    · exact .nil
    by_cases percent : c ≠ '%'
    · exact .plain percent (later (by simp) ((kept_plain percent rest).mp kept))
    obtain rfl : c = '%' := not_not.mp percent
    by_cases escapes : startsEscape ('%' :: rest) = true
    · obtain ⟨high, low, after, -, rfl, hi, lo⟩ := startsEscape_iff.mp escapes
      exact .escape hi lo (later (by simp; omega) ((kept_escape hi lo after).mp kept))
    have single : startsEscape ('%' :: rest) = false := Bool.eq_false_iff.mpr escapes
    rcases rest with _ | ⟨first, rest⟩
    · exact .last
    by_cases plus : first = '+'
    · -- A plus sign is passed over; what stands behind it decides.
      subst plus
      rcases rest with _ | ⟨second, rest⟩
      · exact .lastPlus
      by_cases again : second = '+'
      · subst again
        exact .pluses (later (by simp; omega) ((kept_pluses rest).mp kept))
      by_cases inner : startsEscape (second :: rest) = true
      · obtain ⟨high, low, after, rfl, rfl, hi, lo⟩ := startsEscape_iff.mp inner
        exact .plusEscape hi lo (later (by simp; omega) ((kept_plusEscape hi lo after).mp kept))
      by_cases digit : isDigitIn 16 second = true
      · exact absurd kept (lost_number digit rest)
      · have ordinary : Ordinary (second :: rest) [] second := .here again (Bool.eq_false_iff.mpr inner)
        have passed := (hidden_plus (hidden_nil (second :: rest)) _ second).mpr ⟨[], rfl, ordinary⟩
        exact absurd kept (lost_behind ['+'] (.behind single passed) (by decide))
    · by_cases inner : startsEscape (first :: rest) = true
      · obtain ⟨high, low, after, rfl, rfl, hi, lo⟩ := startsEscape_iff.mp inner
        exact .beforeEscape hi lo (later (by simp; omega) ((kept_beforeEscape hi lo after).mp kept))
      · have ordinary : Ordinary (first :: rest) [] first := .here plus (Bool.eq_false_iff.mpr inner)
        exact absurd kept (lost_behind [] (.behind single ordinary) (by decide))

end

/-- An input is decoded to every text that it encodes, and its ordinary characters are kept where they stand exactly if
no percent sign takes one or is taken for a part of a number. -/
theorem urlencodingDecode_keeps (input : Text) :
    (∀ text, Encodes text input → urlencodingDecode input = text) ∧ (Kept input ↔ Regular input) := by
  constructor
  · intro text encodes
    exact urlencodingDecode_encodes encodes
  · exact ⟨regular_of_kept, kept_of_regular⟩

theorem encodes_slash : Encodes "a/b".toList "a%2fb".toList := by
  have slash : Escapes (String.utf8EncodeChar '/') ['%', '2', 'f'] := .cons (by decide) (by decide) .nil
  exact .literal (by decide) (by decide) (.escaped slash (.literal (by decide) (by decide) .nil))

theorem urlencodingDecode_keeps_slash :
    urlencodingDecode "a%2fb".toList = "a/b".toList ∧ Kept "a%2fb+%%41c%".toList := by
  have regular : Regular "a%2fb+%%41c%".toList :=
    .plain (by decide) (.escape (by decide) (by decide) (.plain (by decide) (.plain (by decide)
      (.beforeEscape (by decide) (by decide) (.plain (by decide) .last)))))
  exact ⟨(urlencodingDecode_keeps _).1 _ encodes_slash, (urlencodingDecode_keeps _).2.mpr regular⟩

/-- Two characters behind a percent sign are lost if they are not hex digits. -/
theorem stray_percent_swallows :
    Ordinary "%zz".toList ['%'] 'z' ∧ urlencodingDecode "%zz".toList = "%".toList ∧ ¬Kept "%zz".toList := by
  have ordinary : Ordinary "%zz".toList ['%'] 'z' := .behind rfl (.here (by decide) rfl)
  have bytes : decodeBytes (utf8 "%zz".toList) = utf8 "%".toList := by decide +kernel
  have decoded : urlencodingDecode "%zz".toList = "%".toList := by rw [urlencodingDecode, bytes, lossy_utf8]
  exact ⟨ordinary, decoded, lost_behind [] ordinary (by decide)⟩

/-! What a query selects. -/

/-- An upstream can be named by any percent-encoding of its URI that has no ampersand. -/
theorem control_selects (uri encoded action : Text) (encodes : Encodes uri encoded) (whole : '&' ∉ encoded)
    (clean : '&' ∉ action) (now : Nat) (nodes : List ConfiguredNode) :
    applyOptionalControlAction ("action=".toList ++ action ++ '&' :: "upstream=".toList ++ encoded) now nodes =
      nodes.map fun entry =>
        if entry.uri = uri ∨ trimEndSlashes entry.uri = trimEndSlashes uri then
          { entry with node := perform action now entry.node }
        else entry := by
  have first : splitOnce '=' ("action=".toList ++ action) = some ("action".toList, action) :=
    splitOnce_front '=' "action".toList action (by decide)
  have second : splitOnce '=' ("upstream=".toList ++ encoded) = some ("upstream".toList, encoded) :=
    splitOnce_front '=' "upstream".toList encoded (by decide)
  have parts : ("action=".toList ++ action ++ '&' :: "upstream=".toList ++ encoded).splitOn '&' =
      ["action=".toList ++ action, "upstream=".toList ++ encoded] := by
    rw [List.append_assoc, List.cons_append, splitOn_cons_part _ _ _ (by simpa using clean),
      splitOn_clean _ _ (by simpa using whole)]
  have found : controlParameters ("action=".toList ++ action ++ '&' :: "upstream=".toList ++ encoded) =
      (some action, some uri) := by
    rw [controlParameters, parts, List.foldl_cons, List.foldl_cons, List.foldl_nil]
    simp only [first, second, if_true]
    rw [if_neg (by decide), urlencodingDecode_encodes encodes]
  rw [applyOptionalControlAction, found]

/-- Of two nodes the one whose slash was encoded is selected. -/
theorem control_selects_slash :
    applyOptionalControlAction "action=open&upstream=a%2fb".toList 5 [⟨"a/b".toList, .new⟩, ⟨"a".toList, .new⟩] =
      [⟨"a/b".toList, UpstreamNode.new.markDead 5⟩, ⟨"a".toList, .new⟩] := by
  exact control_selects "a/b".toList "a%2fb".toList "open".toList encodes_slash (by decide) (by decide) 5 _

end Praeco.Server.AdminQuery
