import Praeco.Strings.Utf8

/-! Bytes as text, with a replacement character for every run of bytes that begins a character but does not complete it.
A byte that cannot continue a character is a seam: what stands before it and what it starts are read independently, so a
character that is written out is read wherever it stands. -/

namespace Praeco.Strings.Lossy
open Utf8

abbrev Range := Nat × Nat

def Meets (b : UInt8) (range : Range) : Prop := range.1 ≤ b.toNat ∧ b.toNat ≤ range.2

instance (b : UInt8) (range : Range) : Decidable (Meets b range) := inferInstanceAs (Decidable (_ ∧ _))

def tail : Range := (0x80, 0xBF)

/-- What the bytes behind a first byte have to be, if it can be one. -/
def followers (b : UInt8) : Option (List Range) :=
  if b.toNat < 0x80 then some []
  else if Meets b (0xC2, 0xDF) then some [tail]
  else if b.toNat = 0xE0 then some [(0xA0, 0xBF), tail]
  else if b.toNat = 0xED then some [(0x80, 0x9F), tail]
  else if Meets b (0xE1, 0xEF) then some [tail, tail]
  else if b.toNat = 0xF0 then some [(0x90, 0xBF), tail, tail]
  else if Meets b (0xF1, 0xF3) then some [tail, tail, tail]
  else if b.toNat = 0xF4 then some [(0x80, 0x8F), tail, tail]
  else none

def accepted : List Range → Bytes → Nat
  | range :: ranges, b :: rest => if Meets b range then accepted ranges rest + 1 else 0
  | _, _ => 0

def replacement : Char := Char.ofNat 0xFFFD

def lossy : Bytes → Text
  | [] => []
  | b :: rest =>
    match followers b with
    | none => replacement :: lossy rest
    | some ranges =>
      (if accepted ranges rest = ranges.length then (fromUtf8 (b :: rest.take ranges.length)).getD []
        else [replacement]) ++ lossy (rest.drop (accepted ranges rest))
  termination_by bytes => bytes.length
  decreasing_by
    · exact Nat.lt_succ_self _
    · rw [List.length_drop, List.length_cons]
      omega

theorem followers_tail {b : UInt8} {ranges : List Range} (found : followers b = some ranges) :
    ∀ range ∈ ranges, ∀ next, Meets next range → Meets next tail := by
  have narrow : ∀ range ∈ ranges, tail.1 ≤ range.1 ∧ range.2 ≤ tail.2 := by
    unfold followers at found
    split_ifs at found <;> cases found <;> decide
  intro range member next met
  obtain ⟨low, high⟩ := narrow range member
  exact ⟨low.trans met.1, met.2.trans high⟩

theorem accepted_append {ranges : List Range} (front back : Bytes)
    (within : ∀ range ∈ ranges, ∀ next, Meets next range → Meets next tail)
    (seam : ∀ b ∈ back.head?, ¬Meets b tail) : accepted ranges (front ++ back) = accepted ranges front := by
  induction ranges generalizing front with
  | nil => rw [accepted.eq_def, accepted.eq_def]
  | cons range ranges ih =>
    cases front with
    | nil =>
      cases back with
      | nil => rfl
      | cons b back =>
        have refused : ¬Meets b range := fun met => seam b rfl (within range List.mem_cons_self b met)
        rw [List.nil_append, accepted, if_neg refused]
        rfl
    | cons b front =>
      rw [List.cons_append, accepted, accepted,
        ih front fun other member => within other (List.mem_cons_of_mem range member)]

theorem accepted_le (ranges : List Range) (bytes : Bytes) : accepted ranges bytes ≤ bytes.length := by
  induction ranges generalizing bytes with
  | nil => exact Nat.zero_le _
  | cons range ranges ih =>
    cases bytes with
    | nil => exact Nat.zero_le _
    | cons b bytes =>
      rw [accepted]
      split_ifs
      · exact Nat.succ_le_succ (ih bytes)
      · exact Nat.zero_le _

theorem accepted_all {bytes : Bytes} {ranges : List Range} (met : List.Forall₂ Meets bytes ranges) (rest : Bytes) :
    accepted ranges (bytes ++ rest) = ranges.length := by
  induction met with
  | nil => rw [accepted.eq_def]; rfl
  | cons here _ ih => rw [List.cons_append, accepted, if_pos here, ih, List.length_cons]

theorem lossy_append (front back : Bytes) (seam : ∀ b ∈ back.head?, ¬Meets b tail) :
    lossy (front ++ back) = lossy front ++ lossy back := by
  induction size : front.length using Nat.strong_induction_on generalizing front with
  | _ size ih =>
    subst size
    cases front with
    | nil => rw [List.nil_append, lossy, List.nil_append]
    | cons b front =>
      rw [List.cons_append, lossy, lossy]
      cases found : followers b with
      | none =>
        dsimp only
        rw [ih front.length (Nat.lt_succ_self _) front rfl, List.cons_append]
      | some ranges =>
        dsimp only
        -- nothing behind the seam is accepted, so the first character takes the same bytes in both readings
        have same := accepted_append front back (followers_tail found) seam
        have inside := accepted_le ranges front
        have shorter : (front.drop (accepted ranges front)).length < (b :: front).length := by
          rw [List.length_drop, List.length_cons]
          omega
        rw [same, List.drop_append_of_le_length inside, ih _ shorter _ rfl, ← List.append_assoc]
        congr 2
        split_ifs with complete
        · rw [List.take_append_of_le_length (complete ▸ inside)]
        · rfl

/-! How characters are written. -/

theorem meets_tail (n : Nat) : Meets (UInt8.ofNat (n % 64 + 0x80)) tail := by
  unfold Meets tail
  rw [UInt8.toNat_ofNat']
  omega

theorem followers_three {b second : UInt8} (first : 0xE0 ≤ b.toNat ∧ b.toNat ≤ 0xEF) (met : Meets second tail)
    (long : b.toNat = 0xE0 → 0xA0 ≤ second.toNat) (proper : b.toNat = 0xED → second.toNat ≤ 0x9F) :
    ∃ range, followers b = some [range, tail] ∧ Meets second range := by
  unfold followers
  rw [if_neg (by omega), if_neg (by unfold Meets; omega)]
  split_ifs with lowest surrogate middle
  · exact ⟨_, rfl, long lowest, met.2⟩
  · exact ⟨_, rfl, met.1, proper surrogate⟩
  · exact ⟨_, rfl, met⟩
  all_goals exact absurd middle (by unfold Meets; omega)

theorem followers_four {b second : UInt8} (first : 0xF0 ≤ b.toNat ∧ b.toNat ≤ 0xF4) (met : Meets second tail)
    (long : b.toNat = 0xF0 → 0x90 ≤ second.toNat) (proper : b.toNat = 0xF4 → second.toNat ≤ 0x8F) :
    ∃ range, followers b = some [range, tail, tail] ∧ Meets second range := by
  unfold followers
  rw [if_neg (by omega), if_neg (by unfold Meets; omega), if_neg (by omega), if_neg (by omega),
    if_neg (by unfold Meets; omega)]
  split_ifs with lowest middle highest
  · exact ⟨_, rfl, long lowest, met.2⟩
  · exact ⟨_, rfl, met⟩
  · exact ⟨_, rfl, met.1, proper highest⟩
  · exact absurd middle (by unfold Meets; omega)

theorem encode_accepted (c : Char) : ∃ (b : UInt8) (bytes : Bytes) (ranges : List Range),
    String.utf8EncodeChar c = b :: bytes ∧ ¬Meets b tail ∧ followers b = some ranges ∧
      List.Forall₂ Meets bytes ranges := by
  have valid : c.val.toNat < 0xD800 ∨ 0xDFFF < c.val.toNat ∧ c.val.toNat < 0x110000 := c.valid
  simp only [String.utf8EncodeChar]
  generalize c.val.toNat = n at valid
  split_ifs with one two three
  · have first : (UInt8.ofNat n).toNat = n := by rw [UInt8.toNat_ofNat']; omega
    refine ⟨_, [], [], rfl, ?_, ?_, .nil⟩
    · unfold Meets tail
      omega
    · rw [followers, if_pos (by omega)]
  · have first : (UInt8.ofNat (n / 64 % 32 + 192)).toNat = n / 64 + 192 := by rw [UInt8.toNat_ofNat']; omega
    refine ⟨_, _, [tail], rfl, ?_, ?_, .cons (meets_tail n) .nil⟩
    · unfold Meets tail
      omega
    · rw [followers, if_neg (by omega), if_pos (by unfold Meets; omega)]
  · have first : (UInt8.ofNat (n / 4096 % 16 + 224)).toNat = n / 4096 + 224 := by rw [UInt8.toNat_ofNat']; omega
    have second : (UInt8.ofNat (n / 64 % 64 + 128)).toNat = n / 64 % 64 + 128 := by rw [UInt8.toNat_ofNat']; omega
    obtain ⟨range, found, met⟩ := followers_three (b := UInt8.ofNat (n / 4096 % 16 + 224)) (by omega)
      (meets_tail (n / 64)) (by rw [first, second]; omega) (by rw [first, second]; omega)
    refine ⟨_, _, _, rfl, ?_, found, .cons met (.cons (meets_tail n) .nil)⟩
    unfold Meets tail
    omega
  · have first : (UInt8.ofNat (n / 262144 % 8 + 240)).toNat = n / 262144 + 240 := by rw [UInt8.toNat_ofNat']; omega
    have second : (UInt8.ofNat (n / 4096 % 64 + 128)).toNat = n / 4096 % 64 + 128 := by rw [UInt8.toNat_ofNat']; omega
    obtain ⟨range, found, met⟩ := followers_four (b := UInt8.ofNat (n / 262144 % 8 + 240)) (by omega)
      (meets_tail (n / 4096)) (by rw [first, second]; omega) (by rw [first, second]; omega)
    refine ⟨_, _, _, rfl, ?_, found, .cons met (.cons (meets_tail (n / 64)) (.cons (meets_tail n) .nil))⟩
    unfold Meets tail
    omega

theorem lossy_encode (c : Char) (rest : Bytes) : lossy (String.utf8EncodeChar c ++ rest) = c :: lossy rest := by
  obtain ⟨b, bytes, ranges, written, -, found, met⟩ := encode_accepted c
  have read : fromUtf8 (b :: bytes) = some [c] := by
    have whole := fromUtf8_utf8 [c]
    rwa [utf8_cons, utf8_nil, List.append_nil, written] at whole
  rw [written, List.cons_append, lossy, found]
  dsimp only
  rw [accepted_all met, if_pos rfl, ← met.length_eq, List.take_left, List.drop_left, read]
  rfl

theorem lossy_char (front rest : Bytes) (c : Char) :
    lossy (front ++ (String.utf8EncodeChar c ++ rest)) = lossy front ++ c :: lossy rest := by
  rw [lossy_append, lossy_encode]
  obtain ⟨b, bytes, -, written, first, -⟩ := encode_accepted c
  intro other member
  rw [written, List.cons_append, List.head?_cons] at member
  cases member
  exact first

theorem lossy_utf8 (text : Text) : lossy (utf8 text) = text := by
  induction text with
  | nil => rw [utf8_nil, lossy]
  | cons c text ih => rw [utf8_cons, lossy_encode, ih]

end Praeco.Strings.Lossy
