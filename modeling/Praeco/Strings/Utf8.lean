import Mathlib

/-! A Rust `str` is modelled by the list of its Unicode scalar values, and its byte view by their
UTF-8 encodings. ASCII characters are one byte below 128 and every other character contributes
bytes from 128 on only, so a search for ASCII text gives one answer on both views. -/

namespace Praeco.Strings.Utf8

abbrev Text := List Char
abbrev Bytes := List UInt8

/-- Comparisons of texts, wherever they are made, rest on this one instance. -/
instance Text.lawfulBEq : LawfulBEq Text := inferInstance

/-- `str::as_bytes`. -/
def utf8 (text : Text) : Bytes := text.flatMap String.utf8EncodeChar

def fromUtf8 (bytes : Bytes) : Option Text := bytes.toByteArray.utf8Decode?.map Array.toList

/-- `b as char`: the scalar value with the byte's number. -/
def byteChar (b : UInt8) : Char := Char.ofNat b.toNat

def latin1 (bytes : Bytes) : Text := bytes.map byteChar

def Ascii (text : Text) : Prop := ∀ c ∈ text, c.toNat < 128

@[simp] theorem utf8_nil : utf8 [] = [] := rfl

@[simp] theorem utf8_cons (c : Char) (text : Text) :
    utf8 (c :: text) = String.utf8EncodeChar c ++ utf8 text := rfl

@[simp] theorem utf8_append (left right : Text) : utf8 (left ++ right) = utf8 left ++ utf8 right :=
  List.flatMap_append

theorem fromUtf8_utf8 (text : Text) : fromUtf8 (utf8 text) = some text := by
  have decoded : (utf8 text).toByteArray.utf8Decode? = some text.toArray := List.utf8Decode?_utf8Encode
  rw [fromUtf8, decoded]
  rfl

@[simp] theorem latin1_nil : latin1 [] = [] := rfl

@[simp] theorem latin1_cons (b : UInt8) (bytes : Bytes) :
    latin1 (b :: bytes) = byteChar b :: latin1 bytes := rfl

@[simp] theorem latin1_append (left right : Bytes) :
    latin1 (left ++ right) = latin1 left ++ latin1 right := List.map_append

theorem latin1_length (bytes : Bytes) : (latin1 bytes).length = bytes.length := List.length_map _

theorem ofNat_toNat (n : Nat) (bound : n < 256) : (Char.ofNat n).toNat = n := by
  have valid : n.isValidChar := Or.inl (by omega)
  simp [Char.ofNat, valid, Char.toNat, Char.ofNatAux]

theorem byteChar_toNat (b : UInt8) : (byteChar b).toNat = b.toNat :=
  ofNat_toNat b.toNat (UInt8.toNat_lt_size b)

theorem byteChar_injective : Function.Injective byteChar := by
  intro x y same
  have values := congrArg Char.toNat same
  rw [byteChar_toNat, byteChar_toNat] at values
  exact UInt8.toNat_inj.mp values

theorem char_ext (x y : Char) (same : x.toNat = y.toNat) : x = y := by
  apply Char.ext
  exact UInt32.toNat_inj.mp same

theorem toLower_toNat (c : Char) : c.toLower.toNat = if 65 ≤ c.toNat ∧ c.toNat ≤ 90 then c.toNat + 32 else c.toNat := by
  have bounds : (c.val ≥ 'A'.val ∧ c.val ≤ 'Z'.val) ↔ (65 ≤ c.toNat ∧ c.toNat ≤ 90) := by
    simp only [ge_iff_le, UInt32.le_iff_toNat_le, Char.toNat_val]
    rfl
  unfold Char.toLower
  split_ifs with upper upper' upper'
  · have shift : (32 : UInt32).toNat = 32 := rfl
    change (c.val + 32).toNat = c.toNat + 32
    rw [UInt32.toNat_add, Char.toNat_val, shift, Nat.mod_eq_of_lt (by omega)]
  · exact absurd (bounds.mp upper) upper'
  · exact absurd (bounds.mpr upper') upper
  · rfl

theorem eq_of_toLower (c x : Char) (low : x.toNat < 97) (same : c.toLower = x) : c = x := by
  have codes := congrArg Char.toNat same
  rw [toLower_toNat] at codes
  apply char_ext
  split_ifs at codes <;> omega

theorem encode_ascii (c : Char) (low : c.toNat < 128) : String.utf8EncodeChar c = [UInt8.ofNat c.toNat] := by
  have bound : c.val.toNat ≤ 127 := by change c.toNat ≤ 127; omega
  simp only [String.utf8EncodeChar, if_pos bound]
  rfl

theorem encode_high (c : Char) (high : 128 ≤ c.toNat) : ∀ b ∈ String.utf8EncodeChar c, 128 ≤ b.toNat := by
  have bound : ¬c.val.toNat ≤ 127 := by change ¬c.toNat ≤ 127; omega
  intro b member
  simp only [String.utf8EncodeChar, if_neg bound] at member
  split_ifs at member <;>
    simp only [List.mem_cons, List.not_mem_nil, or_false] at member <;>
    rcases member with rfl | rfl | rfl | rfl <;>
    simp only [UInt8.toNat_ofNat'] <;> omega

theorem encode_high_length (c : Char) (high : 128 ≤ c.toNat) : 2 ≤ (String.utf8EncodeChar c).length := by
  have bound : ¬c.val.toNat ≤ 127 := by change ¬c.toNat ≤ 127; omega
  simp only [String.utf8EncodeChar, if_neg bound]
  split_ifs <;> simp

theorem encode_toLower_length (c : Char) :
    (String.utf8EncodeChar c.toLower).length = (String.utf8EncodeChar c).length := by
  by_cases low : c.toNat < 128
  · have lower : c.toLower.toNat < 128 := by
      rw [toLower_toNat]
      split_ifs <;> omega
    rw [encode_ascii c low, encode_ascii c.toLower lower]
    rfl
  · have same : c.toLower = c := by
      apply char_ext
      rw [toLower_toNat, if_neg (by omega)]
    rw [same]

theorem byteChar_ofNat (c : Char) (low : c.toNat < 128) : byteChar (UInt8.ofNat c.toNat) = c := by
  apply char_ext
  rw [byteChar_toNat, UInt8.toNat_ofNat']
  omega

theorem encode_low_head (c : Char) (b : UInt8) (rest : Bytes)
    (head : String.utf8EncodeChar c = b :: rest) (low : b.toNat < 128) : byteChar b = c ∧ rest = [] := by
  have small : c.toNat < 128 := by
    by_contra high
    have bytes := encode_high c (by omega) b (by rw [head]; exact List.mem_cons_self)
    omega
  rw [encode_ascii c small] at head
  obtain ⟨rfl, rfl⟩ := List.cons.inj head
  exact ⟨byteChar_ofNat c small, rfl⟩

theorem utf8_ne_nil (text : Text) (nonempty : text ≠ []) : utf8 text ≠ [] := by
  cases text with
  | nil => exact absurd rfl nonempty
  | cons c text =>
    rw [utf8_cons]
    exact List.append_ne_nil_of_left_ne_nil String.utf8EncodeChar_ne_nil _

theorem utf8_injective : Function.Injective utf8 := by
  intro left right same
  have encoded : left.utf8Encode = right.utf8Encode := congrArg List.toByteArray same
  have decoded := congrArg ByteArray.utf8Decode? encoded
  rw [List.utf8Decode?_utf8Encode, List.utf8Decode?_utf8Encode] at decoded
  exact congrArg Array.toList (Option.some.inj decoded)

theorem latin1_utf8_ascii (text : Text) (ascii : Ascii text) : latin1 (utf8 text) = text := by
  induction text with
  | nil => rfl
  | cons c text ih =>
    have low := ascii c List.mem_cons_self
    rw [utf8_cons, encode_ascii c low, latin1_append, ih (fun d member => ascii d (List.mem_cons_of_mem c member))]
    simp only [latin1_cons, latin1_nil, List.cons_append, List.nil_append, byteChar_ofNat c low]

theorem length_le_of_utf8_le (path left right : Text) (first : left <+: path) (second : right <+: path)
    (shorter : (utf8 left).length ≤ (utf8 right).length) : left.length ≤ right.length := by
  by_contra longer
  obtain ⟨rest, rfl⟩ := List.prefix_of_prefix_length_le second first (by omega)
  rw [utf8_append, List.length_append] at shorter
  have empty : utf8 rest = [] := List.eq_nil_of_length_eq_zero (by omega)
  have nothing : rest = [] := by
    by_contra nonempty
    exact utf8_ne_nil rest nonempty empty
  rw [nothing] at longer
  simp at longer

theorem utf8_length_le (text : Text) : text.length ≤ (utf8 text).length := by
  induction text with
  | nil => simp
  | cons c text ih =>
    have positive : 0 < (String.utf8EncodeChar c).length :=
      List.length_pos_iff.mpr String.utf8EncodeChar_ne_nil
    simp only [utf8_cons, List.length_cons, List.length_append]
    omega

theorem utf8_length_lt (text : Text) (c : Char) (member : c ∈ text) (high : 128 ≤ c.toNat) :
    text.length < (utf8 text).length := by
  induction text with
  | nil => simp at member
  | cons d text ih =>
    simp only [utf8_cons, List.length_cons, List.length_append]
    rcases List.mem_cons.mp member with rfl | later
    · have wide := encode_high_length c high
      have rest := utf8_length_le text
      omega
    · have positive : 0 < (String.utf8EncodeChar d).length :=
        List.length_pos_iff.mpr String.utf8EncodeChar_ne_nil
      have rest := ih later
      omega

theorem utf8_length_ascii (text : Text) (ascii : Ascii text) : (utf8 text).length = text.length := by
  rw [← latin1_length, latin1_utf8_ascii text ascii]

theorem utf8_latin1_ascii (bytes : Bytes) (ascii : ∀ b ∈ bytes, b.toNat < 128) : utf8 (latin1 bytes) = bytes := by
  induction bytes with
  | nil => rfl
  | cons b bytes ih =>
    have low : (byteChar b).toNat < 128 := by
      rw [byteChar_toNat]
      exact ascii b List.mem_cons_self
    rw [latin1_cons, utf8_cons, encode_ascii _ low, byteChar_toNat, UInt8.ofNat_toNat,
      ih fun other member => ascii other (List.mem_cons_of_mem b member)]
    rfl

theorem latin1_utf8_eq_iff (text : Text) : latin1 (utf8 text) = text ↔ Ascii text := by
  constructor
  · intro same c member
    by_contra high
    have longer := utf8_length_lt text c member (by omega)
    have lengths := congrArg List.length same
    rw [latin1_length] at lengths
    omega
  · exact latin1_utf8_ascii text

theorem mem_of_low_mem (text : Text) (b : UInt8) (low : b.toNat < 128) (member : b ∈ utf8 text) :
    byteChar b ∈ text := by
  obtain ⟨c, present, inside⟩ := List.mem_flatMap.mp member
  have small : c.toNat < 128 := by
    by_contra high
    have bytes := encode_high c (by omega) b inside
    omega
  rw [encode_ascii c small, List.mem_singleton] at inside
  rw [inside, byteChar_ofNat c small]
  exact present

theorem exists_high_byte (text : Text) (c : Char) (member : c ∈ text) (high : 128 ≤ c.toNat) :
    ∃ b ∈ utf8 text, 128 ≤ b.toNat := by
  obtain ⟨b, rest, encoded⟩ := List.exists_cons_of_ne_nil (String.utf8EncodeChar_ne_nil (c := c))
  have inside : b ∈ String.utf8EncodeChar c := by rw [encoded]; exact List.mem_cons_self
  exact ⟨b, List.mem_flatMap.mpr ⟨c, member, inside⟩, encode_high c high b inside⟩

theorem utf8_ascii_iff (text : Text) : (∀ b ∈ utf8 text, b.toNat < 128) ↔ Ascii text := by
  constructor
  · intro low c member
    by_contra large
    obtain ⟨b, present, high⟩ := exists_high_byte text c member (by omega)
    exact absurd (low b present) (by omega)
  · intro ascii b member
    have char : byteChar b ∈ text := by
      rw [← latin1_utf8_ascii text ascii]
      exact List.mem_map_of_mem member
    rw [← byteChar_toNat]
    exact ascii _ char

theorem prefix_of_utf8 (word : Bytes) (text : Text) (low : ∀ b ∈ word, b.toNat < 128)
    (found : word <+: utf8 text) : latin1 word <+: text := by
  induction word generalizing text with
  | nil => exact List.nil_prefix
  | cons b word ih =>
    cases text with
    | nil => simp at found
    | cons c text =>
      obtain ⟨d, rest, encoded⟩ := List.exists_cons_of_ne_nil (String.utf8EncodeChar_ne_nil (c := c))
      rw [utf8_cons, encoded, List.cons_append, List.cons_prefix_cons] at found
      obtain ⟨rfl, found⟩ := found
      obtain ⟨same, rfl⟩ := encode_low_head c b rest encoded (low b List.mem_cons_self)
      rw [latin1_cons, same, List.cons_prefix_cons]
      exact ⟨rfl, ih text (fun x member => low x (List.mem_cons_of_mem b member)) found⟩

private theorem infix_skip_high (word high rest : Bytes) (b : UInt8) (low : b.toNat < 128)
    (bytes : ∀ x ∈ high, 128 ≤ x.toNat) (found : b :: word <:+: high ++ rest) : b :: word <:+: rest := by
  induction high with
  | nil => exact found
  | cons x high ih =>
    rw [List.cons_append, List.infix_cons_iff] at found
    rcases found with front | later
    · rw [List.cons_prefix_cons] at front
      have large := bytes x List.mem_cons_self
      rw [← front.1] at large
      omega
    · exact ih (fun y member => bytes y (List.mem_cons_of_mem x member)) later

theorem infix_of_utf8 (word : Bytes) (text : Text) (low : ∀ b ∈ word, b.toNat < 128)
    (found : word <:+: utf8 text) : latin1 word <:+: text := by
  cases word with
  | nil => exact List.nil_infix
  | cons b word =>
    induction text with
    | nil => simp at found
    | cons c text ih =>
      by_cases small : c.toNat < 128
      · rw [utf8_cons, encode_ascii c small, List.singleton_append, List.infix_cons_iff] at found
        rcases found with front | later
        · have whole : b :: word <+: utf8 (c :: text) := by
            rw [utf8_cons, encode_ascii c small]
            exact front
          exact (prefix_of_utf8 (b :: word) (c :: text) low whole).isInfix
        · exact List.infix_cons (ih later)
      · rw [utf8_cons] at found
        have later := infix_skip_high word _ _ b (low b List.mem_cons_self)
          (encode_high c (by omega)) found
        exact List.infix_cons (ih later)

end Praeco.Strings.Utf8
