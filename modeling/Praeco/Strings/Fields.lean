import Praeco.Strings.Utf8

/-! Fields of delimited text: trimming, stripping, words and comma-separated lists. -/

namespace Praeco.Strings.Fields
open Utf8

def isWhitespace (c : Char) : Bool :=
  (9 ≤ c.toNat ∧ c.toNat ≤ 13) || c.toNat = 0x20 || c.toNat = 0x85 || c.toNat = 0xA0 || c.toNat = 0x1680 ||
    (0x2000 ≤ c.toNat ∧ c.toNat ≤ 0x200A) || c.toNat = 0x2028 || c.toNat = 0x2029 || c.toNat = 0x202F ||
    c.toNat = 0x205F || c.toNat = 0x3000

def trim (text : Text) : Text := (text.dropWhile isWhitespace).rdropWhile isWhitespace

def isOws (c : Char) : Bool := c = ' ' || c = '\t'

def trimOws (text : Text) : Text := (text.dropWhile isOws).rdropWhile isOws

private theorem dropWhile_congr {text : Text} {p q : Char → Bool} (same : ∀ c ∈ text, p c = q c) :
    text.dropWhile p = text.dropWhile q := by
  induction text with
  | nil => rfl
  | cons c text ih =>
    rw [List.dropWhile_cons, List.dropWhile_cons, same c List.mem_cons_self,
      ih fun other member => same other (List.mem_cons_of_mem c member)]

theorem trim_eq_trimOws (text : Text) (plain : ∀ c ∈ text, isWhitespace c = isOws c) : trim text = trimOws text := by
  have front : text.dropWhile isWhitespace = text.dropWhile isOws := dropWhile_congr plain
  have kept : ∀ c ∈ (text.dropWhile isOws).reverse, isWhitespace c = isOws c := by
    intro c member
    exact plain c ((List.dropWhile_suffix isOws).subset (List.mem_reverse.mp member))
  rw [trim, trimOws, front, List.rdropWhile, List.rdropWhile, dropWhile_congr kept]

def stripPrefix (word text : Text) : Option Text := if word <+: text then some (text.drop word.length) else none

def commaList (text : Text) : List Text := ((text.splitOn ',').map trim).filter (· ≠ [])

example : commaList [' ', 'a', ',', ',', 'b', ' '] = [['a'], ['b']] := by decide

def splitWhitespace (text : Text) : List Text := (text.splitOnP isWhitespace).filter (· ≠ [])

@[simp] theorem splitWhitespace_nil : splitWhitespace [] = [] := rfl

theorem splitWhitespace_append (left right : Text) (space : Char) (blank : isWhitespace space = true) :
    splitWhitespace (left ++ space :: right) = splitWhitespace left ++ splitWhitespace right := by
  rw [splitWhitespace, List.splitOnP_append_cons left right blank, List.filter_append]
  rfl

theorem splitWhitespace_word (word : Text) (clean : ∀ c ∈ word, isWhitespace c = false) (nonempty : word ≠ []) :
    splitWhitespace word = [word] := by
  rw [splitWhitespace, List.splitOnP_eq_singleton clean]
  simp [nonempty]

theorem splitWhitespace_dropWhile (text : Text) :
    splitWhitespace (text.dropWhile isWhitespace) = splitWhitespace text := by
  induction text with
  | nil => rfl
  | cons c text ih =>
    cases blank : isWhitespace c with
    | false => rw [List.dropWhile_cons_of_neg (by simp [blank])]
    | true =>
      rw [List.dropWhile_cons_of_pos blank, ih]
      exact (splitWhitespace_append [] text c blank).symm

theorem splitWhitespace_rdropWhile (text : Text) :
    splitWhitespace (text.rdropWhile isWhitespace) = splitWhitespace text := by
  induction text using List.reverseRecOn with
  | nil => rfl
  | append_singleton text c ih =>
    cases blank : isWhitespace c with
    | false => rw [List.rdropWhile_concat_neg _ _ _ (by simp [blank])]
    | true =>
      rw [List.rdropWhile_concat_pos _ _ _ blank, ih, splitWhitespace_append text [] c blank, splitWhitespace_nil,
        List.append_nil]

theorem splitWhitespace_trim (text : Text) : splitWhitespace (trim text) = splitWhitespace text := by
  rw [trim, splitWhitespace_rdropWhile, splitWhitespace_dropWhile]

def toAsciiLowercase (text : Text) : Text := text.map Char.toLower

theorem toAsciiLowercase_idem (text : Text) : toAsciiLowercase (toAsciiLowercase text) = toAsciiLowercase text := by
  rw [toAsciiLowercase, toAsciiLowercase, List.map_map]
  apply List.map_congr_left
  intro c _
  apply char_ext
  rw [Function.comp_apply, toLower_toNat, toLower_toNat]
  split_ifs <;> omega

theorem utf8_toAsciiLowercase_length (text : Text) : (utf8 (toAsciiLowercase text)).length = (utf8 text).length := by
  induction text with
  | nil => rfl
  | cons c text ih =>
    rw [toAsciiLowercase, List.map_cons, utf8_cons, utf8_cons, List.length_append, List.length_append,
      encode_toLower_length]
    exact congrArg _ ih

theorem isWhitespace_toLower (c : Char) : isWhitespace c.toLower = isWhitespace c := by
  unfold isWhitespace
  rw [toLower_toNat]
  split_ifs with upper
  · rw [Bool.eq_iff_iff]
    simp only [Bool.or_eq_true, decide_eq_true_eq]
    omega
  · rfl

def eqIgnoreAsciiCase (left right : Text) : Bool := toAsciiLowercase left = toAsciiLowercase right

/-- `str::parse::<usize>`: digits, after one plus sign at most, of a number below 2^64. -/
def parseUsize (text : Text) : Option Nat :=
  let digits := if text.head? = some '+' then text.tail else text
  let value := digits.foldl (fun n c => n * 10 + (c.toNat - 48)) 0
  if digits ≠ [] ∧ digits.all Char.isDigit ∧ value < 2 ^ 64 then some value else none

example : parseUsize "+42".toList = some 42 ∧ parseUsize "4 2".toList = none := by decide

def parseU8 (text : Text) : Option Nat :=
  let digits := (stripPrefix ['+'] text).getD text
  if digits ≠ [] ∧ digits.all Char.isDigit then
    let value := digits.foldl (fun acc c => 10 * acc + (c.toNat - 48)) 0
    if value < 256 then some value else none
  else none

end Praeco.Strings.Fields
