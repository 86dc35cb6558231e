import Praeco.Tunnel.Register

/-! The names that the relay takes for host names, against the host names of RFC 1035. The two differ in the
letters: the relay asks the Unicode tables. -/

namespace Praeco.Tunnel.HostNames
open Praeco.Strings Utf8 Split Register

/-- Tables whose letters and digits below 128 are those of ASCII, as they are in Unicode. -/
structure UnicodeTables extends Alphanumerics where
  ascii : ∀ c, c.toNat < 128 → isAlphanumeric c = asciiAlphanumerics.isAlphanumeric c

def LetterDigitHyphen (c : Char) : Prop := asciiAlphanumerics.isAlphanumeric c = true ∨ c = '-'

structure Label (label : Text) : Prop where
  filled : 1 ≤ label.length
  short : label.length ≤ 63
  chars : ∀ c ∈ label, LetterDigitHyphen c
  start : label.head? ≠ some '-'
  finish : label.getLast? ≠ some '-'

structure HostName (name : Text) : Prop where
  short : (utf8 name).length ≤ 253
  labels : ∃ labels : List Text, labels ≠ [] ∧ (∀ label ∈ labels, Label label) ∧ name = ['.'].intercalate labels

theorem LetterDigitHyphen.ascii {c : Char} (letter : LetterDigitHyphen c) : c.toNat < 128 := by
  rcases letter with letter | rfl
  · simp only [asciiAlphanumerics, decide_eq_true_eq] at letter
    omega
  · decide

theorem LetterDigitHyphen.ne_dot {c : Char} (letter : LetterDigitHyphen c) : c ≠ '.' := by
  rintro rfl
  exact absurd letter (by unfold LetterDigitHyphen; decide)

theorem Label.ascii {label : Text} (valid : Label label) : Ascii label := fun c member => (valid.chars c member).ascii

theorem Label.no_dot {label : Text} (valid : Label label) : '.' ∉ label := fun member =>
  (valid.chars '.' member).ne_dot rfl

theorem validLabel_true (unicode : Alphanumerics) (label : Text) :
    validLabel unicode label = true ↔
      ¬(label = [] ∨ label.head? = some '-' ∨ label.getLast? = some '-') ∧ (utf8 label).length ≤ 63 ∧
        ∀ c ∈ label, unicode.isAlphanumeric c = true ∨ c = '-' := by
  simp only [validLabel, Bool.and_eq_true, Bool.not_eq_true', Bool.or_eq_false_iff, decide_eq_false_iff_not,
    List.isEmpty_eq_false_iff, not_lt, List.all_eq_true, Bool.or_eq_true, decide_eq_true_eq, not_or]
  tauto

theorem letter_iff (unicode : UnicodeTables) (c : Char) (low : c.toNat < 128) :
    unicode.isAlphanumeric c = true ∨ c = '-' ↔ LetterDigitHyphen c := by
  rw [unicode.ascii c low]
  rfl

theorem validLabel_iff (unicode : UnicodeTables) (label : Text) (ascii : Ascii label) :
    validLabel unicode.toAlphanumerics label = true ↔ Label label := by
  have letters : (∀ c ∈ label, unicode.isAlphanumeric c = true ∨ c = '-') ↔ ∀ c ∈ label, LetterDigitHyphen c :=
    forall₂_congr fun c member => letter_iff unicode c (ascii c member)
  rw [validLabel_true, letters, utf8_length_ascii label ascii, not_or, not_or]
  constructor
  · rintro ⟨⟨filled, start, finish⟩, short, chars⟩
    exact ⟨List.length_pos_iff.mpr filled, short, chars, start, finish⟩
  · intro valid
    exact ⟨⟨List.length_pos_iff.mp valid.filled, valid.start, valid.finish⟩, valid.short, valid.chars⟩

theorem labels_iff (name : Text) :
    (∃ labels : List Text, labels ≠ [] ∧ (∀ label ∈ labels, Label label) ∧ name = ['.'].intercalate labels) ↔
      ∀ label ∈ name.splitOn '.', Label label := by
  constructor
  · rintro ⟨labels, filled, valid, rfl⟩
    rw [List.splitOn_intercalate '.' (fun label member => (valid label member).no_dot) filled]
    exact valid
  · intro valid
    exact ⟨name.splitOn '.', List.splitOn_ne_nil _ _, valid, (List.intercalate_splitOn '.').symm⟩

theorem HostName.ascii {name : Text} (host : HostName name) : Ascii name := by
  have valid := (labels_iff name).mp host.labels
  intro c member
  rcases mem_part '.' name c member with rfl | ⟨label, listed, inside⟩
  · decide
  · exact (valid label listed).ascii c inside

theorem isValidSni_ascii (unicode : UnicodeTables) (sni : Text) (ascii : Ascii sni) :
    isValidSni unicode.toAlphanumerics sni = true ↔ HostName sni := by
  have parts : (∀ label ∈ sni.splitOn '.', validLabel unicode.toAlphanumerics label = true) ↔
      ∀ label ∈ sni.splitOn '.', Label label :=
    forall₂_congr fun label member => validLabel_iff unicode label fun c inside =>
      ascii c ((infix_of_mem_splitOn '.' sni label member).subset inside)
  simp only [isValidSni, Bool.and_eq_true, Bool.not_eq_true', Bool.or_eq_false_iff, decide_eq_false_iff_not,
    List.isEmpty_eq_false_iff, not_lt, List.all_eq_true, parts]
  constructor
  · rintro ⟨⟨_, short⟩, labels⟩
    exact ⟨short, (labels_iff sni).mpr labels⟩
  · intro host
    have labels := (labels_iff sni).mp host.labels
    refine ⟨⟨?_, host.short⟩, labels⟩
    rintro rfl
    exact absurd (labels [] (by decide)).filled (by decide)

/-- What the letters of a name cannot make up for: it is too long, a character is no letter, number, hyphen or dot,
more than 63 bytes stand between two dots, or, with a dot put at either end, a dot is next to a dot or a hyphen. -/
inductive Flawed (unicode : UnicodeTables) (name : Text) : Prop
  | long (bytes : 253 < (utf8 name).length)
  | stray (c : Char) (member : c ∈ name) (other : c ≠ '.' ∧ c ≠ '-' ∧ unicode.isAlphanumeric c = false)
  | label (part : Text) (within : part <:+: name) (undotted : '.' ∉ part) (bytes : 63 < (utf8 part).length)
  | border (pair : Text) (listed : pair ∈ [['.', '.'], ['.', '-'], ['-', '.']])
      (within : pair <:+: '.' :: (name ++ ['.']))

theorem border_iff (name : Text) :
    (∃ pair ∈ [['.', '.'], ['.', '-'], ['-', '.']], pair <:+: '.' :: (name ++ ['.'])) ↔
      ∃ part ∈ name.splitOn '.', part = [] ∨ part.head? = some '-' ∨ part.getLast? = some '-' := by
  have dots : ['.', '.'] <:+: '.' :: (name ++ ['.']) ↔ ∃ part ∈ name.splitOn '.', part = [] := by
    rw [sep_pair_iff]
    refine exists_congr fun part => and_congr_right fun member => ?_
    have clean := not_mem_of_mem_splitOn '.' name part member
    cases part with
    | nil => simp
    | cons c part => simp [Ne.symm (List.ne_of_not_mem_cons clean)]
  have opens : ['.', '-'] <:+: '.' :: (name ++ ['.']) ↔ ∃ part ∈ name.splitOn '.', part.head? = some '-' := by
    rw [sep_pair_iff]
    refine exists_congr fun part => and_congr_right fun _ => ?_
    cases part <;> simp
  have closes : ['-', '.'] <:+: '.' :: (name ++ ['.']) ↔ ∃ part ∈ name.splitOn '.', part.getLast? = some '-' := by
    rw [pair_infix_cons, pair_sep_iff '.' '-' (by decide)]
    exact or_iff_right fun found => absurd found.1 (by decide)
  simp only [List.mem_cons, List.not_mem_nil, or_false, exists_eq_or_imp, exists_eq_left, dots, opens, closes]
  simp only [and_or_left, exists_or]

/-- The relay accepts the names without such a flaw. -/
theorem isValidSni_iff_flawless (unicode : UnicodeTables) (sni : Text) :
    isValidSni unicode.toAlphanumerics sni = true ↔ ¬Flawed unicode sni := by
  simp only [isValidSni, Bool.and_eq_true, Bool.not_eq_true', Bool.or_eq_false_iff, decide_eq_false_iff_not,
    List.isEmpty_eq_false_iff, not_lt, List.all_eq_true, validLabel_true]
  constructor
  · rintro ⟨⟨_, short⟩, labels⟩ flaw
    cases flaw with
    | long bytes => omega
    | stray c member other =>
      rcases mem_part '.' sni c member with dot | ⟨part, listed, inside⟩
      · exact other.1 dot
      · rcases (labels part listed).2.2 c inside with letter | hyphen
        · exact Bool.false_ne_true (other.2.2.symm.trans letter)
        · exact other.2.1 hyphen
    | label part within undotted bytes =>
      obtain ⟨whole, listed, inside⟩ := (infix_iff_splitOn '.' part sni undotted).mp within
      obtain ⟨before, after, rfl⟩ := inside
      have fits := (labels _ listed).2.1
      simp only [utf8_append, List.length_append] at fits
      omega
    | border pair listed within =>
      obtain ⟨part, member, flaw⟩ := (border_iff sni).mp ⟨pair, listed, within⟩
      exact (labels part member).1 flaw
  · intro flawless
    have borders (part : Text) (member : part ∈ sni.splitOn '.') :
        ¬(part = [] ∨ part.head? = some '-' ∨ part.getLast? = some '-') := by
      intro flaw
      obtain ⟨pair, listed, within⟩ := (border_iff sni).mpr ⟨part, member, flaw⟩
      exact flawless (.border pair listed within)
    refine ⟨⟨?_, ?_⟩, fun part member => ⟨borders part member, ?_, ?_⟩⟩
    · rintro rfl
      exact borders [] (by decide) (.inl rfl)
    · by_contra long
      exact flawless (.long (not_le.mp long))
    · by_contra long
      have undotted := not_mem_of_mem_splitOn '.' sni part member
      exact flawless (.label part (infix_of_mem_splitOn '.' sni part member) undotted (not_le.mp long))
    · intro c inside
      by_contra other
      rw [not_or, Bool.not_eq_true] at other
      have dotless : c ≠ '.' := fun dot => not_mem_of_mem_splitOn '.' sni part member (dot ▸ inside)
      exact flawless (.stray c ((infix_of_mem_splitOn '.' sni part member).subset inside)
        ⟨dotless, other.2, other.1⟩)

/-- The relay's check is the grammar of host names exactly on the names that are ASCII or have another flaw. -/
theorem isValidSni_hostName_iff (unicode : UnicodeTables) (sni : Text) :
    (isValidSni unicode.toAlphanumerics sni = true ↔ HostName sni) ↔ Ascii sni ∨ Flawed unicode sni := by
  constructor
  · intro same
    by_cases flaw : Flawed unicode sni
    · exact .inr flaw
    · exact .inl (same.mp ((isValidSni_iff_flawless unicode sni).mpr flaw)).ascii
  · rintro (ascii | flaw)
    · exact isValidSni_ascii unicode sni ascii
    · constructor
      · intro valid
        exact absurd flaw ((isValidSni_iff_flawless unicode sni).mp valid)
      · intro host
        exact (isValidSni_ascii unicode sni host.ascii).mpr host

def latin : UnicodeTables where
  isAlphanumeric c := asciiAlphanumerics.isAlphanumeric c ||
    (c.toNat ∈ [0xAA, 0xB2, 0xB3, 0xB5, 0xB9, 0xBA, 0xBC, 0xBD, 0xBE] ∨
      (0xC0 ≤ c.toNat ∧ c.toNat ≤ 0xFF ∧ c.toNat ≠ 0xD7 ∧ c.toNat ≠ 0xF7))
  visible c letter := by
    rw [Bool.or_eq_true, decide_eq_true_eq] at letter
    rcases letter with letter | letter
    · exact asciiAlphanumerics.visible c letter
    · simp only [List.mem_cons, List.not_mem_nil, or_false] at letter
      simp only [Fields.isWhitespace, Bool.or_eq_false_iff, decide_eq_false_iff_not]
      omega
  ascii c low := by
    have none : ¬(c.toNat ∈ [0xAA, 0xB2, 0xB3, 0xB5, 0xB9, 0xBA, 0xBC, 0xBD, 0xBE] ∨
        (0xC0 ≤ c.toNat ∧ c.toNat ≤ 0xFF ∧ c.toNat ≠ 0xD7 ∧ c.toNat ≠ 0xF7)) := by
      simp only [List.mem_cons, List.not_mem_nil, or_false]
      omega
    rw [decide_eq_false none, Bool.or_false]

/-- A name with a letter that is not ASCII passes the check. -/
theorem accented_name_accepted :
    isValidSni latin.toAlphanumerics ['é', '.', 'd', 'e'] = true ∧ ¬HostName ['é', '.', 'd', 'e'] := by
  refine ⟨by decide, fun host => ?_⟩
  exact absurd (host.ascii 'é' (by decide)) (by decide)

end Praeco.Tunnel.HostNames
