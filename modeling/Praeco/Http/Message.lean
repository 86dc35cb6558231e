import Praeco.Collections.Edits
import Praeco.Http.Target

/-! Requests and responses, as far as the gateway looks into them. -/

namespace Praeco.Http.Message
open Praeco.Strings Utf8 Praeco.Http.Target Praeco.Collections.Edits

inductive Method where
  | get
  | head
  | post
  | put
  | delete
  | options
  | patch
  | other (name : Text)
  deriving DecidableEq, Repr

/-- Header fields in order; names are in lower case, values are opaque bytes. -/
abbrev HeaderMap := List (Text × Bytes)

structure UserRole where
  name : Text
  deriving DecidableEq, Repr

/-- The request extensions that carry roles: the shared role vector, the plain one and the legacy one. -/
structure Extensions where
  sharedRoles : Option (List UserRole)
  roles : Option (List UserRole)
  legacyRoles : Option (List UserRole)
  deriving DecidableEq, Repr

structure Parts where
  method : Method
  uri : Uri
  headers : HeaderMap
  extensions : Extensions
  deriving DecidableEq, Repr

structure Response where
  status : Nat
  headers : HeaderMap
  body : Text
  deriving DecidableEq, Repr

def buildErrorResponse (msg : Text) (status : Nat) : Response := ⟨status, [], msg⟩

namespace HeaderMap

def get (headers : HeaderMap) (name : Text) : Option Bytes := headers.lookup name

abbrev getAll (headers : HeaderMap) (name : Text) : List Bytes := values headers name

end HeaderMap

theorem get_eq_head (headers : HeaderMap) (name : Text) : headers.get name = (values headers name).head? := by
  unfold HeaderMap.get
  induction headers with
  | nil => rfl
  | cons field headers ih =>
    obtain ⟨key, value⟩ := field
    by_cases same : key = name
    · subst same
      simp [values]
    · have different : (name == key) = false := beq_false_of_ne (Ne.symm same)
      rw [List.lookup_cons, different, ih]
      simp [values, same]

def isVisibleAscii (b : UInt8) : Bool := (32 ≤ b ∧ b < 127) || b = 9

/-- `HeaderValue::to_str`: only visible ASCII, spaces and tabs are text. -/
def headerToStr (value : Bytes) : Option Text := if value.all isVisibleAscii then some (latin1 value) else none

def headerFromStr (text : Text) : Option Bytes := if (utf8 text).all isVisibleAscii then some (utf8 text) else none

/-! Text that was read from a header can be written into one. -/

theorem isVisibleAscii_low {b : UInt8} (visible : isVisibleAscii b = true) : b.toNat < 128 := by
  simp only [isVisibleAscii, Bool.or_eq_true, decide_eq_true_eq, UInt8.lt_iff_toNat_lt] at visible
  rcases visible with ⟨-, small⟩ | rfl
  · exact Nat.lt_succ_of_lt small
  · decide

def Visible (text : Text) : Prop := (utf8 text).all isVisibleAscii = true

theorem Visible.ascii {text : Text} (visible : Visible text) : Ascii text :=
  (utf8_ascii_iff text).mp fun b member => isVisibleAscii_low (List.all_eq_true.mp visible b member)

theorem headerFromStr_visible {text : Text} (visible : Visible text) : headerFromStr text = some (utf8 text) :=
  if_pos visible

theorem headerToStr_utf8 {text : Text} (visible : Visible text) : headerToStr (utf8 text) = some text := by
  have visible' : (utf8 text).all isVisibleAscii = true := visible
  rw [headerToStr, if_pos visible', latin1_utf8_ascii text visible.ascii]

theorem headerToStr_eq_some {value : Bytes} {text : Text} (read : headerToStr value = some text) :
    Visible text ∧ utf8 text = value := by
  unfold headerToStr at read
  split_ifs at read with visible
  have written : utf8 text = value := by
    rw [← Option.some.inj read]
    exact utf8_latin1_ascii value fun b member => isVisibleAscii_low (List.all_eq_true.mp visible b member)
  exact ⟨by rw [Visible, written]; exact visible, written⟩

theorem visible_of_range {text : Text} (range : ∀ c ∈ text, 32 ≤ c.toNat ∧ c.toNat < 127) : Visible text := by
  rw [Visible, List.all_eq_true]
  intro b member
  obtain ⟨c, inside, written⟩ := List.mem_flatMap.mp member
  obtain ⟨low, high⟩ := range c inside
  rw [encode_ascii c (by omega), List.mem_singleton] at written
  have code : b.toNat = c.toNat := by
    rw [written, UInt8.toNat_ofNat_of_lt' (by change c.toNat < 256; omega)]
  simp only [isVisibleAscii, Bool.or_eq_true, decide_eq_true_eq, UInt8.lt_iff_toNat_lt, UInt8.le_iff_toNat_le, code]
  exact .inl ⟨low, high⟩

end Praeco.Http.Message
