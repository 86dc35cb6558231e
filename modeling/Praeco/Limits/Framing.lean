import Praeco.Collections.Access
import Praeco.Limits.Payload
import Praeco.Schedule.Turns

/-! The loop over the bytes of a data frame as the source writes it: the prefix of a message in an array of five bytes
with a position, an offset into the frame, and slices and differences that may be out of range. -/

namespace Praeco.Limits.Framing
open Praeco.Strings Utf8 Praeco.Collections.Access Praeco.Schedule.Turns Praeco.Limits.Payload

/-- What ends a program in an index or a difference. -/
inductive Fault where
  | outOfRange
  | underflow
  deriving DecidableEq, Repr

def checkedSub (first second : Nat) : Except Fault Nat :=
  if second ≤ first then .ok (first - second) else .error .underflow

structure HeaderBuf where
  bytes : Bytes
  size : bytes.length = 5
  deriving DecidableEq, Repr

def HeaderBuf.copyFromSlice (buf : HeaderBuf) (start stop : Nat) (source : Bytes) : Except Fault HeaderBuf :=
  if fits : start ≤ stop ∧ stop ≤ 5 ∧ source.length = stop - start then
    .ok ⟨buf.bytes.take start ++ source ++ buf.bytes.drop stop, by
      rw [List.length_append, List.length_append, List.length_take, List.length_drop, buf.size]
      omega⟩
  else .error .outOfRange

inductive RawState where
  | header (buf : HeaderBuf) (pos : Nat)
  | payload (remaining : Nat)
  deriving DecidableEq, Repr

def RawState.start : RawState := .header ⟨[0, 0, 0, 0, 0], rfl⟩ 0

structure Point where
  state : RawState
  offset : Nat
  deriving DecidableEq, Repr

/-- One turn of the loop. It is left at the end of the frame, or with the length of a message that is too large. -/
def turn (maxBytes : Nat) (data : Bytes) (point : Point) : Except Fault (Turn Point (RawState × Option Nat)) :=
  if point.offset < data.length then
    match point.state with
    | .header buf pos => do
      let needed ← checkedSub 5 pos
      let available ← checkedSub data.length point.offset
      let toCopy := min needed available
      let copied ← slice .outOfRange data point.offset (point.offset + toCopy)
      let buf ← buf.copyFromSlice pos (pos + toCopy) copied
      let pos := pos + toCopy
      let offset := point.offset + toCopy
      if pos = 5 then
        if maxBytes < msgLen buf.bytes then .ok (.leave (.header buf pos, some (msgLen buf.bytes)))
        else .ok (.again ⟨.payload (msgLen buf.bytes), offset⟩)
      else .ok (.again ⟨.header buf pos, offset⟩)
    | .payload remaining => do
      let available ← checkedSub data.length point.offset
      let consumed := min available remaining
      let remaining ← checkedSub remaining consumed
      let offset := point.offset + consumed
      if remaining = 0 then .ok (.again ⟨.start, offset⟩) else .ok (.again ⟨.payload remaining, offset⟩)
  else .ok (.leave (point.state, none))

/-- The states that a body comes to, frame after frame, also after frames that were refused. -/
inductive Reached (maxBytes : Nat) : RawState → Prop where
  | initial : Reached maxBytes .start
  | polled {state next : RawState} {data : Bytes} {fuel : Nat} {oversized : Option Nat} (before : Reached maxBytes state)
      (done : run (turn maxBytes data) fuel ⟨state, 0⟩ = some (.ok (next, oversized))) : Reached maxBytes next

def RawState.Positioned : RawState → Prop
  | .header _ pos => pos ≤ 5
  | .payload _ => True

def RawState.framing : RawState → GrpcFramingState
  | .header buf pos => .header (buf.bytes.take pos) (by rw [List.length_take, buf.size]; omega)
  | .payload remaining => .payload remaining

structure Point.Valid (data : Bytes) (point : Point) : Prop where
  positioned : point.state.Positioned
  inside : point.offset ≤ data.length

def Point.measure (data : Bytes) (point : Point) : Nat :=
  3 * (data.length - point.offset) + point.state.framing.idleTurns

structure Point.Answers (maxBytes : Nat) (data : Bytes) (point : Point) (result : RawState × Option Nat) : Prop where
  parsed : parseFrame maxBytes point.state.framing (data.drop point.offset) = (result.1.framing, result.2)
  positioned : result.1.Positioned

theorem Point.Answers.carry {maxBytes : Nat} {data : Bytes} {next point : Point}
    (same : parseFrame maxBytes point.state.framing (data.drop point.offset) =
      parseFrame maxBytes next.state.framing (data.drop next.offset)) (result : RawState × Option Nat)
    (answers : next.Answers maxBytes data result) : point.Answers maxBytes data result :=
  ⟨same.trans answers.parsed, answers.positioned⟩

theorem checkedSub_ok {first second : Nat} (small : second ≤ first) : checkedSub first second = .ok (first - second) :=
  if_pos small

theorem copyFromSlice_ok (buf : HeaderBuf) (pos : Nat) (source : Bytes) (room : pos + source.length ≤ 5) :
    ∃ filled : HeaderBuf, buf.copyFromSlice pos (pos + source.length) source = .ok filled ∧
      filled.bytes.take (pos + source.length) = buf.bytes.take pos ++ source := by
  have arrived : (buf.bytes.take pos ++ source).length = pos + source.length := by
    rw [List.length_append, List.length_take, buf.size]
    omega
  refine ⟨_, dif_pos ⟨Nat.le_add_right _ _, room, (Nat.add_sub_cancel_left _ _).symm⟩, ?_⟩
  exact List.take_left' arrived

section

variable (maxBytes : Nat) {data : Bytes} {offset : Nat}

theorem turn_header (more : offset < data.length) (buf : HeaderBuf) (pos : Nat) (positioned : pos ≤ 5) :
    ∃ (toCopy : Nat) (filled : HeaderBuf), toCopy = min (5 - pos) (data.length - offset) ∧
      filled.bytes.take (pos + toCopy) = buf.bytes.take pos ++ (data.drop offset).take toCopy ∧
      turn maxBytes data ⟨.header buf pos, offset⟩ =
        if pos + toCopy = 5 then
          if maxBytes < msgLen filled.bytes then .ok (.leave (.header filled (pos + toCopy), some (msgLen filled.bytes)))
          else .ok (.again ⟨.payload (msgLen filled.bytes), offset + toCopy⟩)
        else .ok (.again ⟨.header filled (pos + toCopy), offset + toCopy⟩) := by
  have size : ((data.drop offset).take (min (5 - pos) (data.length - offset))).length =
      min (5 - pos) (data.length - offset) := by
    rw [List.length_take, List.length_drop]
    omega
  obtain ⟨filled, copied, arrived⟩ := copyFromSlice_ok buf pos
    ((data.drop offset).take (min (5 - pos) (data.length - offset))) (by rw [size]; omega)
  rw [size] at copied arrived
  refine ⟨_, filled, rfl, arrived, ?_⟩
  rw [turn, if_pos more]
  simp only [checkedSub_ok positioned, checkedSub_ok more.le, bind, Except.bind, copied,
    slice_ok Fault.outOfRange (show offset + min (5 - pos) (data.length - offset) ≤ data.length by omega)]

theorem turn_payload (more : offset < data.length) (remaining : Nat) :
    turn maxBytes data ⟨.payload remaining, offset⟩ =
      let consumed := min (data.length - offset) remaining
      if remaining - consumed = 0 then .ok (.again ⟨.start, offset + consumed⟩)
      else .ok (.again ⟨.payload (remaining - consumed), offset + consumed⟩) := by
  rw [turn, if_pos more]
  simp only [checkedSub_ok more.le, checkedSub_ok (Nat.min_le_right (data.length - offset) remaining), bind, Except.bind]

end

/-! The loop of the payload limit, one turn at a time. -/

theorem parseFrame_nil (maxBytes : Nat) (state : GrpcFramingState) : parseFrame maxBytes state [] = (state, none) := by
  rw [parseFrame.eq_def, if_pos List.length_nil]

theorem parseFrame_payload (maxBytes remaining : Nat) {data : Bytes} (more : data.length ≠ 0) :
    parseFrame maxBytes (.payload remaining) data =
      if remaining - min data.length remaining = 0 then
        parseFrame maxBytes .start (data.drop (min data.length remaining))
      else parseFrame maxBytes (.payload (remaining - min data.length remaining))
        (data.drop (min data.length remaining)) := by
  rw [parseFrame.eq_def, if_neg more]

theorem parseFrame_header (maxBytes : Nat) {data buf filled : Bytes} {toCopy size : Nat} (fits : buf.length ≤ 5)
    (more : data.length ≠ 0) (count : toCopy = min (5 - buf.length) data.length)
    (arrived : filled = buf ++ data.take toCopy) (length : filled.length = size) (within : filled.length ≤ 5) :
    parseFrame maxBytes (.header buf fits) data =
      if size = 5 then
        if maxBytes < msgLen filled then (.header filled within, some (msgLen filled))
        else parseFrame maxBytes (.payload (msgLen filled)) (data.drop toCopy)
      else parseFrame maxBytes (.header filled within) (data.drop toCopy) := by
  subst count arrived length
  rw [parseFrame.eq_def, if_neg more]

theorem declared (filled : HeaderBuf) {size : Nat} (full : size = 5) :
    msgLen (filled.bytes.take size) = msgLen filled.bytes := by
  rw [full, List.take_of_length_le filled.size.le]

theorem measure_header (data : Bytes) (buf : HeaderBuf) {pos : Nat} (offset : Nat) (positioned : pos ≤ 5) :
    Point.measure data ⟨.header buf pos, offset⟩ = 3 * (data.length - offset) + if pos = 5 then 2 else 0 := by
  have arrived : (buf.bytes.take pos).length = pos := by
    rw [List.length_take, buf.size]
    exact Nat.min_eq_left positioned
  simp only [Point.measure, RawState.framing, GrpcFramingState.idleTurns, arrived]

/-- A turn fails nowhere, lowers the measure or leaves, and keeps to the loop of the payload limit. -/
theorem turn_advances (maxBytes : Nat) (data : Bytes) (point : Point) (valid : point.Valid data) :
    Advances (Point.Valid data) (Point.measure data) (Point.Answers maxBytes data) point (turn maxBytes data point) := by
  obtain ⟨state, offset⟩ := point
  obtain ⟨positioned, inside⟩ := valid
  by_cases more : offset < data.length
  · have rest : (data.drop offset).length = data.length - offset := List.length_drop
    cases state with
    | header buf pos =>
      have before : (buf.bytes.take pos).length = pos := by
        rw [List.length_take, buf.size]
        exact Nat.min_eq_left positioned
      obtain ⟨toCopy, filled, count, arrived, next⟩ := turn_header maxBytes more buf pos positioned
      have positioned : pos ≤ 5 := positioned
      have within : pos + toCopy ≤ 5 := by omega
      have length : (filled.bytes.take (pos + toCopy)).length = pos + toCopy := by
        rw [List.length_take, filled.size]
        exact Nat.min_eq_left within
      have value := parseFrame_header maxBytes (before.trans_le positioned) (rest.trans_ne (by omega))
        (by rw [before, rest]; exact count) arrived length (length.trans_le within)
      rw [List.drop_drop] at value
      rw [next]
      split_ifs with full large
      · rw [if_pos full, declared filled full, if_pos large] at value
        exact .leave _ ⟨value, within⟩
      · -- a header that was full already costs no byte of the frame here, which the measure allows for
        rw [if_pos full, declared filled full, if_neg large] at value
        refine .again _ ⟨trivial, ?_⟩ ?_ (.carry value)
        · change offset + _ ≤ data.length
          omega
        · rw [measure_header _ _ _ positioned]
          change 3 * (data.length - (offset + toCopy)) + 1 < _
          split_ifs <;> omega
      · rw [if_neg full] at value
        refine .again _ ⟨within, ?_⟩ ?_ (.carry value)
        · change offset + _ ≤ data.length
          omega
        · rw [measure_header _ _ _ positioned, measure_header _ _ _ within, if_neg full]
          omega
    | payload remaining =>
      have value := parseFrame_payload maxBytes remaining (rest.trans_ne (by omega))
      rw [rest, List.drop_drop] at value
      rw [turn_payload maxBytes more]
      dsimp only
      split_ifs with done
      · rw [if_pos done] at value
        refine .again _ ⟨Nat.zero_le 5, ?_⟩ ?_ (.carry value)
        · change offset + _ ≤ data.length
          omega
        · change 3 * (data.length - (offset + _)) + 0 < 3 * (data.length - offset) + 1
          omega
      · rw [if_neg done] at value
        refine .again _ ⟨trivial, ?_⟩ ?_ (.carry value)
        · change offset + _ ≤ data.length
          omega
        · change 3 * (data.length - (offset + _)) + 1 < 3 * (data.length - offset) + 1
          omega
  · rw [turn, if_neg more]
    refine .leave _ ⟨?_, positioned⟩
    rw [List.drop_eq_nil_of_le (Nat.not_lt.mp more), parseFrame_nil]

/-- The loop over a frame ends, and does what the payload limit does to the bytes that have arrived. -/
theorem run_refines (maxBytes : Nat) (data : Bytes) (state : RawState) (positioned : state.Positioned) :
    ∃ fuel result, run (turn maxBytes data) fuel ⟨state, 0⟩ = some (.ok result) ∧
      parseFrame maxBytes state.framing data = (result.1.framing, result.2) ∧ result.1.Positioned := by
  obtain ⟨result, done, answers⟩ := run_advances (turn_advances maxBytes data) ⟨state, 0⟩ ⟨positioned, Nat.zero_le _⟩ _
    (Nat.lt_succ_self _)
  exact ⟨_, result, done, answers.parsed, answers.positioned⟩

theorem Reached.positioned {maxBytes : Nat} {state : RawState} (reached : Reached maxBytes state) :
    state.Positioned := by
  induction reached with
  | initial => exact Nat.zero_le 5
  | polled _ done ih =>
    obtain ⟨_, result, again, -, positioned⟩ := run_refines maxBytes _ _ ih
    cases run_unique done again
    exact positioned

/-- In every state that a body comes to and for every frame, the loop ends; whenever a turn of it begins, the position
lies between 0 and 5, and no index of the turn is out of range. -/
theorem framing_loop_safe (maxBytes : Nat) (state : RawState) (reached : Reached maxBytes state) (data : Bytes) :
    (∃ fuel result, run (turn maxBytes data) fuel ⟨state, 0⟩ = some (.ok result)) ∧
      ∀ point, Enters (turn maxBytes data) ⟨state, 0⟩ point →
        point.state.Positioned ∧ ∃ next, turn maxBytes data point = .ok next := by
  constructor
  · obtain ⟨fuel, result, done, -⟩ := run_refines maxBytes data state reached.positioned
    exact ⟨fuel, result, done⟩
  · intro point entered
    obtain ⟨valid, next⟩ := entered.safe (turn_advances maxBytes data) ⟨reached.positioned, Nat.zero_le _⟩
    exact ⟨valid.positioned, next⟩

/-- After an empty message, a message that is too large, and a frame that was refused for it. -/
theorem framing_loop_safe_refused :
    let buf : HeaderBuf := ⟨[0, 0, 0, 0, 9], rfl⟩
    run (turn 4 [0, 0, 0, 0, 0, 0, 0, 0, 0, 9, 1]) 4 ⟨.start, 0⟩ = some (.ok (.header buf 5, some 9)) ∧
      ∃ fuel result, run (turn 4 [7]) fuel ⟨.header buf 5, 0⟩ = some (.ok result) := by
  intro buf
  have refused : run (turn 4 [0, 0, 0, 0, 0, 0, 0, 0, 0, 9, 1]) 4 ⟨.start, 0⟩ =
      some (.ok (.header buf 5, some 9)) := by decide
  exact ⟨refused, (framing_loop_safe 4 (.header buf 5) (.polled .initial refused) [7]).1⟩

end Praeco.Limits.Framing
