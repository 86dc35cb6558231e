import Praeco.Router.Spoofing

/-! Requests that come back to the gateway. Each passage counts `Max-Forwards` down. A client can have the counter
removed by naming it in `Connection`, but only on the first passage, since no `Connection` header leaves the gateway. -/

namespace Praeco.Router.Loops
open Praeco.Strings Utf8 Fields Praeco.Http.Message Praeco.Collections.Edits Praeco.Router.Headers
  Praeco.Router.Spoofing

structure Passage where
  urlEncode : Text → Text
  jwtToken : Option Bytes
  extensions : PeerExtensions
  config : ServerConfig

namespace Passage

variable (passage : Passage)

def prepare (headers : HeaderMap) : Except Response HeaderMap :=
  prepareProxyHeaders passage.urlEncode passage.jwtToken passage.extensions passage.config headers

/-- Certificate forwarding is not configured to use the two headers that the loop detection depends on. -/
structure Unnamed : Prop where
  maxForwards : maxForwards ∉ configuredNames passage.config
  connection : connection ∉ configuredNames passage.config

end Passage

/-- The header map after a number of passages, each of which is given what the one before has made. -/
def feedBack (passages : Nat → Passage) (headers : HeaderMap) : Nat → Except Response HeaderMap
  | 0 => .ok headers
  | rounds + 1 => do (passages rounds).prepare (← feedBack passages headers rounds)

def counter (left : Nat) : Bytes := utf8 (Nat.repr left).toList

theorem counter_read (left : Nat) (bound : left < 256) : (headerToStr (counter left)).bind parseU8 = some left :=
  (by decide +kernel : ∀ left < 256, (headerToStr (counter left)).bind parseU8 = some left) left bound

structure Counting (left : Nat) (headers : HeaderMap) : Prop where
  alone : values headers connection = []
  counted : values headers maxForwards = [counter left]

theorem nextMaxForwards_counting {left : Nat} {headers : HeaderMap} (counting : Counting left headers)
    (bound : left < 256) :
    nextMaxForwards headers = match left with
      | 0 => .error loopDetected
      | left + 1 => .ok left := by
  unfold nextMaxForwards
  rw [get_eq_head, counting.counted, List.head?_cons, Option.bind_some, counter_read left bound]
  cases left with
  | zero => rfl
  | succ left => rfl

theorem nextMaxForwards_blank {headers : HeaderMap} (blank : values headers maxForwards = []) :
    nextMaxForwards headers = .ok 10 := by
  unfold nextMaxForwards
  rw [get_eq_head, blank]
  rfl

theorem parseU8_lt {text : Text} {value : Nat} (parsed : parseU8 text = some value) : value < 256 := by
  unfold parseU8 at parsed
  dsimp only at parsed
  split_ifs at parsed with digits small
  cases parsed
  exact small

theorem nextMaxForwards_lt {headers : HeaderMap} {hops : Nat} (passed : nextMaxForwards headers = .ok hops) :
    hops < 255 := by
  unfold nextMaxForwards at passed
  split at passed
  · cases passed
  · rename_i value _ parsed
    cases passed
    obtain ⟨text, -, read⟩ := Option.bind_eq_some_iff.mp parsed
    have bound := parseU8_lt read
    omega
  · cases passed
    decide

section

variable {passage : Passage} {headers result : HeaderMap} {hops : Nat}

theorem not_set {name : Text} (unconfigured : name ∉ configuredNames passage.config)
    (other : name ∉ authorization :: forwardingHeaders) :
    name ∉ configuredNames passage.config ++
      (forwardingHeaders ++ passage.jwtToken.toList.map fun _ => authorization) := by
  simp only [List.mem_append, List.mem_map]
  rintro (configured | forwarding | ⟨-, -, rfl⟩)
  · exact unconfigured configured
  · exact other (List.mem_cons_of_mem _ forwarding)
  · exact other List.mem_cons_self

theorem prepared_alone (unnamed : passage.Unnamed) (prepared : passage.prepare headers = .ok result) :
    values result connection = [] := by
  obtain ⟨hops, -, rfl⟩ := prepareProxyHeaders_ok _ _ _ _ prepared
  obtain ⟨edit, member, same, left⟩ := values_of_edited headers _ connection
    ((edited_iff passage.urlEncode passage.jwtToken passage.extensions passage.config hops headers connection).mpr
      (Or.inl (by simp [ownNames, hopByHopHeaders])))
  rw [left]
  cases edit with
  | remove key => rfl
  | insert key value =>
    obtain rfl : key = connection := same
    rcases inserted_key member with ⟨counted, -⟩ | set
    · exact absurd counted (by decide)
    · exact absurd set (not_set unnamed.connection (by decide))

theorem prepared_counted (unnamed : passage.Unnamed) (passed : nextMaxForwards headers = .ok hops) :
    ∃ result, passage.prepare headers = .ok result ∧ values result connection = [] ∧
      (values result maxForwards = [counter hops] ∨
        values result maxForwards = [] ∧ maxForwards ∈ customHops headers) := by
  have prepared := prepareProxyHeaders_eq passage.urlEncode passage.jwtToken passage.extensions passage.config passed
  refine ⟨_, prepared, prepared_alone unnamed prepared, ?_⟩
  obtain ⟨edit, member, same, left⟩ := values_of_edited headers _ maxForwards
    ((edited_iff passage.urlEncode passage.jwtToken passage.extensions passage.config hops headers maxForwards).mpr
      (Or.inl List.mem_cons_self))
  rw [left]
  cases edit with
  | remove key =>
    obtain rfl : key = maxForwards := same
    rcases removed_key member with custom | listed
    · exact Or.inr ⟨rfl, custom⟩
    · simp only [List.mem_append] at listed
      rcases listed with hop | denied | configured | forwarding
      · exact absurd hop (by decide)
      · exact absurd denied (by decide +kernel)
      · exact absurd configured unnamed.maxForwards
      · exact absurd forwarding (by decide)
  | insert key value =>
    obtain rfl : key = maxForwards := same
    rcases inserted_key member with ⟨-, counted⟩ | set
    · rw [counted]
      exact Or.inl rfl
    · exact absurd set (not_set unnamed.maxForwards (by decide))

theorem counting_of_alone (unnamed : passage.Unnamed) (passed : nextMaxForwards headers = .ok hops)
    (alone : values headers connection = []) :
    ∃ result, passage.prepare headers = .ok result ∧ Counting hops result := by
  have none : customHops headers = [] := by
    unfold customHops
    rw [get_eq_head, alone]
    rfl
  obtain ⟨result, prepared, stillAlone, counted | ⟨-, custom⟩⟩ := prepared_counted unnamed passed
  · exact ⟨result, prepared, stillAlone, counted⟩
  · rw [none] at custom
    cases custom

end

section

variable {passages : Nat → Passage} {headers current : HeaderMap} {rounds : Nat}

theorem feedBack_succ {next : HeaderMap} (reached : feedBack passages headers rounds = .ok current)
    (prepared : (passages rounds).prepare current = .ok next) : feedBack passages headers (rounds + 1) = .ok next := by
  rw [feedBack, reached]
  exact prepared

theorem counting_ends (unnamed : ∀ round, (passages round).Unnamed) {left : Nat}
    (reached : feedBack passages headers rounds = .ok current) (counting : Counting left current) (bound : left < 256) :
    ∃ last, feedBack passages headers (rounds + left) = .ok last ∧
      (passages (rounds + left)).prepare last = .error loopDetected := by
  induction left generalizing rounds current with
  | zero =>
    refine ⟨current, reached, ?_⟩
    rw [Passage.prepare, prepareProxyHeaders, nextMaxForwards_counting counting bound]
    rfl
  | succ left ih =>
    obtain ⟨next, prepared, counted⟩ :=
      counting_of_alone (unnamed rounds) (nextMaxForwards_counting counting bound) counting.alone
    obtain ⟨last, end_, refused⟩ := ih (feedBack_succ reached prepared) counted (by omega)
    rw [Nat.add_assoc, Nat.add_comm 1 left] at end_ refused
    exact ⟨last, end_, refused⟩

end

/-- Whatever the client has sent, a request that comes back again and again is refused after 256 passages at most. -/
theorem loop_detected (passages : Nat → Passage) (unnamed : ∀ round, (passages round).Unnamed) (headers : HeaderMap) :
    ∃ rounds ≤ 256, ∃ last, feedBack passages headers rounds = .ok last ∧
      (passages rounds).prepare last = .error loopDetected := by
  have start : feedBack passages headers 0 = .ok headers := rfl
  cases first : nextMaxForwards headers with
  | error response =>
    have refused : response = loopDetected := by
      unfold nextMaxForwards at first
      split at first
      · cases first
        rfl
      · cases first
      · cases first
    refine ⟨0, by decide, headers, start, ?_⟩
    rw [Passage.prepare, prepareProxyHeaders, first, refused]
    rfl
  | ok hops =>
    have bound := nextMaxForwards_lt first
    obtain ⟨second, prepared, alone, counted | ⟨blank, -⟩⟩ := prepared_counted (unnamed 0) first
    · obtain ⟨last, reached, refused⟩ :=
        counting_ends unnamed (feedBack_succ start prepared) ⟨alone, counted⟩ (by omega)
      exact ⟨0 + 1 + hops, by omega, last, reached, refused⟩
    · -- The client has had the counter removed; the second passage starts it anew.
      obtain ⟨third, again, counting⟩ := counting_of_alone (unnamed 1) (nextMaxForwards_blank blank) alone
      obtain ⟨last, reached, refused⟩ := counting_ends unnamed
        (feedBack_succ (feedBack_succ start prepared) again) counting (by decide)
      exact ⟨0 + 1 + 1 + 10, by decide, last, reached, refused⟩

theorem loop_detected_unmarked :
    ∃ rounds ≤ 256, ∃ last,
      feedBack (fun _ => ⟨id, none, anonymous, plainServer⟩) [(connection, utf8 maxForwards)] rounds = .ok last ∧
        Passage.prepare ⟨id, none, anonymous, plainServer⟩ last = .error loopDetected :=
  loop_detected (fun _ => ⟨id, none, anonymous, plainServer⟩) (fun _ => ⟨by decide, by decide⟩) _

end Praeco.Router.Loops
