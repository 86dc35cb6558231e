import Praeco.Router.Failover
import Praeco.Router.Spoofing
import Praeco.Strings.Split

/-! Which headers end at the gateway. A peer may name headers as belonging to its connection only, in as many
`Connection` lines as it likes; the gateway reads the first of them, in both directions. -/

namespace Praeco.Router.HopByHop
open Praeco.Strings Utf8 Fields Split Praeco.Http.Message Praeco.Collections.Edits Praeco.Router.Headers
  Praeco.Router.Spoofing Praeco.Router.Failover

def connectionOptions (value : Bytes) : List Text :=
  ((latin1 value).splitOn ',').filterMap fun option => headerName (trimOws option)

def Listed (headers : HeaderMap) (name : Text) : Prop :=
  ∃ value ∈ headers.getAll connection, name ∈ connectionOptions value

def OfConnection (headers : HeaderMap) (name : Text) : Prop := name ∈ hopByHopHeaders ∨ Listed headers name

/-- The first `Connection` line names it, and this line is text throughout. -/
def ListedFirst (headers : HeaderMap) (name : Text) : Prop :=
  ∃ value, headers.get connection = some value ∧ value.all isVisibleAscii = true ∧ name ∈ connectionOptions value

theorem visible_whitespace {value : Bytes} (visible : value.all isVisibleAscii = true) :
    ∀ c ∈ latin1 value, isWhitespace c = isOws c := by
  intro c member
  obtain ⟨b, present, rfl⟩ := List.mem_map.mp member
  exact (by decide +kernel : ∀ b : UInt8, isVisibleAscii b = true → isWhitespace (byteChar b) = isOws (byteChar b)) b
    (List.all_eq_true.mp visible b present)

theorem mem_customHops (headers : HeaderMap) (name : Text) : name ∈ customHops headers ↔ ListedFirst headers name := by
  unfold customHops ListedFirst
  cases first : headers.get connection with
  | none => simp
  | some value =>
    by_cases visible : value.all isVisibleAscii = true
    · have same : ((latin1 value).splitOn ',').filterMap (fun option => headerName (trim option)) =
          connectionOptions value := by
        apply List.filterMap_congr
        intro option member
        rw [trim_eq_trimOws option]
        intro c within
        exact visible_whitespace visible c ((infix_of_mem_splitOn _ _ _ member).subset within)
      rw [Option.bind_some, headerToStr, if_pos visible]
      dsimp only
      rw [same]
      constructor
      · intro listed
        exact ⟨value, rfl, visible, listed⟩
      · rintro ⟨other, same, -, listed⟩
        cases same
        exact listed
    · rw [Option.bind_some, headerToStr, if_neg visible]
      constructor
      · intro listed
        cases listed
      · rintro ⟨other, same, text, -⟩
        cases same
        exact absurd text visible

theorem cleaned_iff (response : HeaderMap) (name : Text) :
    (∃ edit ∈ stripHops response ++ [.remove "server".toList], edit.key = name) ↔
      ListedFirst response name ∨ name ∈ hopByHopHeaders ∨ name = "server".toList := by
  rw [← mem_customHops]
  constructor
  · rintro ⟨edit, member, rfl⟩
    simp only [stripHops, List.map_append, List.mem_append, List.mem_map, List.mem_singleton] at member
    rcases member with (⟨hop, custom, rfl⟩ | ⟨hop, listed, rfl⟩) | rfl
    · exact Or.inl custom
    · exact Or.inr (Or.inl listed)
    · exact Or.inr (Or.inr rfl)
  · rintro (custom | listed | server)
    · exact ⟨.remove name, by simp [stripHops, custom], rfl⟩
    · exact ⟨.remove name, by simp [stripHops, listed], rfl⟩
    · exact ⟨.remove name, by simp [server], rfl⟩

theorem stripped_iff_listed (headers : HeaderMap) (edits : List HeaderEdit)
    (fixed : ∀ name ∈ hopByHopHeaders, ∃ edit ∈ edits, edit.key = name) :
    Stripped (OfConnection headers) headers edits (applyAll headers edits) ↔
      ∀ name value, (name, value) ∈ headers → Listed headers name → ∃ edit ∈ edits, edit.key = name := by
  rw [stripped_iff]
  constructor
  · intro gone name value member listed
    exact gone name value member (Or.inr listed)
  · rintro gone name value member (hop | listed)
    · exact fixed name hop
    · exact gone name value member listed

/-- No header that belongs to the connection passes the gateway exactly if each of them that a `Connection` line names
is named by the first one, or ends at the gateway anyway: of a request, and of a response. -/
theorem hops_stripped_iff (urlEncode : Text → Text) (jwtToken : Option Bytes) (extensions : PeerExtensions)
    (config : ServerConfig) (headers result response : HeaderMap)
    (prepared : prepareProxyHeaders urlEncode jwtToken extensions config headers = .ok result) :
    ((∃ hops, nextMaxForwards headers = .ok hops ∧
      Stripped (OfConnection headers) headers (proxyEdits urlEncode jwtToken extensions config hops headers) result) ↔
      ∀ name value, (name, value) ∈ headers → Listed headers name →
        ListedFirst headers name ∨ name ∈ ownNames jwtToken config) ∧
    (Stripped (OfConnection response) response (stripHops response ++ [.remove "server".toList])
        (cleanResponseHeaders response) ↔
      ∀ name value, (name, value) ∈ response → Listed response name →
        ListedFirst response name ∨ name ∈ hopByHopHeaders ∨ name = "server".toList) := by
  obtain ⟨hops, passed, rfl⟩ := prepareProxyHeaders_ok urlEncode jwtToken extensions config prepared
  have edited (name : Text) :
      (∃ edit ∈ proxyEdits urlEncode jwtToken extensions config hops headers, edit.key = name) ↔
        ListedFirst headers name ∨ name ∈ ownNames jwtToken config := by
    rw [edited_iff, mem_customHops, or_comm]
  have request := stripped_iff_listed headers (proxyEdits urlEncode jwtToken extensions config hops headers)
    fun name hop => (edited name).mpr (Or.inr (List.mem_cons_of_mem _ (List.mem_append_left _ hop)))
  have answer := stripped_iff_listed response (stripHops response ++ [.remove "server".toList])
    fun name hop => (cleaned_iff response name).mpr (Or.inr (Or.inl hop))
  constructor
  · simp only [edited] at request
    rw [← request]
    constructor
    · rintro ⟨other, same, stripped⟩
      cases same.symm.trans passed
      exact stripped
    · intro stripped
      exact ⟨hops, passed, stripped⟩
  · simp only [cleaned_iff] at answer
    exact answer

def twoLines : HeaderMap :=
  [(connection, utf8 "close".toList), (connection, utf8 "x-token".toList), ("x-token".toList, [0x31])]

theorem hops_stripped_iff_two :
    ((∃ hops, nextMaxForwards twoLines = .ok hops ∧
      Stripped (OfConnection twoLines) twoLines (proxyEdits id none anonymous plainServer hops twoLines)
        (applyAll twoLines (proxyEdits id none anonymous plainServer 10 twoLines))) ↔
      ∀ name value, (name, value) ∈ twoLines → Listed twoLines name →
        ListedFirst twoLines name ∨ name ∈ ownNames none plainServer) ∧
    (Stripped (OfConnection twoLines) twoLines (stripHops twoLines ++ [.remove "server".toList])
        (cleanResponseHeaders twoLines) ↔
      ∀ name value, (name, value) ∈ twoLines → Listed twoLines name →
        ListedFirst twoLines name ∨ name ∈ hopByHopHeaders ∨ name = "server".toList) :=
  hops_stripped_iff id none anonymous plainServer twoLines _ twoLines (prepareProxyHeaders_eq _ _ _ _ rfl)

/-- The named header passes the gateway in both directions. -/
theorem second_line_passes :
    Listed twoLines "x-token".toList ∧
    prepareProxyHeaders id none anonymous plainServer twoLines =
      .ok (applyAll twoLines (proxyEdits id none anonymous plainServer 10 twoLines)) ∧
    ("x-token".toList, [0x31]) ∈ applyAll twoLines (proxyEdits id none anonymous plainServer 10 twoLines) ∧
    (∀ edit ∈ proxyEdits id none anonymous plainServer 10 twoLines, edit.key ≠ "x-token".toList) ∧
    ("x-token".toList, [0x31]) ∈ cleanResponseHeaders twoLines ∧
    ∀ edit ∈ stripHops twoLines ++ [.remove "server".toList], edit.key ≠ "x-token".toList := by
  have sent : ("x-token".toList, [0x31]) ∈ twoLines := by decide
  have request : ∀ edit ∈ proxyEdits id none anonymous plainServer 10 twoLines, edit.key ≠ "x-token".toList := by
    intro edit member same
    exact absurd ((edited_iff _ _ _ _ _ _ _).mp ⟨edit, member, same⟩) (by decide +kernel)
  have answer : ∀ edit ∈ stripHops twoLines ++ [.remove "server".toList], edit.key ≠ "x-token".toList := by
    decide +kernel
  exact ⟨⟨utf8 "x-token".toList, by decide +kernel, by decide +kernel⟩, prepareProxyHeaders_eq _ _ _ _ rfl,
    mem_applyAll_of_unedited _ _ _ sent request, request, mem_applyAll_of_unedited _ _ _ sent answer, answer⟩

end Praeco.Router.HopByHop
