import Praeco.Idp.SessionSafety
import Praeco.Rates.Windows
import Praeco.Schedule.Sequential

/-! What the session store bounds when its calls come one after the other: its sessions, the addresses in its rate
table, and the sessions that are created for an address in any minute. -/

namespace Praeco.Idp.SessionLimits
open Praeco.Strings Utf8 Praeco.Net.Address Praeco.Jwt.Token Praeco.Collections.Map Praeco.Rates.Windows
open Praeco.Schedule.Runs Praeco.Schedule.Interleaving Praeco.Schedule.Sequential
open Praeco.Idp.Session Praeco.Idp.SessionSteps
open Praeco.Idp.SessionSafety (SessionSystem)

def initial (ttlSeconds maxActiveSessions now : Nat) : SessionSystem :=
  ⟨now, { SessionStore.new ttlSeconds now with maxActiveSessions }, [], []⟩

def createdBy (ip : IpAddr) : Access → Option Nat
  | .create request (.insert createdAt) => if request.clientIp = some ip then some createdAt else none
  | _ => none

def created (history : List (Nat × Access)) (ip : IpAddr) : List Nat :=
  history.filterMap fun made => createdBy ip made.2

def createdIn (history : List (Nat × Access)) (ip : IpAddr) (since : Nat) : List Nat :=
  (created history ip).filter fun time => since ≤ time ∧ time ≤ since + 60 * second

/-- The counter of the address, if the next access of a call adds to it. -/
def rateCounter (ip : IpAddr) (system : SessionSystem) (index : Nat) : Option (UInt32 × Nat) :=
  match (system.threads[index]?).map Thread.progress with
  | some (.running (.create request .rateEntry)) =>
    if request.clientIp = some ip then system.shared.ipRateLimits.lookup ip else none
  | _ => none

def CountFits (ip : IpAddr) (system : SessionSystem) : Label Call → Prop
  | .move index => ∀ entry ∈ rateCounter ip system index, system.clock - entry.2 ≤ rateLimitWindow →
    entry.1.toNat + 1 < 2 ^ 32
  | _ => True

instance (ip : IpAddr) (system : SessionSystem) : (label : Label Call) → Decidable (CountFits ip system label)
  | .move _ => inferInstanceAs (Decidable (∀ entry ∈ _, _))
  | .tick _ => .isTrue trivial
  | .call _ => .isTrue trivial

def Resumes (phase : CreatePhase) : Prop := (∃ again, phase = .rateKnown again) ∨ ∃ again, phase = .sessionsLen again

def Ready (store : SessionStore) : Access → Prop
  | .create _ (.retainSessions next) => Resumes next
  | .create _ (.retainRates next) => Resumes next
  | .create request .rateEntry => ∀ ip, request.clientIp = some ip → ip ∈ store.ipRateLimits ∨
    store.ipRateLimits.entries.length < store.maxActiveSessions * 2
  | .create _ .readClock => store.sessions.entries.length < store.maxActiveSessions
  | .create _ (.insert _) => store.sessions.entries.length < store.maxActiveSessions
  | _ => True

structure Bounded (store : SessionStore) : Prop where
  sessions : store.sessions.entries.length ≤ store.maxActiveSessions
  addresses : store.ipRateLimits.entries.length ≤ store.maxActiveSessions * 2

def ReadyNext (store : SessionStore) (current : Option Access) : Prop :=
  ∀ access, current = some access → Ready store access

section

variable {now : Nat} {store : SessionStore}

theorem resumes_ratePhase (request : CreateRequest) : Resumes (ratePhase request) := by
  unfold ratePhase
  split_ifs
  · exact Or.inl ⟨false, rfl⟩
  · exact Or.inr ⟨false, rfl⟩

theorem Resumes.ready {phase : CreatePhase} (resumes : Resumes phase) (store : SessionStore) (request : CreateRequest) :
    Ready store (.create request phase) := by
  rcases resumes with ⟨again, rfl⟩ | ⟨again, rfl⟩
  · exact trivial
  · exact trivial

theorem readyNext_running {store : SessionStore} {access : Access} (ready : Ready store access) :
    ReadyNext store (next (.running access : Progress Access Answer)) := by
  intro other same
  cases same
  exact ready

theorem readyNext_answered (store : SessionStore) (answer : Answer) : ReadyNext store (next (.answered answer)) := nofun

def countFor (now : Nat) (store : SessionStore) (ip : IpAddr) : SessionStore :=
  { store with ipRateLimits := store.ipRateLimits.insert ip (countRequest now (store.ipRateLimits.lookup ip)) }

theorem performCreate_rateEntry {request : CreateRequest} {ip : IpAddr} (client : request.clientIp = some ip) :
    performCreate now store request .rateEntry = (countFor now store ip,
      if maxLoginRequestsPerMinute < (countRequest now (store.ipRateLimits.lookup ip)).1 then
        .answered (.created (.error .rateLimited))
      else .running (.create request (.sessionsLen false))) := by
  unfold performCreate
  rw [client]
  dsimp only
  split_ifs
  · rfl
  · rfl

theorem performCreate_rateEntry_unknown {request : CreateRequest} (client : request.clientIp = none) :
    performCreate now store request .rateEntry = (store, .running (.create request (.sessionsLen false))) := by
  rw [performCreate, client]

structure Advances (store : SessionStore) (result : SessionStore × Progress Access Answer) : Prop where
  bounded : Bounded result.1
  capacity : result.1.maxActiveSessions = store.maxActiveSessions
  ready : ReadyNext result.1 (next result.2)

theorem performCreate_bounded (request : CreateRequest) (phase : CreatePhase) (bounded : Bounded store)
    (ready : Ready store (.create request phase)) : Advances store (performCreate now store request phase) := by
  cases phase with
  | lockCleanup =>
    dsimp only [performCreate]
    split_ifs
    · exact ⟨bounded, rfl, readyNext_running ((resumes_ratePhase request).ready _ _)⟩
    · exact ⟨⟨bounded.1, bounded.2⟩, rfl, readyNext_running trivial⟩
    · exact ⟨⟨bounded.1, bounded.2⟩, rfl, readyNext_running trivial⟩
  | unlockCleanup due =>
    refine ⟨⟨bounded.1, bounded.2⟩, rfl, readyNext_running ?_⟩
    cases due with
    | false => exact (resumes_ratePhase request).ready _ _
    | true => exact resumes_ratePhase request
  | retainSessions next =>
    exact ⟨⟨(length_retain_le _ _).trans bounded.1, bounded.2⟩, rfl, readyNext_running ready⟩
  | retainRates next =>
    exact ⟨⟨bounded.1, (length_retain_le _ _).trans bounded.2⟩, rfl, readyNext_running (Resumes.ready ready _ _)⟩
  | rateKnown again =>
    dsimp only [performCreate]
    split_ifs with known
    · refine ⟨bounded, rfl, readyNext_running ?_⟩
      intro ip same
      rw [same, Option.bind_some] at known
      exact Or.inl (AList.lookup_isSome.mp known)
    · exact ⟨bounded, rfl, readyNext_running trivial⟩
  | rateLen again =>
    dsimp only [performCreate]
    split_ifs with full
    · exact ⟨bounded, rfl, readyNext_answered _ _⟩
    · exact ⟨bounded, rfl, readyNext_running (Or.inl ⟨true, rfl⟩)⟩
    · exact ⟨bounded, rfl, readyNext_running fun _ _ => Or.inr (Nat.lt_of_not_le full)⟩
  | rateEntry =>
    cases client : request.clientIp with
    | none =>
      rw [performCreate_rateEntry_unknown client]
      exact ⟨bounded, rfl, readyNext_running trivial⟩
    | some ip =>
      have fits : Bounded (countFor now store ip) := by
        refine ⟨bounded.1, ?_⟩
        rcases ready ip client with known | room
        · obtain ⟨found, present⟩ := Option.isSome_iff_exists.mp (AList.lookup_isSome.mpr known)
          exact (length_insert_present _ _ _ found present).trans_le bounded.2
        · exact (length_insert_le _ _ _).trans room
      rw [performCreate_rateEntry client]
      refine ⟨fits, rfl, ?_⟩
      dsimp only
      split_ifs
      · exact readyNext_answered _ _
      · exact readyNext_running trivial
  | sessionsLen again =>
    dsimp only [performCreate]
    split_ifs with full
    · exact ⟨bounded, rfl, readyNext_answered _ _⟩
    · exact ⟨bounded, rfl, readyNext_running (Or.inr ⟨true, rfl⟩)⟩
    · exact ⟨bounded, rfl, readyNext_running (Nat.lt_of_not_le full)⟩
  | readClock => exact ⟨bounded, rfl, readyNext_running ready⟩
  | insert createdAt =>
    exact ⟨⟨(length_insert_le _ _ _).trans ready, bounded.2⟩, rfl, readyNext_answered _ _⟩

/-- What the calls other than creations may change: no session is added, and of the rate table only what has run out is
dropped. -/
structure Bystands (now : Nat) (store : SessionStore) (result : SessionStore × Progress Access Answer) : Prop where
  sessions : result.1.sessions.entries.length ≤ store.sessions.entries.length
  rates : result.1.ipRateLimits = store.ipRateLimits ∨ result.1.ipRateLimits = (store.retainRates now).ipRateLimits
  capacity : result.1.maxActiveSessions = store.maxActiveSessions
  other : ∀ request phase, next result.2 ≠ some (.create request phase)

theorem bystands_insert {sessionId : Text} {entry : SessionEntry} (added : SessionEntry)
    {progress : Progress Access Answer} (known : store.sessions.lookup sessionId = some entry)
    (other : ∀ request phase, next progress ≠ some (.create request phase)) :
    Bystands now store (store.insert sessionId added, progress) :=
  ⟨(length_insert_present _ _ _ entry known).le, Or.inl rfl, rfl, other⟩

theorem bystands_remove (sessionId : Text) {progress : Progress Access Answer}
    (other : ∀ request phase, next progress ≠ some (.create request phase)) :
    Bystands now store (store.remove sessionId, progress) :=
  ⟨length_erase_le _ _, Or.inl rfl, rfl, other⟩

theorem bystands_same {progress : Progress Access Answer}
    (other : ∀ request phase, next progress ≠ some (.create request phase)) : Bystands now store (store, progress) :=
  ⟨Nat.le_refl _, Or.inl rfl, rfl, other⟩

theorem perform_bystands (now : Nat) (store : SessionStore) (access : Access)
    (other : ∀ request phase, access ≠ .create request phase) : Bystands now store (perform now store access) := by
  have spec := perform_cases now store access
  generalize perform now store access = result at spec
  cases spec with
  | create _ => exact absurd rfl (other _ _)
  | checkCode spec =>
    cases spec with
    | missing _ => exact bystands_same nofun
    | expired _ _ => exact bystands_same nofun
    | settled _ _ => exact bystands_same nofun
    | verified _ _ _ _ => exact bystands_same nofun
    | cleared _ _ _ _ _ => exact bystands_same nofun
    | counted entry known _ _ => exact bystands_insert _ known nofun
    | locked entry known _ _ => exact bystands_insert _ known nofun
  | confirm spec =>
    cases spec with
    | missing _ => exact bystands_same nofun
    | settled _ _ _ => exact bystands_same nofun
    | attached entry known _ => exact bystands_insert _ known nofun
  | poll spec =>
    cases spec with
    | missing _ => exact bystands_same nofun
    | refused _ _ => exact bystands_same nofun
    | expired _ _ => exact bystands_same nofun
    | pending _ _ => exact bystands_same nofun
    | cleared _ _ _ _ => exact bystands_same nofun
  | consume spec =>
    cases spec with
    | missing => exact bystands_same nofun
    | taken entry claims _ _ _ => exact bystands_remove _ nofun
  | removeExpired => exact bystands_remove _ nofun
  | removeLocked => exact bystands_remove _ nofun
  | pollRemove => exact bystands_remove _ nofun
  | readUserCode code => exact bystands_same nofun
  | retainSessions => exact ⟨length_retain_le _ _, Or.inl rfl, rfl, nofun⟩
  | retainRates => exact ⟨Nat.le_refl _, Or.inr rfl, rfl, nofun⟩

theorem perform_bounded (now : Nat) (access : Access) (bounded : Bounded store) (ready : Ready store access) :
    Advances store (perform now store access) := by
  by_cases creates : ∃ request phase, access = .create request phase
  · obtain ⟨request, phase, rfl⟩ := creates
    exact performCreate_bounded request phase bounded ready
  · have bystands := perform_bystands now store access fun request phase same => creates ⟨request, phase, same⟩
    refine ⟨⟨?_, ?_⟩, bystands.capacity, ?_⟩
    · rw [bystands.capacity]
      exact bystands.sessions.trans bounded.1
    · rw [bystands.capacity]
      rcases bystands.rates with same | same
      · rw [same]
        exact bounded.2
      · rw [same]
        exact (length_retain_le _ _).trans bounded.2
    · intro later continues
      cases later with
      | create request phase => exact absurd continues (bystands.other request phase)
      | _ => exact trivial

end

def counter (store : SessionStore) (ip : IpAddr) : Option (Nat × Nat) :=
  (store.ipRateLimits.lookup ip).map fun (count, start) => (count.toNat, start)

def admits : CreatePhase → Bool
  | .sessionsLen _ => true
  | .readClock => true
  | .insert _ => true
  | .retainSessions next => admits next
  | .retainRates next => admits next
  | _ => false

def AdmittedFor (ip : IpAddr) : Option Access → Prop
  | some (.create request phase) => request.clientIp = some ip ∧ admits phase = true
  | _ => False

def limit : Nat := maxLoginRequestsPerMinute.toNat

/-- The sessions of an address are those that its counter has admitted. -/
structure Tracks (ip : IpAddr) (now : Nat) (store : SessionStore) (history : List (Nat × Access))
    (current : Option Access) (marks : List Mark) (pending : Option Nat) : Prop where
  times : marks.map Mark.time = created history ip
  ledger : Ledger rateLimitWindow limit marks pending now (counter store ip)
  admitted : AdmittedFor ip current → pending.isSome
  begun : ∀ request createdAt, current = some (.create request (.insert createdAt)) →
    createdAt ≤ now ∧ ∀ start, pending = some start → start ≤ createdAt

section

variable {ip : IpAddr} {now : Nat} {store : SessionStore} {history : List (Nat × Access)} {current : Option Access}
  {marks : List Mark} {pending : Option Nat}

theorem created_made (history : List (Nat × Access)) (index : Nat) (accesses : List Access) :
    created (history ++ accesses.map (index, ·)) ip = created history ip ++ accesses.filterMap (createdBy ip) := by
  unfold created
  rw [List.filterMap_append, List.filterMap_map]
  rfl

theorem created_append (history : List (Nat × Access)) (index : Nat) (access : Access) :
    created (history ++ [(index, access)]) ip = created history ip ++ (createdBy ip access).toList := by
  refine (created_made history index [access]).trans ?_
  rw [List.filterMap_cons]
  cases createdBy ip access with
  | none => rfl
  | some createdAt => rfl

theorem Tracks.later {time : Nat} (tracks : Tracks ip now store history current marks pending) (order : now ≤ time) :
    Tracks ip time store history current marks pending := by
  refine ⟨tracks.times, tracks.ledger.later order, tracks.admitted, ?_⟩
  intro request createdAt same
  obtain ⟨past, begun⟩ := tracks.begun request createdAt same
  exact ⟨past.trans order, begun⟩

theorem counter_retainRates (ledger : Ledger rateLimitWindow limit marks pending now (counter store ip)) :
    Ledger rateLimitWindow limit marks pending now (counter (store.retainRates now) ip) := by
  have found : (store.retainRates now).ipRateLimits.lookup ip =
      (store.ipRateLimits.lookup ip).filter fun (_, start) => now - start ≤ rateLimitWindow := lookup_retain _ _ _
  unfold counter at ledger ⊢
  rw [found]
  cases known : store.ipRateLimits.lookup ip with
  | none =>
    rw [known] at ledger
    exact ledger
  | some entry =>
    rw [known] at ledger
    by_cases fresh : now - entry.2 ≤ rateLimitWindow
    · rw [Option.filter_some_pos (by simpa using fresh)]
      exact ledger
    · rw [Option.filter_some_neg (by simpa using fresh)]
      exact ledger.drop (Nat.lt_of_not_le fresh)

theorem Tracks.carry (tracks : Tracks ip now store history current marks pending) {after : SessionStore} {index : Nat}
    {access : Access} {later : Option Access} (none : createdBy ip access = none)
    (rates : after.ipRateLimits.lookup ip = store.ipRateLimits.lookup ip ∨
      after.ipRateLimits = (store.retainRates now).ipRateLimits)
    (admitted : AdmittedFor ip later → AdmittedFor ip current)
    (timely : ∀ request createdAt, later = some (.create request (.insert createdAt)) → createdAt = now) :
    Tracks ip now after (history ++ [(index, access)]) later marks pending := by
  refine ⟨?_, ?_, fun next => tracks.admitted (admitted next), ?_⟩
  · rw [created_append, none, Option.toList_none, List.append_nil]
    exact tracks.times
  · rcases rates with same | same
    · rw [counter, same]
      exact tracks.ledger
    · rw [counter, same]
      exact counter_retainRates tracks.ledger
  · intro request createdAt same
    obtain rfl := timely request createdAt same
    exact ⟨Nat.le_refl _, fun start known => (tracks.ledger.admitted start known).1⟩

def Below (now : Nat) (store : SessionStore) (ip : IpAddr) : Prop :=
  ∀ count start, store.ipRateLimits.lookup ip = some (count, start) → now - start ≤ rateLimitWindow →
    count.toNat + 1 < 2 ^ 32

theorem countRequest_eq (below : Below now store ip) :
    ((countRequest now (store.ipRateLimits.lookup ip)).1.toNat, (countRequest now (store.ipRateLimits.lookup ip)).2) =
      counted rateLimitWindow now (counter store ip) := by
  unfold counted countRequest counter
  cases known : store.ipRateLimits.lookup ip with
  | none => simp
  | some entry =>
    obtain ⟨count, start⟩ := entry
    rw [Option.map_some, Option.getD_some, Option.getD_some]
    dsimp only
    split_ifs with ended
    · rfl
    · have small := below count start known (Nat.le_of_not_lt ended)
      rw [UInt32.toNat_add, UInt32.toNat_one, Nat.mod_eq_of_lt small]

theorem counter_countFor (below : Below now store ip) :
    counter (countFor now store ip) ip = some (counted rateLimitWindow now (counter store ip)) := by
  have stored : (countFor now store ip).ipRateLimits.lookup ip =
      some (countRequest now (store.ipRateLimits.lookup ip)) := AList.lookup_insert _
  rw [counter, stored, ← countRequest_eq below]
  rfl

theorem Tracks.request {request : CreateRequest} (tracks : Tracks ip now store history current marks pending)
    (below : Below now store ip) (client : request.clientIp = some ip) (index : Nat) :
    ∃ pending, Tracks ip now (performCreate now store request .rateEntry).1
      (history ++ [(index, .create request .rateEntry)]) (next (performCreate now store request .rateEntry).2) marks
      pending := by
  have times : marks.map Mark.time = created (history ++ [(index, .create request .rateEntry)]) ip := by
    rw [created_append]
    exact tracks.times.trans (List.append_nil _).symm
  have ledger := tracks.ledger.abandoned
  rw [performCreate_rateEntry client]
  dsimp only
  split_ifs with full
  · exact ⟨none, times, counter_countFor below ▸ ledger.refuse, nofun, nofun⟩
  · refine ⟨some (counted rateLimitWindow now (counter store ip)).2, times, ?_, fun _ => rfl, nofun⟩
    rw [counter_countFor below]
    apply ledger.accept
    rw [← countRequest_eq below]
    exact UInt32.le_iff_toNat_le.mp (UInt32.not_lt.mp full)

theorem Tracks.recorded {request : CreateRequest} {createdAt : Nat}
    (tracks : Tracks ip now store history (some (.create request (.insert createdAt))) marks pending)
    (client : request.clientIp = some ip) (index : Nat) :
    ∃ marks, Tracks ip now (performCreate now store request (.insert createdAt)).1
      (history ++ [(index, .create request (.insert createdAt))]) none marks none := by
  obtain ⟨start, rfl⟩ := Option.isSome_iff_exists.mp (tracks.admitted ⟨client, rfl⟩)
  obtain ⟨past, begun⟩ := tracks.begun request createdAt rfl
  refine ⟨marks ++ [⟨start, createdAt⟩], ?_, tracks.ledger.record (begun start rfl) past, nofun, nofun⟩
  rw [created_append, createdBy, if_pos client, List.map_append, tracks.times]
  rfl

theorem not_admitted_ratePhase {request : CreateRequest} (client : request.clientIp = some ip) :
    admits (ratePhase request) ≠ true := by
  rw [ratePhase, client]
  nofun

theorem Resumes.timely {phase : CreatePhase} (resumes : Resumes phase) (request other : CreateRequest) (createdAt : Nat)
    (same : some (Access.create request phase) = some (.create other (.insert createdAt))) : createdAt = now := by
  rcases resumes with ⟨again, rfl⟩ | ⟨again, rfl⟩
  · cases same
  · cases same

/-- A creation keeps track of the sessions of every address. -/
theorem performCreate_tracks {request : CreateRequest} {phase : CreatePhase}
    (tracks : Tracks ip now store history (some (.create request phase)) marks pending)
    (ready : Ready store (.create request phase))
    (below : phase = .rateEntry → request.clientIp = some ip → Below now store ip) (index : Nat) :
    ∃ marks pending, Tracks ip now (performCreate now store request phase).1
      (history ++ [(index, .create request phase)]) (next (performCreate now store request phase).2) marks pending := by
  cases phase with
  | lockCleanup =>
    dsimp only [performCreate]
    split_ifs
    · exact ⟨_, _, tracks.carry rfl (Or.inl rfl) (fun passed => absurd passed.2 (not_admitted_ratePhase passed.1))
        ((resumes_ratePhase request).timely request)⟩
    · exact ⟨_, _, tracks.carry rfl (Or.inl rfl) (fun passed => nomatch passed.2) nofun⟩
    · exact ⟨_, _, tracks.carry rfl (Or.inl rfl) (fun passed => nomatch passed.2) nofun⟩
  | unlockCleanup due =>
    cases due with
    | false =>
      exact ⟨_, _, tracks.carry rfl (Or.inl rfl) (fun passed => absurd passed.2 (not_admitted_ratePhase passed.1))
        ((resumes_ratePhase request).timely request)⟩
    | true =>
      exact ⟨_, _, tracks.carry rfl (Or.inl rfl) (fun passed => absurd passed.2 (not_admitted_ratePhase passed.1))
        nofun⟩
  | retainSessions next => exact ⟨_, _, tracks.carry rfl (Or.inl rfl) id nofun⟩
  | retainRates next => exact ⟨_, _, tracks.carry rfl (Or.inr rfl) id (Resumes.timely ready request)⟩
  | rateKnown again =>
    dsimp only [performCreate]
    split_ifs
    · exact ⟨_, _, tracks.carry rfl (Or.inl rfl) (fun passed => nomatch passed.2) nofun⟩
    · exact ⟨_, _, tracks.carry rfl (Or.inl rfl) (fun passed => nomatch passed.2) nofun⟩
  | rateLen again =>
    dsimp only [performCreate]
    split_ifs
    · exact ⟨_, _, tracks.carry rfl (Or.inl rfl) nofun nofun⟩
    · exact ⟨_, _, tracks.carry rfl (Or.inl rfl) (fun passed => nomatch passed.2) nofun⟩
    · exact ⟨_, _, tracks.carry rfl (Or.inl rfl) (fun passed => nomatch passed.2) nofun⟩
  | rateEntry =>
    by_cases client : request.clientIp = some ip
    · obtain ⟨pending, tracks⟩ := tracks.request (below rfl client) client index
      exact ⟨marks, pending, tracks⟩
    · cases known : request.clientIp with
      | none =>
        rw [performCreate_rateEntry_unknown known]
        exact ⟨_, _, tracks.carry rfl (Or.inl rfl) (fun passed => absurd passed.1 client) nofun⟩
      | some other =>
        have differs : ip ≠ other := fun same => client (same ▸ known)
        rw [performCreate_rateEntry known]
        dsimp only
        split_ifs
        · exact ⟨_, _, tracks.carry rfl (Or.inl (AList.lookup_insert_ne differs)) nofun nofun⟩
        · exact ⟨_, _, tracks.carry rfl (Or.inl (AList.lookup_insert_ne differs)) (fun passed => absurd passed.1 client)
            nofun⟩
  | sessionsLen again =>
    dsimp only [performCreate]
    split_ifs
    · exact ⟨_, _, tracks.carry rfl (Or.inl rfl) nofun nofun⟩
    · exact ⟨_, _, tracks.carry rfl (Or.inl rfl) id nofun⟩
    · exact ⟨_, _, tracks.carry rfl (Or.inl rfl) id nofun⟩
  | readClock =>
    refine ⟨_, _, tracks.carry rfl (Or.inl rfl) id ?_⟩
    intro _ _ same
    cases same
    rfl
  | insert createdAt =>
    by_cases client : request.clientIp = some ip
    · obtain ⟨marks, tracks⟩ := tracks.recorded client index
      exact ⟨marks, none, tracks⟩
    · exact ⟨_, _, tracks.carry (if_neg client) (Or.inl rfl) nofun nofun⟩

theorem perform_tracks {access : Access} (tracks : Tracks ip now store history (some access) marks pending)
    (ready : Ready store access)
    (below : ∀ request, access = .create request .rateEntry → request.clientIp = some ip → Below now store ip)
    (index : Nat) :
    ∃ marks pending, Tracks ip now (perform now store access).1 (history ++ [(index, access)])
      (next (perform now store access).2) marks pending := by
  by_cases creates : ∃ request phase, access = .create request phase
  · obtain ⟨request, phase, rfl⟩ := creates
    exact performCreate_tracks tracks ready (fun same => below request (same ▸ rfl)) index
  · have other : ∀ request phase, access ≠ .create request phase := fun request phase same =>
      creates ⟨request, phase, same⟩
    have bystands := perform_bystands now store access other
    have nothing : createdBy ip access = none := by
      cases access with
      | create request phase => exact absurd rfl (other request phase)
      | _ => rfl
    refine ⟨marks, pending, tracks.carry nothing ?_ ?_ ?_⟩
    · rcases bystands.rates with same | same
      · exact Or.inl (congrArg (fun rates => rates.lookup ip) same)
      · exact Or.inr same
    · intro passed
      cases later : next (perform now store access).2 with
      | none =>
        rw [later] at passed
        exact passed.elim
      | some continued =>
        rw [later] at passed
        cases continued with
        | create request phase => exact absurd later (bystands.other request phase)
        | _ => exact passed.elim
    · intro request createdAt same
      exact absurd same (bystands.other request _)

end

structure Bounds (ttlSeconds maxActiveSessions : Nat) (store : SessionStore) (current : Option Access) : Prop where
  ttl : store.ttl = ttlSeconds * second
  capacity : store.maxActiveSessions = maxActiveSessions
  bounded : Bounded store
  ready : ReadyNext store current

section

variable {ttlSeconds maxActiveSessions now : Nat} {store : SessionStore} {system : SessionSystem}

theorem bounds_initial (ttlSeconds maxActiveSessions now : Nat) :
    Bounds ttlSeconds maxActiveSessions (initial ttlSeconds maxActiveSessions now).shared none :=
  ⟨rfl, rfl, ⟨Nat.zero_le _, Nat.zero_le _⟩, nofun⟩

theorem Bounds.start (bounds : Bounds ttlSeconds maxActiveSessions store none) (call : Call) :
    Bounds ttlSeconds maxActiveSessions store (some (sessionStore.start call)) := by
  refine ⟨bounds.ttl, bounds.capacity, bounds.bounded, ?_⟩
  intro access same
  cases same
  cases call
  all_goals exact trivial

theorem Bounds.perform {access : Access} (bounds : Bounds ttlSeconds maxActiveSessions store (some access))
    (now : Nat) :
    Bounds ttlSeconds maxActiveSessions (sessionStore.perform now store access).1
      (next (sessionStore.perform now store access).2) := by
  have advances := perform_bounded now access bounds.bounded (bounds.ready access rfl)
  exact ⟨(perform_ttl _ _ _).trans bounds.ttl, advances.capacity.trans bounds.capacity, advances.bounded,
    advances.ready⟩

theorem reachable_bounds
    (reachable : Reachable (step sessionStore) InTurn (initial ttlSeconds maxActiveSessions now) system) :
    ∃ current, Alone system current ∧ Bounds ttlSeconds maxActiveSessions system.shared current := by
  apply reachable_sequential (fun _ _ inTurn => inTurn) rfl
    (fun _ store _ current => Bounds ttlSeconds maxActiveSessions store current) _ _ _ _ reachable
  · exact bounds_initial ttlSeconds maxActiveSessions now
  · intro clock time store history current _ bounds
    exact bounds
  · intro clock store history call bounds
    exact bounds.start call
  · intro system index call since access _ _ bounds
    exact bounds.perform system.clock

theorem below_of_countFits {ip : IpAddr} {index : Nat} {call : Call} {since : Nat} {request : CreateRequest}
    (fits : CountFits ip system (.move index)) (client : request.clientIp = some ip)
    (running : system.At index call since (.running (.create request .rateEntry))) :
    Below system.clock system.shared ip := by
  intro count start known
  refine fits (count, start) ?_
  rw [rateCounter, running, Option.map_some]
  exact (if_pos client).trans known

theorem Tracks.start {ip : IpAddr} {history : List (Nat × Access)} {marks : List Mark} {pending : Option Nat}
    (tracks : Tracks ip now store history none marks pending) (call : Call) :
    Tracks ip now store history (some (sessionStore.start call)) marks pending := by
  refine ⟨tracks.times, tracks.ledger, ?_, ?_⟩
  · intro passed
    cases call with
    | createSession request => cases passed.2
    | _ => exact passed.elim
  · intro request createdAt same
    cases call
    all_goals cases same

theorem reachable_tracks {ip : IpAddr}
    (reachable : Reachable (step sessionStore) (fun system label => InTurn system label ∧ CountFits ip system label)
      (initial ttlSeconds maxActiveSessions now) system) :
    ∃ current marks pending, Tracks ip system.clock system.shared system.history current marks pending := by
  suffices held : ∃ current, Alone system current ∧ Bounds ttlSeconds maxActiveSessions system.shared current ∧
      ∃ marks pending, Tracks ip system.clock system.shared system.history current marks pending by
    obtain ⟨current, -, -, tracks⟩ := held
    exact ⟨current, tracks⟩
  apply reachable_sequential (fun _ _ counted => counted.1) rfl (fun clock store history current =>
    Bounds ttlSeconds maxActiveSessions store current ∧
      ∃ marks pending, Tracks ip clock store history current marks pending) _ _ _ _ reachable
  · exact ⟨bounds_initial ttlSeconds maxActiveSessions now, [], none, rfl, .empty _ _ _, nofun, nofun⟩
  · rintro clock time store history current order ⟨bounds, marks, pending, tracks⟩
    exact ⟨bounds, marks, pending, tracks.later order⟩
  · rintro clock store history call ⟨bounds, marks, pending, tracks⟩
    exact ⟨bounds.start call, marks, pending, tracks.start call⟩
  · rintro system index call since access counted running ⟨bounds, marks, pending, tracks⟩
    refine ⟨bounds.perform system.clock, perform_tracks tracks (bounds.ready access rfl) ?_ index⟩
    rintro request rfl client
    exact below_of_countFits counted.2 client running

end

def isCleanup : Access → Bool
  | .retainSessions => true
  | .retainRates => true
  | .create _ (.retainSessions _) => true
  | .create _ (.retainRates _) => true
  | _ => false

theorem cleanup_keeps (now : Nat) (store : SessionStore) {access : Access} (cleans : isCleanup access = true)
    {sessionId : Text} {entry : SessionEntry} (known : store.sessions.lookup sessionId = some entry) :
    (perform now store access).1.sessions.lookup sessionId = some entry ∨ store.ttl < now - entry.createdAt := by
  have swept : (store.retainSessions now).sessions.lookup sessionId = some entry ∨
      store.ttl < now - entry.createdAt := by
    by_cases young : now - entry.createdAt ≤ store.ttl
    · left
      refine (lookup_retain _ _ _).trans ?_
      rw [known, Option.filter_some_pos (by simpa using young)]
    · exact Or.inr (Nat.lt_of_not_le young)
  cases access with
  | retainSessions => exact swept
  | retainRates => exact Or.inl known
  | create request phase =>
    cases phase with
    | retainSessions next => exact swept
    | retainRates next => exact Or.inl known
    | _ => cases cleans
  | _ => cases cleans

/-- In every sequential run the sessions and the addresses stay within their bounds, at most 30 sessions are created for
an address in any 60 seconds as long as its counter does not overflow, and cleanups remove only sessions that are older
than the time to live. -/
theorem session_limits (ttlSeconds maxActiveSessions now : Nat) (labels : List (Label Call))
    (inTurn : Always (step sessionStore) InTurn (initial ttlSeconds maxActiveSessions now) labels) :
    let system := run (step sessionStore) (initial ttlSeconds maxActiveSessions now) labels
    system.shared.sessions.entries.length ≤ maxActiveSessions ∧
    system.shared.ipRateLimits.entries.length ≤ maxActiveSessions * 2 ∧
    (∀ ip, Always (step sessionStore) (CountFits ip) (initial ttlSeconds maxActiveSessions now) labels →
      ∀ since, (createdIn system.history ip since).length ≤ 30) ∧
    ∀ index call since access, system.At index call since (.running access) → isCleanup access = true →
      ∀ sessionId entry, system.shared.sessions.lookup sessionId = some entry →
        (step sessionStore system (.move index)).shared.sessions.lookup sessionId = some entry ∨
          ttlSeconds * second < system.clock - entry.createdAt := by
  intro system
  obtain ⟨current, -, bounds⟩ := reachable_bounds (inTurn.reachable (step sessionStore))
  refine ⟨bounds.capacity ▸ bounds.bounded.sessions, bounds.capacity ▸ bounds.bounded.addresses, ?_, ?_⟩
  · intro ip fits since
    obtain ⟨_, marks, pending, tracks⟩ := reachable_tracks
      ((inTurn.and (step sessionStore) fits).reachable (step sessionStore))
    have few := length_within_le tracks.ledger.spaced (fun mark member => (tracks.ledger.past mark member).1)
      tracks.ledger.limited since
    rw [createdIn, ← tracks.times, List.filter_map, List.length_map]
    exact few
  · intro index call since access running cleans sessionId entry known
    have moved : step sessionStore system (.move index) =
        system.moved sessionStore index ⟨call, since, .running access⟩ access := by
      rw [step, running]
    rw [moved, ← bounds.ttl]
    exact cleanup_keeps system.clock system.shared cleans known

def client : IpAddr := .v4 0

def knock (n : Nat) : CreateRequest := ⟨some client, none, ⟨List.replicate n 's', [], []⟩⟩

/-- Sixteen requests, the last of which is refused, and one more that comes after the time to live and first cleans
up. -/
def busyMinute : List (Label Call) :=
  (List.range 16).flatMap (fun n => block n (.createSession (knock n)) 10) ++
    .tick (301 * second) :: block 16 (.createSession (knock 16)) 10

theorem session_limits_cleanup :
    let system := run (step sessionStore) (initial 300 5000 0) busyMinute
    (system.threads[15]?).map (·.progress) = some (.answered (.created (.error .rateLimited))) ∧
      created system.history client = List.replicate 15 0 ++ [301 * second] ∧
      system.shared.sessions.keys = [(knock 16).info.sessionId] ∧
      system.shared.sessions.entries.length ≤ 5000 ∧ (createdIn system.history client 0).length ≤ 30 := by
  have limits := session_limits 300 5000 0 busyMinute (by decide +kernel)
  exact ⟨by decide +kernel, by decide +kernel, by decide +kernel, limits.1, limits.2.2.1 client (by decide +kernel) 0⟩

section

variable {now : Nat} {store after : SessionStore} {request : CreateRequest} {ip : IpAddr} {made : List Access}
  {answer : Answer}

theorem completes_counting (unlocked : store.cleanupLocked = false)
    (early : now - store.lastCleanup < cleanupThrottleInterval) (known : ip ∈ store.ipRateLimits)
    (client : request.clientIp = some ip)
    (completes : Completes sessionStore now store (.create request .rateEntry) made after answer) :
    Completes sessionStore now store (.create request .lockCleanup) (.create request .lockCleanup ::
      .create request (.unlockCleanup false) :: .create request (.rateKnown false) :: made) after answer := by
  have locks : sessionStore.perform now store (.create request .lockCleanup) =
      ({ store with cleanupLocked := true }, .running (.create request (.unlockCleanup false))) := by
    refine (if_neg ?_).trans (if_neg (Nat.not_le.mpr early))
    rw [unlocked]
    exact Bool.false_ne_true
  have unlocks : sessionStore.perform now { store with cleanupLocked := true }
      (.create request (.unlockCleanup false)) = (store, .running (.create request (.rateKnown false))) := by
    change ({ store with cleanupLocked := false }, Progress.running (Access.create request (ratePhase request))) = _
    rw [ratePhase, client, ← unlocked]
    rfl
  have knows : sessionStore.perform now store (.create request (.rateKnown false)) =
      (store, .running (.create request .rateEntry)) := by
    refine if_pos ?_
    rw [client]
    exact AList.lookup_isSome.mpr known
  exact .running locks (.running unlocks (.running knows completes))

theorem completes_refused (client : request.clientIp = some ip)
    (full : maxLoginRequestsPerMinute < (countRequest now (store.ipRateLimits.lookup ip)).1) :
    Completes sessionStore now store (.create request .rateEntry) [.create request .rateEntry]
      (countFor now store ip) (.created (.error .rateLimited)) := by
  refine .answered ((performCreate_rateEntry client).trans ?_)
  rw [if_pos full]

theorem completes_created (client : request.clientIp = some ip)
    (fits : ¬maxLoginRequestsPerMinute < (countRequest now (store.ipRateLimits.lookup ip)).1)
    (room : store.sessions.entries.length < store.maxActiveSessions) :
    Completes sessionStore now store (.create request .rateEntry) [.create request .rateEntry,
      .create request (.sessionsLen false), .create request .readClock, .create request (.insert now)]
      ((countFor now store ip).insert request.info.sessionId (newEntry request now)) (.created (.ok request.info)) := by
  have counts : sessionStore.perform now store (.create request .rateEntry) =
      (countFor now store ip, .running (.create request (.sessionsLen false))) := by
    refine (performCreate_rateEntry client).trans ?_
    rw [if_neg fits]
  have free : sessionStore.perform now (countFor now store ip) (.create request (.sessionsLen false)) =
      (countFor now store ip, .running (.create request .readClock)) := if_neg (Nat.not_le.mpr room)
  exact .running counts (.running free (.running rfl (.answered rfl)))

end

/-- The address has made requests at the time of the last cleanup; the counter holds their number modulo its range. -/
structure Knocked (count made : Nat) (system : SessionSystem) : Prop where
  answered : system.threads.all (fun thread => (next thread.progress).isNone) = true
  clock : system.clock = 0
  unlocked : system.shared.cleanupLocked = false
  cleaned : system.shared.lastCleanup = 0
  capacity : system.shared.maxActiveSessions = 5000
  counter : system.shared.ipRateLimits.lookup client = some (UInt32.ofNat count, 0)
  sessions : system.shared.sessions.entries.length ≤ made
  times : created system.history client = List.replicate made 0

def LeadsTo (system : SessionSystem) (goal : SessionSystem → Prop) : Prop :=
  ∃ labels, Always (step sessionStore) InTurn system labels ∧ goal (run (step sessionStore) system labels)

theorem LeadsTo.trans {system : SessionSystem} {middle goal : SessionSystem → Prop} (first : LeadsTo system middle)
    (second : ∀ reached, middle reached → LeadsTo reached goal) : LeadsTo system goal := by
  obtain ⟨labels, along, reached⟩ := first
  obtain ⟨more, further, done⟩ := second _ reached
  refine ⟨labels ++ more, (always_append _ _ _ _ _).mpr ⟨along, further⟩, ?_⟩
  rw [run_append]
  exact done

theorem leadsTo_first : LeadsTo (initial 300 5000 0) (Knocked 1 1) := by
  refine ⟨block 0 (.createSession (knock 0)) 8, by decide, ?_⟩
  constructor
  all_goals decide

section

variable {count made : Nat} {system : SessionSystem}

theorem Knocked.known (knocked : Knocked count made system) : client ∈ system.shared.ipRateLimits := by
  rw [← AList.lookup_isSome, knocked.counter]
  rfl

theorem Knocked.early (knocked : Knocked count made system) :
    system.clock - system.shared.lastCleanup < cleanupThrottleInterval := by
  rw [knocked.clock]
  exact Nat.lt_of_le_of_lt (Nat.sub_le _ _) (by decide)

theorem Knocked.counts (knocked : Knocked count made system) :
    countRequest system.clock (system.shared.ipRateLimits.lookup client) = (UInt32.ofNat (count + 1), 0) := by
  rw [knocked.counter, knocked.clock, UInt32.ofNat_add]
  rfl

theorem Knocked.call (knocked : Knocked count made system) (more : Nat) {accesses : List Access} {after : SessionStore}
    {answer : Answer}
    (completes : Completes sessionStore system.clock system.shared (.create (knock made) .rateEntry) accesses after
      answer)
    (unlocked : after.cleanupLocked = false) (cleaned : after.lastCleanup = 0)
    (capacity : after.maxActiveSessions = 5000)
    (counter : after.ipRateLimits.lookup client = some (UInt32.ofNat (count + 1), 0))
    (sessions : after.sessions.entries.length ≤ made + more)
    (times : accesses.filterMap (createdBy client) = List.replicate more 0) :
    LeadsTo system (Knocked (count + 1) (made + more)) := by
  have whole := completes_counting knocked.unlocked knocked.early knocked.known rfl completes
  have started : sessionStore.start (.createSession (knock made)) = .create (knock made) .lockCleanup := rfl
  obtain ⟨along, reached⟩ := run_block knocked.answered (started ▸ whole)
  refine ⟨_, along, ?_⟩
  rw [reached]
  refine ⟨?_, knocked.clock, unlocked, cleaned, capacity, counter, sessions, ?_⟩
  · rw [List.all_append, knocked.answered]
    rfl
  · rw [created_made, knocked.times]
    change List.replicate made 0 ++ accesses.filterMap (createdBy client) = _
    rw [times, List.replicate_append_replicate]

theorem leadsTo_refused (knocked : Knocked count made system) (full : 15 ≤ count) (fits : count + 1 < 2 ^ 32) :
    LeadsTo system (Knocked (count + 1) made) := by
  have above : maxLoginRequestsPerMinute <
      (countRequest system.clock (system.shared.ipRateLimits.lookup client)).1 := by
    rw [knocked.counts, UInt32.lt_iff_toNat_lt, UInt32.toNat_ofNat_of_lt' fits]
    exact Nat.lt_succ_of_le full
  refine knocked.call 0 (completes_refused rfl above) knocked.unlocked knocked.cleaned knocked.capacity ?_
    knocked.sessions rfl
  exact (AList.lookup_insert _).trans (congrArg some knocked.counts)

theorem leadsTo_created (knocked : Knocked count made system) (fits : (count + 1) % 2 ^ 32 ≤ 15) (room : made < 5000) :
    LeadsTo system (Knocked (count + 1) (made + 1)) := by
  have below : ¬maxLoginRequestsPerMinute <
      (countRequest system.clock (system.shared.ipRateLimits.lookup client)).1 := by
    rw [knocked.counts, UInt32.lt_iff_toNat_lt, UInt32.toNat_ofNat']
    exact Nat.not_lt.mpr fits
  have free : system.shared.sessions.entries.length < system.shared.maxActiveSessions := by
    rw [knocked.capacity]
    exact knocked.sessions.trans_lt room
  refine knocked.call 1 (completes_created rfl below free) knocked.unlocked knocked.cleaned knocked.capacity ?_ ?_ ?_
  · exact (AList.lookup_insert _).trans (congrArg some knocked.counts)
  · exact (length_insert_le _ _ _).trans (Nat.add_le_add_right knocked.sessions 1)
  · rw [knocked.clock]
    rfl

end

theorem leadsTo_refusals (more : Nat) {count made : Nat} {system : SessionSystem} (knocked : Knocked count made system)
    (full : 15 ≤ count) (fits : count + more < 2 ^ 32) : LeadsTo system (Knocked (count + more) made) := by
  induction more with
  | zero => exact ⟨[], trivial, knocked⟩
  | succ more ih =>
    apply (ih (by omega)).trans
    intro reached knocked
    exact leadsTo_refused knocked (full.trans (Nat.le_add_right _ _)) fits

theorem leadsTo_creations (more : Nat) {count made : Nat} {system : SessionSystem} (knocked : Knocked count made system)
    (fits : ∀ n < more, (count + n + 1) % 2 ^ 32 ≤ 15) (room : made + more ≤ 5000) :
    LeadsTo system (Knocked (count + more) (made + more)) := by
  induction more with
  | zero => exact ⟨[], trivial, knocked⟩
  | succ more ih =>
    apply (ih (fun n less => fits n (by omega)) (by omega)).trans
    intro reached knocked
    exact leadsTo_created knocked (fits more (Nat.lt_succ_self more)) room

/-- After 2^32 requests the counter of an address has passed its maximum and begins anew: 31 sessions are created at one
time. -/
theorem wrapped_count_admits : ∃ labels, Always (step sessionStore) InTurn (initial 300 5000 0) labels ∧
    (createdIn (run (step sessionStore) (initial 300 5000 0) labels).history client 0).length = 31 := by
  have filled : LeadsTo (initial 300 5000 0) (Knocked 15 15) :=
    leadsTo_first.trans fun _ knocked => leadsTo_creations 14 knocked (by intro n less; omega) (by decide)
  have exhausted : LeadsTo (initial 300 5000 0) (Knocked (2 ^ 32 - 1) 15) :=
    filled.trans fun _ knocked => leadsTo_refusals (2 ^ 32 - 16) knocked le_rfl (by decide)
  obtain ⟨labels, along, knocked⟩ : LeadsTo (initial 300 5000 0) (Knocked (2 ^ 32 - 1 + 16) 31) :=
    exhausted.trans fun _ knocked => leadsTo_creations 16 knocked (by intro n less; omega) (by decide)
  refine ⟨labels, along, ?_⟩
  rw [createdIn, knocked.times]
  rfl

end Praeco.Idp.SessionLimits
