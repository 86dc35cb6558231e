import Praeco.Idp.SessionSafety

/-! The lockout after wrong codes. The count and the removal of a session are two accesses, so the lockout
holds in the interleavings where nothing falls between them. -/

namespace Praeco.Idp.SessionLockout
open Praeco.Strings Utf8 Praeco.Jwt.Token Praeco.Schedule.Runs Praeco.Schedule.Interleaving
open Praeco.Idp.Session Praeco.Idp.SessionSteps Praeco.Idp.SessionSafety

def presentsCode (sessionId : Text) : Call → Bool
  | .verifySessionCode checked _ => checked = sessionId
  | .confirmSession checked _ _ => checked = sessionId
  | _ => false

/-- The call's code has been counted as wrong. -/
def countedWrong : Progress Access Answer → Bool
  | .running (.removeLocked _) => true
  | .answered (.checked (.error .invalidUserCode)) => true
  | _ => false

def wrongCodes (system : SessionSystem) (sessionId : Text) : Nat :=
  system.threads.countP (fun thread => presentsCode sessionId thread.call && countedWrong thread.progress)

def invalidAnswers (system : SessionSystem) (sessionId : Text) : Nat :=
  system.threads.countP (fun thread => presentsCode sessionId thread.call &&
    decide (thread.progress = .answered (.checked (.error .invalidUserCode))))

def presents (sessionId : Text) : Access → Bool
  | .checkCode checked _ _ => checked = sessionId
  | .confirm confirmed _ => confirmed = sessionId
  | _ => false

/-- Session ids are fresh, and no code is checked and nothing confirmed between the count that uses up the attempts
and the removal by the same call. -/
def Guarded (sessionId : Text) (system : SessionSystem) (label : Label Call) : Prop :=
  Fresh system label ∧
    Apart (fun _ access other => presents sessionId access = true → other ≠ .removeLocked sessionId) system label

variable {now : Nat} {store : SessionStore} {access : Access} {result : SessionStore × Progress Access Answer}
  {sessionId : Text}

theorem counted_of_performed (spec : Performed now store access result) (counted : countedWrong result.2 = true) :
    (∃ sessionId, access = .removeLocked sessionId ∧ result.1 = store.remove sessionId) ∨
      ∃ sessionId userCode claims entry, access = .checkCode sessionId userCode claims ∧
        store.sessions.lookup sessionId = some entry ∧ codeMatches entry.userCode userCode = false ∧
        result.1 = store.insert sessionId (countFailure entry) := by
  cases spec with
  | create spec => cases spec <;> cases counted
  | checkCode spec =>
    cases spec with
    | counted entry known wrong below => exact Or.inr ⟨_, _, _, entry, rfl, known, wrong, rfl⟩
    | locked entry known wrong reached => exact Or.inr ⟨_, _, _, entry, rfl, known, wrong, rfl⟩
    | _ => cases counted
  | removeLocked => exact Or.inl ⟨_, rfl, rfl⟩
  | confirm spec => cases spec <;> cases counted
  | poll spec => cases spec <;> cases counted
  | consume spec => cases spec <;> cases counted
  | _ => cases counted

theorem uncounted_of_performed {entry : SessionEntry} (spec : Performed now store access result)
    (uncounted : countedWrong result.2 = false) (found : result.1.sessions.lookup sessionId = some entry) :
    (∃ earlier, store.sessions.lookup sessionId = some earlier ∧ earlier.failedAttempts = entry.failedAttempts) ∨
      ∃ request createdAt, access = .create request (.insert createdAt) ∧ request.info.sessionId = sessionId ∧
        entry.failedAttempts = 0 := by
  cases spec.entryAfter found with
  | kept _ _ known settled => exact Or.inl ⟨entry, known, rfl⟩
  | counted userCode claims earlier known =>
    cases spec with
    | checkCode spec =>
      cases spec with
      | counted _ _ _ _ => cases uncounted
      | locked _ _ _ _ => cases uncounted
      | _ => exact Or.inl ⟨_, found, rfl⟩
  | attached claims earlier known pending => exact Or.inl ⟨earlier, known, rfl⟩
  | inserted request createdAt same => exact Or.inr ⟨request, createdAt, rfl, same, rfl⟩

theorem reached_of_performed {entry : SessionEntry} (spec : Performed now store access result)
    (found : result.1.sessions.lookup sessionId = some entry) (reached : maxConfirmAttempts ≤ entry.failedAttempts) :
    result.2 = .running (.removeLocked sessionId) ∨ access ≠ .removeLocked sessionId ∧
      ∃ earlier, store.sessions.lookup sessionId = some earlier ∧ maxConfirmAttempts ≤ earlier.failedAttempts := by
  cases spec.entryAfter found with
  | kept _ _ known settled =>
    refine .inr ⟨?_, entry, known, reached⟩
    rintro rfl
    cases spec
    exact (lookup_remove_some found).1 rfl
  | counted userCode claims earlier known =>
    cases spec with
    | checkCode spec =>
      cases spec with
      | counted other present wrong below =>
        cases known.symm.trans present
        simp only [countFailure, maxConfirmAttempts] at reached below
        omega
      | locked other present wrong last => exact .inl rfl
      | _ => exact .inr ⟨nofun, _, found, reached⟩
  | attached claims earlier known pending => exact .inr ⟨nofun, earlier, known, reached⟩
  | inserted request createdAt same => exact absurd reached (by decide : ¬maxConfirmAttempts ≤ 0)

theorem fits_presentsCode {call : Call} {checked : Text} {userCode : Option Text} {claims : Option Claims}
    (fit : Fits call (.checkCode checked userCode claims)) :
    presentsCode sessionId call = decide (checked = sessionId) := by
  cases call <;> simp_all [Fits, presentsCode]

section

variable {system : SessionSystem} {sessionId : Text} {moving : Nat} {mover : Call} {arrival : Nat} {access : Access}

theorem wrongCodes_moved (running : system.At moving mover arrival (.running access)) :
    wrongCodes (system.moved sessionStore moving ⟨mover, arrival, .running access⟩ access) sessionId =
      wrongCodes system sessionId -
          (if (presentsCode sessionId mover && countedWrong (.running access)) = true then 1 else 0) +
        (if (presentsCode sessionId mover && countedWrong (perform system.clock system.shared access).2) = true then 1
          else 0) := by
  unfold wrongCodes
  rw [count_moved _ running]
  rfl

theorem wrongCodes_moved_same (running : system.At moving mover arrival (.running access))
    (same : (presentsCode sessionId mover && countedWrong (.running access)) =
      (presentsCode sessionId mover && countedWrong (perform system.clock system.shared access).2)) :
    wrongCodes (system.moved sessionStore moving ⟨mover, arrival, .running access⟩ access) sessionId =
      wrongCodes system sessionId := by
  rw [wrongCodes_moved running, ← same]
  by_cases counted : (presentsCode sessionId mover && countedWrong (.running access)) = true
  · have positive : 0 < wrongCodes system sessionId := count_pos
      (fun thread => presentsCode sessionId thread.call && countedWrong thread.progress) running counted
    rw [if_pos counted]
    omega
  · rw [if_neg counted]
    omega

theorem wrongCodes_moved_succ (running : system.At moving mover arrival (.running access))
    (presents : presentsCode sessionId mover = true) (before : countedWrong (.running access) = false)
    (after : countedWrong (perform system.clock system.shared access).2 = true) :
    wrongCodes (system.moved sessionStore moving ⟨mover, arrival, .running access⟩ access) sessionId =
      wrongCodes system sessionId + 1 := by
  rw [wrongCodes_moved running]
  simp [presents, before, after]

theorem uncounted_running (uncounted : countedWrong (perform system.clock system.shared access).2 = false) :
    countedWrong (.running access) = false := by
  cases access with
  | removeLocked key => cases uncounted
  | _ => rfl

/-- The counter of a session in the store is the number of its wrong codes. -/
structure Tally (system : SessionSystem) (sessionId : Text) : Prop where
  bounded : wrongCodes system sessionId ≤ maxConfirmAttempts
  counter : ∀ entry, system.shared.sessions.lookup sessionId = some entry →
    entry.failedAttempts = wrongCodes system sessionId
  created : 0 < wrongCodes system sessionId → ∃ session, Created system.history sessionId session

end

section

variable {ttlSeconds now : Nat} {sessionId : Text} {system : SessionSystem}

variable {moving arrival : Nat} {mover : Call} {access : Access}

theorem Tally.counted {userCode : Option Text} {claims : Option Claims} {entry : SessionEntry}
    (tally : Tally system sessionId) (reachable : Run ttlSeconds now system)
    (running : system.At moving mover arrival (.running (.checkCode sessionId userCode claims)))
    (known : system.shared.sessions.lookup sessionId = some entry) (below : entry.failedAttempts < maxConfirmAttempts)
    (counted : countedWrong (perform system.clock system.shared (.checkCode sessionId userCode claims)).2 = true)
    (store : (perform system.clock system.shared (.checkCode sessionId userCode claims)).1 =
      system.shared.insert sessionId (countFailure entry)) :
    Tally (system.moved sessionStore moving ⟨mover, arrival, .running (.checkCode sessionId userCode claims)⟩
      (.checkCode sessionId userCode claims)) sessionId := by
  have presents : presentsCode sessionId mover = true := by
    rw [fits_presentsCode ((run_typed reachable).running running)]
    exact decide_eq_true rfl
  have more := wrongCodes_moved_succ running presents rfl counted
  have tallied := tally.counter entry known
  constructor
  · rw [more, ← tallied]
    exact below
  · intro after found
    change (perform system.clock system.shared (.checkCode sessionId userCode claims)).1.sessions.lookup sessionId =
      some after at found
    rw [store, SessionStore.insert, AList.lookup_insert] at found
    obtain rfl := Option.some.inj found
    rw [more, ← tallied]
    simp only [countFailure, maxConfirmAttempts] at below ⊢
    omega
  · intro _
    obtain ⟨session, created, -⟩ := run_belongs reachable known
    exact ⟨session, created_moved created⟩

theorem Tally.uncounted (tally : Tally system sessionId)
    (same : wrongCodes (system.moved sessionStore moving ⟨mover, arrival, .running access⟩ access) sessionId =
      wrongCodes system sessionId)
    (counters : ∀ entry, (perform system.clock system.shared access).1.sessions.lookup sessionId = some entry →
      entry.failedAttempts = wrongCodes system sessionId) :
    Tally (system.moved sessionStore moving ⟨mover, arrival, .running access⟩ access) sessionId := by
  constructor
  · rw [same]
    exact tally.bounded
  · intro entry found
    rw [same]
    exact counters entry found
  · intro positive
    rw [same] at positive
    obtain ⟨session, created⟩ := tally.created positive
    exact ⟨session, created_moved created⟩

theorem Tally.moved (tally : Tally system sessionId) (reachable : Run ttlSeconds now system)
    (running : system.At moving mover arrival (.running access))
    (guarded : presents sessionId access = true → ∀ entry, system.shared.sessions.lookup sessionId = some entry →
      entry.failedAttempts < maxConfirmAttempts) :
    Tally (system.moved sessionStore moving ⟨mover, arrival, .running access⟩ access) sessionId := by
  have spec := perform_cases system.clock system.shared access
  have fit := (run_typed reachable).running running
  by_cases counted : countedWrong (perform system.clock system.shared access).2 = true
  · rcases counted_of_performed spec counted with ⟨removed, rfl, store⟩ | ⟨checked, userCode, claims, entry, rfl, known,
      wrong, store⟩
    · apply tally.uncounted (wrongCodes_moved_same running rfl)
      intro entry found
      rw [store] at found
      exact tally.counter entry (lookup_remove_some found).2
    · by_cases here : checked = sessionId
      · subst here
        exact tally.counted reachable running known (guarded (decide_eq_true rfl) entry known) counted store
      · have elsewhere : presentsCode sessionId mover = false := by
          rw [fits_presentsCode fit]
          exact decide_eq_false here
        apply tally.uncounted (wrongCodes_moved_same running (by rw [elsewhere]; rfl))
        intro entry found
        rw [store] at found
        rcases lookup_insert_some found with ⟨same, -⟩ | ⟨-, old⟩
        · exact absurd same.symm here
        · exact tally.counter entry old
  · have uncounted := Bool.eq_false_iff.mpr counted
    apply tally.uncounted (wrongCodes_moved_same running (by rw [uncounted, uncounted_running uncounted]))
    intro entry found
    rcases uncounted_of_performed spec uncounted found with ⟨earlier, known, same⟩ | ⟨request, createdAt, rfl, rfl, zero⟩
    · exact same ▸ tally.counter earlier known
    · -- a session that is only now put into the store has had no code
      refine zero.trans (Nat.eq_zero_of_not_pos ?_).symm
      intro positive
      obtain ⟨session, created⟩ := tally.created positive
      exact not_created_of_running reachable running session created

theorem wrongCodes_moved_le (running : system.At moving mover arrival (.running access)) :
    wrongCodes system sessionId ≤
      wrongCodes (system.moved sessionStore moving ⟨mover, arrival, .running access⟩ access) sessionId := by
  by_cases before : countedWrong (.running access) = true
  · cases access with
    | removeLocked key => exact (wrongCodes_moved_same running rfl).ge
    | _ => cases before
  · by_cases after : (presentsCode sessionId mover && countedWrong (perform system.clock system.shared access).2) = true
    · rw [Bool.and_eq_true] at after
      rw [wrongCodes_moved_succ running after.1 (Bool.eq_false_iff.mpr before) after.2]
      exact Nat.le_succ _
    · refine (wrongCodes_moved_same running ?_).ge
      rw [Bool.eq_false_iff.mpr before, Bool.and_false]
      exact (Bool.eq_false_iff.mpr after).symm

theorem wrongCodes_called (system : SessionSystem) (sessionId : Text) (added : Call) :
    wrongCodes (system.called sessionStore added) sessionId = wrongCodes system sessionId := by
  have uncounted : countedWrong (.running (sessionStore.start added)) = false := by cases added <;> rfl
  unfold wrongCodes
  rw [count_called]
  simp [uncounted]

abbrev GuardedRun (ttlSeconds now : Nat) (sessionId : Text) (system : SessionSystem) : Prop :=
  Reachable (step sessionStore) (Guarded sessionId) (initial ttlSeconds now) system

theorem GuardedRun.run (reachable : GuardedRun ttlSeconds now sessionId system) : Run ttlSeconds now system :=
  reachable.weaken (fun _ _ guarded => guarded.1)

theorem guardedRun_removal {entry : SessionEntry} (reachable : GuardedRun ttlSeconds now sessionId system)
    (known : system.shared.sessions.lookup sessionId = some entry)
    (reached : maxConfirmAttempts ≤ entry.failedAttempts) :
    ∃ index call since, system.At index call since (.running (.removeLocked sessionId)) := by
  revert entry
  apply reachable_induction (Guarded sessionId) (initial ttlSeconds now) _ _ _ _ _ reachable
  · nofun
  · intro system duration _ kept entry known reached
    exact kept known reached
  · intro system added _ _ kept entry known reached
    obtain ⟨index, call, since, due⟩ := kept known reached
    exact ⟨index, call, since, at_called_of_at added due⟩
  · intro system moving mover arrival access _ _ running kept entry found reached
    rcases reached_of_performed (perform_cases system.clock system.shared access) found reached with
      locked | ⟨other, earlier, known, before⟩
    · exact ⟨moving, mover, arrival, (at_moved running).mpr (.inr ⟨rfl, rfl, rfl, locked.symm⟩)⟩
    · obtain ⟨index, call, since, due⟩ := kept known before
      refine ⟨index, call, since, (at_moved running).mpr (.inl ⟨?_, due⟩)⟩
      rintro rfl
      cases (at_unique running due).2.2
      exact other rfl

theorem GuardedRun.below (reachable : GuardedRun ttlSeconds now sessionId system)
    (guarded : Guarded sessionId system (.move moving)) (running : system.At moving mover arrival (.running access))
    (present : presents sessionId access = true) (entry : SessionEntry)
    (known : system.shared.sessions.lookup sessionId = some entry) : entry.failedAttempts < maxConfirmAttempts := by
  by_contra reached
  obtain ⟨index, call, since, due⟩ := guardedRun_removal reachable known (not_lt.mp reached)
  refine guarded.2.of_at running ?_ due present rfl
  rintro rfl
  cases (at_unique running due).2.2
  cases present

theorem guardedRun_tally (reachable : GuardedRun ttlSeconds now sessionId system) : Tally system sessionId := by
  apply reachable_induction (Guarded sessionId) (initial ttlSeconds now) (fun system => Tally system sessionId)
    _ _ _ _ reachable
  · constructor
    · exact Nat.zero_le _
    · intro entry found
      cases found
    · intro positive
      cases positive
  · intro system duration _ tally
    exact ⟨tally.bounded, tally.counter, tally.created⟩
  · intro system added _ _ tally
    have same := wrongCodes_called system sessionId added
    exact ⟨same ▸ tally.bounded, same ▸ tally.counter, same ▸ tally.created⟩
  · intro system moving mover arrival access before guarded running tally
    exact tally.moved (GuardedRun.run before) running (GuardedRun.below before guarded running)

theorem confirm_finds {call : Call} {userCode : Option Text} {claims : Claims} {clock : Nat} {store : SessionStore}
    (confirms : call = .confirmSession sessionId userCode claims) (fit : Fits call access)
    (succeeded : (perform clock store access).2 = .answered (.checked (.ok ()))) :
    ∃ entry, access = .confirm sessionId claims ∧ store.sessions.lookup sessionId = some entry := by
  subst confirms
  have spec := perform_cases clock store access
  generalize perform clock store access = result at spec succeeded
  rcases fit with rfl | rfl | rfl | rfl
  · cases spec with
    | checkCode spec =>
      cases spec with
      | verified entry known correct noClaims => cases noClaims
      | _ => cases succeeded
  · cases spec
    cases succeeded
  · cases spec
    cases succeeded
  · cases spec with
    | confirm spec =>
      cases spec with
      | attached entry known pending => exact ⟨entry, rfl, known⟩
      | _ => cases succeeded

theorem no_later_confirmation {middle : SessionSystem} (reachable : GuardedRun ttlSeconds now sessionId middle)
    (used : maxConfirmAttempts ≤ wrongCodes middle sessionId)
    (later : Reachable (step sessionStore) (Guarded sessionId) middle system) :
    maxConfirmAttempts ≤ wrongCodes system sessionId ∧ ∀ index userCode claims since,
      system.At index (.confirmSession sessionId userCode claims) since (.answered (.checked (.ok ()))) →
      middle.At index (.confirmSession sessionId userCode claims) since (.answered (.checked (.ok ()))) := by
  apply reachable_induction (Guarded sessionId) middle (fun system =>
    maxConfirmAttempts ≤ wrongCodes system sessionId ∧ ∀ index userCode claims since,
      system.At index (.confirmSession sessionId userCode claims) since (.answered (.checked (.ok ()))) →
      middle.At index (.confirmSession sessionId userCode claims) since (.answered (.checked (.ok ()))))
    _ _ _ _ later
  · exact ⟨used, fun _ _ _ _ present => present⟩
  · intro system duration _ kept
    exact kept
  · intro system added _ _ kept
    refine ⟨(wrongCodes_called system sessionId added).symm ▸ kept.1, ?_⟩
    intro index userCode claims since present
    rcases (at_called added).mp present with old | ⟨-, -, -, same⟩
    · exact kept.2 index userCode claims since old
    · cases same
  · intro system moving mover arrival access before guarded running kept
    refine ⟨kept.1.trans (wrongCodes_moved_le running), ?_⟩
    intro index userCode claims since present
    rcases (at_moved running).mp present with ⟨-, old⟩ | ⟨rfl, call, -, same⟩
    · exact kept.2 index userCode claims since old
    · have reached : GuardedRun ttlSeconds now sessionId system := reachable.trans before
      obtain ⟨entry, rfl, known⟩ := confirm_finds call.symm ((run_typed reached.run).running running) same.symm
      have below := reached.below guarded running (decide_eq_true rfl) entry known
      have tallied := (guardedRun_tally reached).counter entry known
      omega

theorem invalidAnswers_le (system : SessionSystem) (sessionId : Text) :
    invalidAnswers system sessionId ≤ wrongCodes system sessionId := by
  apply List.countP_mono_left
  intro thread _ answered
  simp only [Bool.and_eq_true, decide_eq_true_eq] at answered ⊢
  exact ⟨answered.1, by rw [answered.2]; rfl⟩

/-- In every interleaving in which no code check and no confirmation falls between the last counted code and
the removal of the session, at most the allowed number of calls is told that the code is wrong, and once that
many codes have been counted no further confirmation succeeds. -/
theorem lockout_holds (ttlSeconds now : Nat) (sessionId : Text) (before after : List (Label Call))
    (guarded : Always (step sessionStore) (Guarded sessionId) (initial ttlSeconds now) (before ++ after)) :
    invalidAnswers (run (step sessionStore) (initial ttlSeconds now) (before ++ after)) sessionId ≤
      maxConfirmAttempts ∧
    (maxConfirmAttempts ≤ wrongCodes (run (step sessionStore) (initial ttlSeconds now) before) sessionId →
      ∀ index userCode claims since,
        (run (step sessionStore) (initial ttlSeconds now) (before ++ after)).At index
          (.confirmSession sessionId userCode claims) since (.answered (.checked (.ok ()))) →
        (run (step sessionStore) (initial ttlSeconds now) before).At index
          (.confirmSession sessionId userCode claims) since (.answered (.checked (.ok ())))) := by
  have whole : GuardedRun ttlSeconds now sessionId (run (step sessionStore) (initial ttlSeconds now) (before ++ after)) :=
    guarded.reachable (step sessionStore)
  obtain ⟨first, second⟩ := (always_append _ _ _ before after).mp guarded
  constructor
  · exact (invalidAnswers_le _ _).trans (guardedRun_tally whole).bounded
  · intro used
    have later := second.reachable (step sessionStore)
    rw [← run_append] at later
    exact (no_later_confirmation (first.reachable (step sessionStore)) used later).2

end

theorem guarded_call {system : SessionSystem} {call : Call} (fresh : Fresh system (.call call)) :
    Guarded sessionId system (.call call) := ⟨fresh, nofun⟩

def opened : List (Label Call) :=
  [.call (.createSession ⟨none, none, ⟨['s'], ['p'], ['A']⟩⟩), .move 0, .move 0, .move 0, .move 0, .move 0]

def wrongGuess : Label Call := .call (.verifySessionCode ['s'] (some ['B']))

def rightClaims : Claims := ⟨['u'], ['i'], none, 1000, [], none⟩

def rightGuess : Label Call := .call (.confirmSession ['s'] (some ['A']) rightClaims)

def lockedOut : List (Label Call) :=
  opened ++ [wrongGuess, wrongGuess, wrongGuess, .move 1, .move 2, .move 3, .move 3]

theorem lockout_holds_removed :
    invalidAnswers (run (step sessionStore) (initial 60 0) (lockedOut ++ [rightGuess, .move 4])) ['s'] ≤ 3 ∧
    ¬(run (step sessionStore) (initial 60 0) (lockedOut ++ [rightGuess, .move 4])).At 4
      (.confirmSession ['s'] (some ['A']) rightClaims) 0 (.answered (.checked (.ok ()))) := by
  have guarded : Always (step sessionStore) (Guarded ['s']) (initial 60 0) (lockedOut ++ [rightGuess, .move 4]) :=
    ⟨guarded_call nofun, ⟨trivial, by decide⟩, ⟨trivial, by decide⟩, ⟨trivial, by decide⟩, ⟨trivial, by decide⟩,
      ⟨trivial, by decide⟩, guarded_call trivial, guarded_call trivial, guarded_call trivial, ⟨trivial, by decide⟩,
      ⟨trivial, by decide⟩, ⟨trivial, by decide⟩, ⟨trivial, by decide⟩, guarded_call trivial, ⟨trivial, by decide⟩,
      trivial⟩
  have holds := lockout_holds 60 0 ['s'] lockedOut [rightGuess, .move 4] guarded
  refine ⟨holds.1, ?_⟩
  intro confirmed
  exact nomatch holds.2 (by decide) 4 (some ['A']) rightClaims 0 confirmed

/-- Two checks race with the removal: a fourth call is told that its code is wrong. And a confirmation that
comes between the third wrong code and the removal succeeds. -/
theorem lockout_race :
    invalidAnswers (run (step sessionStore) (initial 60 0) (opened ++ [wrongGuess, wrongGuess, wrongGuess, wrongGuess,
      .move 1, .move 2, .move 3, .move 4, .move 3, .move 4])) ['s'] = 4 ∧
    wrongCodes (run (step sessionStore) (initial 60 0) (opened ++ [wrongGuess, wrongGuess, wrongGuess, rightGuess,
      .move 1, .move 2, .move 3])) ['s'] = 3 ∧
    (run (step sessionStore) (initial 60 0) (opened ++ [wrongGuess, wrongGuess, wrongGuess, rightGuess, .move 1,
      .move 2, .move 3])).At 4 (.confirmSession ['s'] (some ['A']) rightClaims) 0
        (.running (.checkCode ['s'] (some ['A']) (some rightClaims))) ∧
    (run (step sessionStore) (initial 60 0) (opened ++ [wrongGuess, wrongGuess, wrongGuess, rightGuess, .move 1,
      .move 2, .move 3] ++ [.move 4, .move 4])).At 4 (.confirmSession ['s'] (some ['A']) rightClaims) 0
        (.answered (.checked (.ok ()))) :=
  ⟨rfl, rfl, rfl, rfl⟩

end Praeco.Idp.SessionLockout
