import Praeco.Schedule.Permits
import Praeco.Schedule.Processes

/-! The concurrency limit. A request takes a permit at once or waits for one, keeps it while the inner service works on
it, and hands it to the body of the response, which gives it back when it ends, fails or is dropped. -/

namespace Praeco.Limits.Concurrency
open Praeco.Schedule.Runs Praeco.Schedule.Permits Praeco.Schedule.Processes

structure ConcurrencyLimitService where
  loadShed : Bool
  queueTimeout : Option Nat
  deriving DecidableEq, Repr

/-- A request with the future that is made for it, and then with the body of its response. An acquire task that was never
polled has no ticket; `permit` says whether the field of that name is filled, `closed` whether the body has ended or
failed. -/
inductive Request where
  | arrived
  | waiting (ticket : Option Ticket)
  | processing (permit : Bool)
  | failed (permit : Bool)
  | responded (permit closed : Bool)
  | refused
  | panicked
  | dropped
  deriving DecidableEq, Repr

inductive Frame where
  | pending
  | data
  | finished
  | failed
  deriving DecidableEq, Repr

/-- What can happen to a request: the service is called with it; its future polls the acquire task, finds the time of the
task run out, or polls the inner future until that responds or fails; its body is polled; future or body is dropped. -/
inductive Signal where
  | call
  | acquire
  | elapse
  | respond
  | fail
  | frame (polled : Frame)
  | drop
  deriving DecidableEq, Repr

def dropPermit (semaphore : Semaphore) (permit : Bool) : Semaphore := if permit then semaphore.release else semaphore

def dropRequest (semaphore : Semaphore) : Request → Semaphore
  | .waiting (some ticket) => semaphore.cancel ticket
  | .processing permit => dropPermit semaphore permit
  | .failed permit => dropPermit semaphore permit
  | .responded permit _ => dropPermit semaphore permit
  | _ => semaphore

def call (service : ConcurrencyLimitService) (semaphore : Semaphore) : Semaphore × Request :=
  if service.loadShed then
    match semaphore.tryAcquire with
    | some taken => (taken, .processing true)
    | none => (semaphore, .refused)
  else (semaphore, .waiting none)

def pollAcquire (semaphore : Semaphore) : Option Ticket → Semaphore × Request
  | none =>
    match semaphore.acquire with
    | (taken, none) => (taken, .processing true)
    | (queued, some ticket) => (queued, .waiting (some ticket))
  | some ticket =>
    match semaphore.claim ticket with
    | some taken => (taken, .processing true)
    | none => (semaphore, .waiting (some ticket))

def pollFrame (semaphore : Semaphore) (permit closed : Bool) : Frame → Semaphore × Request
  | .finished => (dropPermit semaphore permit, .responded false true)
  | .failed => (dropPermit semaphore permit, .responded false true)
  | .pending => (semaphore, .responded permit closed)
  | .data => (semaphore, .responded permit closed)

/-- A signal that a request in this state cannot get changes nothing. -/
def act (service : ConcurrencyLimitService) (semaphore : Semaphore) : Request → Signal → Semaphore × Request
  | .arrived, .call => call service semaphore
  | .waiting ticket, .acquire => pollAcquire semaphore ticket
  -- the acquire task is dropped with its timer, so a permit that was assigned meanwhile is passed on
  | .waiting (some ticket), .elapse =>
    if service.queueTimeout.isSome then (semaphore.cancel ticket, .refused) else (semaphore, .waiting (some ticket))
  | .processing permit, .respond => (semaphore, if permit then .responded true false else .panicked)
  | .processing permit, .fail => (semaphore, .failed permit)
  | .responded permit closed, .frame polled => pollFrame semaphore permit closed polled
  | request, .drop => (dropRequest semaphore request, .dropped)
  | request, _ => (semaphore, request)

def requests (service : ConcurrencyLimitService) : Program Semaphore Unit Request Signal where
  spawn _ := .arrived
  act := act service

def initial (maxConcurrentRequests : Nat) : System Semaphore Request := ⟨.new maxConcurrentRequests, []⟩

/-- A request is in flight from the moment when it is given a permit until its future is dropped without a response or
the body of its response has ended, failed or been dropped. -/
def inFlight (semaphore : Semaphore) : Request → Bool
  | .waiting ticket => ticket.any (· ∈ semaphore.assigned)
  | .processing _ => true
  | .failed _ => true
  | .responded _ closed => !closed
  | _ => false

namespace Request

def ticket : Request → Option Ticket
  | .waiting ticket => ticket
  | _ => none

def permit : Request → Bool
  | .processing permit => permit
  | .failed permit => permit
  | .responded permit _ => permit
  | _ => false

def Sound : Request → Prop
  | .processing permit => permit = true
  | .failed permit => permit = true
  | .responded permit closed => permit = !closed
  | .panicked => False
  | _ => True

def owns (ticket : Ticket) (request : Request) : Nat := if request.ticket = some ticket then 1 else 0

theorem owns_waiting (drawn ticket : Ticket) :
    owns ticket (.waiting (some drawn)) = if drawn = ticket then 1 else 0 := by
  simp only [owns, Request.ticket, Option.some.injEq]

theorem owns_without {request : Request} (without : request.ticket = none) (ticket : Ticket) :
    request.owns ticket = 0 := by
  rw [owns, without, if_neg nofun]

end Request

structure Moves (semaphore : Semaphore) (request : Request) (result : Semaphore × Request) : Prop where
  permits : result.1.unheld + result.2.permit.toNat = semaphore.unheld + request.permit.toNat
  tickets : ∀ ticket, result.1.registered ticket + request.owns ticket =
    semaphore.registered ticket + result.2.owns ticket
  sound : result.2.Sound

theorem Moves.refl {semaphore : Semaphore} {request : Request} (sound : request.Sound) :
    Moves semaphore request (semaphore, request) := ⟨rfl, fun _ => rfl, sound⟩

section

variable (service : ConcurrencyLimitService) (semaphore : Semaphore)

theorem call_moves : Moves semaphore .arrived (call service semaphore) := by
  unfold call Semaphore.tryAcquire
  split_ifs with shed busy
  · exact ⟨rfl, fun _ => rfl, trivial⟩
  · exact ⟨semaphore.unheld_take busy, fun _ => rfl, rfl⟩
  · exact ⟨rfl, fun _ => rfl, trivial⟩

theorem pollAcquire_moves (ticket : Option Ticket) (known : ∀ drawn ∈ ticket, semaphore.registered drawn = 1) :
    Moves semaphore (.waiting ticket) (pollAcquire semaphore ticket) := by
  cases ticket with
  | none =>
    rw [pollAcquire, Semaphore.acquire]
    split_ifs with busy
    · refine ⟨rfl, fun other => ?_, trivial⟩
      rw [Request.owns_waiting, ← semaphore.registered_enqueue busy]
      rfl
    · exact ⟨semaphore.unheld_take busy, fun _ => rfl, rfl⟩
  | some ticket =>
    rw [pollAcquire, Semaphore.claim]
    split_ifs with assigned
    · refine ⟨semaphore.unheld_remove_assigned ticket assigned, fun other => ?_, rfl⟩
      rw [Request.owns_waiting]
      exact semaphore.registered_remove ticket (known ticket rfl) other
    · exact .refl trivial

theorem cancel_moves (ticket : Ticket) (known : semaphore.registered ticket = 1) {next : Request}
    (empty : next.permit = false) (without : next.ticket = none) (sound : next.Sound) :
    Moves semaphore (.waiting (some ticket)) (semaphore.cancel ticket, next) := by
  refine ⟨?_, fun other => ?_, sound⟩
  · rw [semaphore.unheld_cancel, empty]
    rfl
  · rw [Request.owns_waiting, Request.owns_without without]
    exact semaphore.registered_cancel ticket known other

theorem dropPermit_moves (permit : Bool) {request next : Request} (held : request.permit = permit)
    (unqueued : request.ticket = none) (empty : next.permit = false) (without : next.ticket = none)
    (sound : next.Sound) : Moves semaphore request (dropPermit semaphore permit, next) := by
  refine ⟨?_, fun other => ?_, sound⟩
  · rw [held, empty]
    cases permit with
    | true => exact semaphore.unheld_release
    | false => rfl
  · rw [Request.owns_without unqueued, Request.owns_without without]
    cases permit with
    | true => rw [dropPermit, if_pos rfl, semaphore.registered_release]
    | false => rfl

theorem dropRequest_moves (request : Request) (known : ∀ drawn ∈ request.ticket, semaphore.registered drawn = 1) :
    Moves semaphore request (dropRequest semaphore request, .dropped) := by
  cases request with
  | waiting ticket =>
    cases ticket with
    | none => exact ⟨rfl, fun _ => rfl, trivial⟩
    | some ticket => exact cancel_moves semaphore ticket (known ticket rfl) rfl rfl trivial
  | processing permit => exact dropPermit_moves semaphore permit rfl rfl rfl rfl trivial
  | failed permit => exact dropPermit_moves semaphore permit rfl rfl rfl rfl trivial
  | responded permit closed => exact dropPermit_moves semaphore permit rfl rfl rfl rfl trivial
  | arrived => exact ⟨rfl, fun _ => rfl, trivial⟩
  | refused => exact ⟨rfl, fun _ => rfl, trivial⟩
  | panicked => exact ⟨rfl, fun _ => rfl, trivial⟩
  | dropped => exact ⟨rfl, fun _ => rfl, trivial⟩

theorem pollFrame_moves (permit closed : Bool) (sound : permit = !closed) (polled : Frame) :
    Moves semaphore (.responded permit closed) (pollFrame semaphore permit closed polled) := by
  cases polled with
  | pending => exact .refl sound
  | data => exact .refl sound
  | finished => exact dropPermit_moves semaphore permit rfl rfl rfl rfl rfl
  | failed => exact dropPermit_moves semaphore permit rfl rfl rfl rfl rfl

theorem act_moves {request : Request} (sound : request.Sound)
    (known : ∀ drawn ∈ request.ticket, semaphore.registered drawn = 1) (signal : Signal) :
    Moves semaphore request (act service semaphore request signal) := by
  fun_cases act service semaphore request signal with
  | case1 => exact call_moves service semaphore
  | case2 ticket => exact pollAcquire_moves semaphore ticket known
  | case3 ticket timed => exact cancel_moves semaphore ticket (known ticket rfl) rfl rfl trivial
  | case4 => exact .refl sound
  | case5 permit =>
    -- the response finds the permit that was taken for the call
    obtain rfl : permit = true := sound
    exact ⟨rfl, fun _ => rfl, rfl⟩
  | case6 permit => exact ⟨rfl, fun _ => rfl, sound⟩
  | case7 permit closed polled => exact pollFrame_moves semaphore permit closed sound polled
  | case8 => exact dropRequest_moves semaphore request known
  | case9 => exact .refl sound

end

/-- The permits are with the semaphore or with requests, every ticket that the semaphore knows is a waiting request's, and
every request in flight has its permit. -/
structure Accounted (maxConcurrentRequests : Nat) (system : System Semaphore Request) : Prop where
  permits : system.shared.unheld + system.total (fun request => request.permit.toNat) = maxConcurrentRequests
  tickets : ∀ ticket, system.shared.registered ticket = system.total (Request.owns ticket)
  sound : ∀ (index : Nat) request, system.processes[index]? = some request → request.Sound

theorem accounted_initial (maxConcurrentRequests : Nat) :
    Accounted maxConcurrentRequests (initial maxConcurrentRequests) := by
  constructor
  · rfl
  · intro ticket
    rfl
  · intro index request found
    cases found

section

variable {maxConcurrentRequests : Nat} {system : System Semaphore Request}

theorem Accounted.spawned (accounted : Accounted maxConcurrentRequests system) :
    Accounted maxConcurrentRequests (system.spawned .arrived) := by
  constructor
  · rw [total_spawned]
    exact accounted.permits
  · intro ticket
    exact balance_spawned (fun semaphore : Semaphore => semaphore.registered ticket) (accounted.tickets ticket) rfl
  · intro index request found
    rw [lookup_spawned] at found
    split_ifs at found
    · cases found
      trivial
    · exact accounted.sound index request found

theorem Accounted.registered (accounted : Accounted maxConcurrentRequests system) {index : Nat} {request : Request}
    (present : system.processes[index]? = some request) (ticket : Ticket) (drawn : ticket ∈ request.ticket) :
    system.shared.registered ticket = 1 := by
  have mine : request.owns ticket = 1 := if_pos drawn
  have least := weight_le_total (Request.owns ticket) present
  rw [mine, ← accounted.tickets] at least
  exact le_antisymm (system.shared.registered_le_one ticket) least

theorem Accounted.acted (accounted : Accounted maxConcurrentRequests system) {index : Nat} {request : Request}
    (present : system.processes[index]? = some request) {result : Semaphore × Request}
    (moves : Moves system.shared request result) : Accounted maxConcurrentRequests (system.acted index result) := by
  constructor
  · rw [conserved_acted Semaphore.unheld (fun request => request.permit.toNat) present moves.permits]
    exact accounted.permits
  · intro ticket
    exact balance_acted (fun semaphore : Semaphore => semaphore.registered ticket) (accounted.tickets ticket) present
      fun _ => moves.tickets ticket
  · intro other found member
    rw [lookup_acted present] at member
    split_ifs at member
    · cases member
      exact moves.sound
    · exact accounted.sound other found member

theorem accounted_reachable (service : ConcurrencyLimitService)
    (reachable : Reachable (step (requests service)) (fun _ _ => True) (initial maxConcurrentRequests) system) :
    Accounted maxConcurrentRequests system := by
  refine reachable_induction _ _ _ (accounted_initial maxConcurrentRequests) ?_ ?_ reachable
  · intro system _ _ accounted
    exact accounted.spawned
  · intro system index request signal present _ accounted
    exact accounted.acted present
      (act_moves service system.shared (accounted.sound index request present) (accounted.registered present) signal)

theorem inFlight_toNat (semaphore : Semaphore) {request : Request} (sound : request.Sound) :
    (inFlight semaphore request).toNat =
      request.permit.toNat + (request.ticket.any (· ∈ semaphore.assigned)).toNat := by
  cases request with
  | waiting ticket => exact (Nat.zero_add _).symm
  | processing permit =>
    obtain rfl : permit = true := sound
    rfl
  | failed permit =>
    obtain rfl : permit = true := sound
    rfl
  | responded permit closed =>
    obtain rfl : permit = !closed := sound
    rfl
  | arrived => rfl
  | refused => rfl
  | panicked => exact sound.elim
  | dropped => rfl

theorem Accounted.inFlight (accounted : Accounted maxConcurrentRequests system) :
    system.shared.permits + system.processes.countP (inFlight system.shared) = maxConcurrentRequests := by
  have waiting : system.processes.countP (fun request => request.ticket.any (· ∈ system.shared.assigned)) =
      system.shared.assigned.length := by
    apply countP_owners system.shared.distinct.of_append_right
    intro ticket assigned
    exact (accounted.tickets ticket).symm.trans (system.shared.registered_of_assigned ticket assigned)
  have apart : system.total (fun request => (Concurrency.inFlight system.shared request).toNat) =
      system.total (fun request =>
        request.permit.toNat + (request.ticket.any (· ∈ system.shared.assigned)).toNat) := by
    apply total_congr
    intro index request present
    exact inFlight_toNat system.shared (accounted.sound index request present)
  have permits := accounted.permits
  rw [Semaphore.unheld] at permits
  rw [total_toNat, total_add, total_toNat (fun request : Request => request.ticket.any (· ∈ system.shared.assigned)),
    waiting] at apart
  omega

/-- A request queues or is refused at once only while as many are in flight as are allowed. -/
theorem full_when_held_up (service : ConcurrencyLimitService)
    (reachable : Reachable (step (requests service)) (fun _ _ => True) (initial maxConcurrentRequests) system)
    (heldUp : system.shared.waiters ≠ [] ∨ (call service system.shared).2 = .refused) :
    system.processes.countP (inFlight system.shared) = maxConcurrentRequests := by
  have accounted := (accounted_reachable service reachable).inFlight
  rcases heldUp with queued | shed
  · rw [system.shared.idle queued] at accounted
    omega
  · unfold call Semaphore.tryAcquire at shed
    split_ifs at shed with shedding busy
    omega

/-- The only permit is taken. -/
theorem full_when_held_up_shed :
    let service : ConcurrencyLimitService := ⟨true, none⟩
    let system := run (step (requests service)) (initial 1) [.spawn (), .act 0 .call]
    (call service system.shared).2 = .refused ∧ system.processes.countP (inFlight system.shared) = 1 := by
  intro service system
  have reachable : Reachable (step (requests service)) (fun _ _ => True) (initial 1) system :=
    Always.reachable _ (always_mem _ (fun _ => True) _ _ fun _ _ => trivial)
  exact ⟨by decide, full_when_held_up service reachable (Or.inr (by decide))⟩

end

/-- In every state that requests come to in any order, the free permits and the requests in flight are as many as are
allowed, and no request is with the inner service without a permit. -/
theorem permits_conserved (service : ConcurrencyLimitService) (maxConcurrentRequests : Nat)
    (system : System Semaphore Request)
    (reachable : Reachable (step (requests service)) (fun _ _ => True) (initial maxConcurrentRequests) system) :
    system.shared.permits + system.processes.countP (inFlight system.shared) = maxConcurrentRequests ∧
      ∀ (index : Nat) permit, system.processes[index]? = some (.processing permit) → permit = true := by
  have accounted := accounted_reachable service reachable
  exact ⟨accounted.inFlight, fun index permit found => accounted.sound index _ found⟩

/-- With one permit: the second request is queued, and is assigned the permit of the first at the end of its response. -/
theorem permits_conserved_passed_on :
    let service : ConcurrencyLimitService := ⟨false, some 5⟩
    let system := run (step (requests service)) (initial 1)
      [.spawn (), .spawn (), .act 0 .call, .act 1 .call, .act 0 .acquire, .act 1 .acquire, .act 0 .respond,
        .act 0 (.frame .finished)]
    system.processes = [.responded false true, .waiting (some 0)] ∧ system.shared.assigned = [0] ∧
      system.shared.permits + system.processes.countP (inFlight system.shared) = 1 := by
  intro service system
  have reachable : Reachable (step (requests service)) (fun _ _ => True) (initial 1) system :=
    Always.reachable _ (always_mem _ (fun _ => True) _ _ fun _ _ => trivial)
  exact ⟨by decide, by decide, (permits_conserved service 1 system reachable).1⟩

end Praeco.Limits.Concurrency
