import Mathlib

/-! A fair semaphore. Whoever finds no free permit draws a ticket and queues; a permit that is given back is assigned to
the first ticket in the queue, and is free only if nobody waits. A ticket is claimed once a permit is assigned to it, or
cancelled, which passes an assigned permit on. -/

namespace Praeco.Schedule.Permits

abbrev Ticket := Nat

structure Semaphore where
  permits : Nat
  waiters : List Ticket
  assigned : List Ticket
  next : Ticket
  distinct : (waiters ++ assigned).Nodup
  below : ∀ ticket ∈ waiters ++ assigned, ticket < next
  idle : waiters ≠ [] → permits = 0

theorem perm_passed_on {waiters : List Ticket} (queued : waiters ≠ []) (assigned : List Ticket) :
    (waiters.tail ++ waiters.head queued :: assigned).Perm (waiters ++ assigned) := by
  have whole : waiters.head queued :: (waiters.tail ++ assigned) = waiters ++ assigned := by
    rw [← List.cons_append, List.cons_head_tail]
  rw [← whole]
  exact List.perm_middle

theorem sublist_erased (waiters assigned : List Ticket) (ticket : Ticket) :
    (waiters.erase ticket ++ assigned.erase ticket).Sublist (waiters ++ assigned) :=
  List.Sublist.append List.erase_sublist List.erase_sublist

namespace Semaphore

def new (permits : Nat) : Semaphore where
  permits := permits
  waiters := []
  assigned := []
  next := 0
  distinct := List.nodup_nil
  below _ member := absurd member List.not_mem_nil
  idle queued := absurd rfl queued

variable (semaphore : Semaphore) (ticket : Ticket)

theorem enqueued_distinct : ((semaphore.waiters ++ [semaphore.next]) ++ semaphore.assigned).Nodup := by
  rw [List.append_assoc, List.singleton_append, List.perm_middle.nodup_iff, List.nodup_cons]
  exact ⟨fun member => lt_irrefl _ (semaphore.below _ member), semaphore.distinct⟩

theorem enqueued_below :
    ∀ ticket ∈ (semaphore.waiters ++ [semaphore.next]) ++ semaphore.assigned, ticket < semaphore.next + 1 := by
  intro ticket member
  rw [List.append_assoc, List.singleton_append, List.perm_middle.mem_iff, List.mem_cons] at member
  rcases member with rfl | earlier
  · exact Nat.lt_succ_self _
  · exact Nat.lt_succ_of_lt (semaphore.below ticket earlier)

def take : Semaphore :=
  { semaphore with
    permits := semaphore.permits - 1
    idle queued := congrArg (· - 1) (semaphore.idle queued) }

def enqueue (busy : semaphore.permits = 0) : Semaphore where
  permits := semaphore.permits
  waiters := semaphore.waiters ++ [semaphore.next]
  assigned := semaphore.assigned
  next := semaphore.next + 1
  distinct := semaphore.enqueued_distinct
  below := semaphore.enqueued_below
  idle _ := busy

def tryAcquire : Option Semaphore := if semaphore.permits = 0 then none else some semaphore.take

/-- With the ticket that was drawn, unless a permit was free. -/
def acquire : Semaphore × Option Ticket :=
  if busy : semaphore.permits = 0 then (semaphore.enqueue busy, some semaphore.next) else (semaphore.take, none)

def release : Semaphore :=
  if queued : semaphore.waiters ≠ [] then
    { semaphore with
      waiters := semaphore.waiters.tail
      assigned := semaphore.waiters.head queued :: semaphore.assigned
      distinct := (perm_passed_on queued semaphore.assigned).nodup_iff.mpr semaphore.distinct
      below other member := semaphore.below other ((perm_passed_on queued semaphore.assigned).mem_iff.mp member)
      idle _ := semaphore.idle queued }
  else
    { semaphore with
      permits := semaphore.permits + 1
      idle waiting := absurd waiting queued }

def remove : Semaphore where
  permits := semaphore.permits
  waiters := semaphore.waiters.erase ticket
  assigned := semaphore.assigned.erase ticket
  next := semaphore.next
  distinct := semaphore.distinct.sublist (sublist_erased _ _ ticket)
  below other member := semaphore.below other ((sublist_erased _ _ ticket).mem member)
  idle left := semaphore.idle fun empty => left (by rw [empty, List.erase_nil])

/-- Nothing, while no permit is assigned to the ticket. -/
def claim : Option Semaphore := if ticket ∈ semaphore.assigned then some (semaphore.remove ticket) else none

def cancel : Semaphore :=
  if ticket ∈ semaphore.assigned then (semaphore.remove ticket).release else semaphore.remove ticket

def unheld : Nat := semaphore.permits + semaphore.assigned.length

def registered : Nat := (semaphore.waiters ++ semaphore.assigned).count ticket

theorem registered_le_one : semaphore.registered ticket ≤ 1 := List.nodup_iff_count_le_one.mp semaphore.distinct ticket

theorem registered_of_assigned (member : ticket ∈ semaphore.assigned) : semaphore.registered ticket = 1 :=
  le_antisymm (semaphore.registered_le_one ticket) (List.count_pos_iff.mpr (List.mem_append_right _ member))

/-! What the operations do to the permits that nobody holds. -/

theorem unheld_take (free : semaphore.permits ≠ 0) : semaphore.take.unheld + 1 = semaphore.unheld := by
  change semaphore.permits - 1 + semaphore.assigned.length + 1 = semaphore.permits + semaphore.assigned.length
  omega

theorem unheld_release : semaphore.release.unheld = semaphore.unheld + 1 := by
  unfold release
  split_ifs with queued
  · rfl
  · change semaphore.permits + 1 + semaphore.assigned.length = semaphore.permits + semaphore.assigned.length + 1
    omega

theorem unheld_remove_assigned (member : ticket ∈ semaphore.assigned) :
    (semaphore.remove ticket).unheld + 1 = semaphore.unheld := by
  change semaphore.permits + (semaphore.assigned.erase ticket).length + 1 = semaphore.permits + semaphore.assigned.length
  rw [Nat.add_assoc, List.length_erase_add_one member]

theorem unheld_cancel : (semaphore.cancel ticket).unheld = semaphore.unheld := by
  unfold cancel
  split_ifs with member
  · rw [unheld_release, unheld_remove_assigned _ _ member]
  · change semaphore.permits + (semaphore.assigned.erase ticket).length = _
    rw [List.erase_of_not_mem member]
    rfl

/-! What they do to the tickets. -/

theorem registered_enqueue (busy : semaphore.permits = 0) (other : Ticket) :
    (semaphore.enqueue busy).registered other = semaphore.registered other + if semaphore.next = other then 1 else 0 := by
  change ((semaphore.waiters ++ [semaphore.next]) ++ semaphore.assigned).count other = _
  rw [List.append_assoc, List.singleton_append, List.perm_middle.count_eq, List.count_cons]
  simp only [beq_iff_eq]
  rfl

theorem registered_release (other : Ticket) : semaphore.release.registered other = semaphore.registered other := by
  unfold release
  split_ifs with queued
  · exact (perm_passed_on queued semaphore.assigned).count_eq other
  · rfl

theorem registered_remove (present : semaphore.registered ticket = 1) (other : Ticket) :
    (semaphore.remove ticket).registered other + (if ticket = other then 1 else 0) = semaphore.registered other := by
  unfold registered at present ⊢
  change (semaphore.waiters.erase ticket ++ semaphore.assigned.erase ticket).count other + _ = _
  rw [List.count_append] at present ⊢
  rw [List.count_append, List.count_erase, List.count_erase]
  by_cases same : ticket = other
  · subst same
    simp only [beq_self_eq_true, if_true]
    omega
  · simp [same]

theorem registered_cancel (present : semaphore.registered ticket = 1) (other : Ticket) :
    (semaphore.cancel ticket).registered other + (if ticket = other then 1 else 0) = semaphore.registered other := by
  by_cases member : ticket ∈ semaphore.assigned
  · rw [cancel, if_pos member, registered_release, registered_remove _ _ present]
  · rw [cancel, if_neg member, registered_remove _ _ present]

end Semaphore

end Praeco.Schedule.Permits
