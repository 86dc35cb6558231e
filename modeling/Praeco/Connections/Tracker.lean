import Praeco.Net.Address
import Praeco.Schedule.Processes

/-! The connection tracker of the gateway. A connection is a process that acquires a guard, may bind it to an
address later, and drops it; every access to the global counter and every access to an entry of the map is a
step of its own. -/

namespace Praeco.Connections.Tracker
open Praeco.Net.Address Praeco.Schedule.Runs Praeco.Schedule.Processes

inductive AcquireError where
  | globalLimitReached (current max : Nat)
  | ipLimitReached (ip : IpAddr) (current : UInt32) (max : Nat)
  deriving DecidableEq, Repr

structure CanonicalIp where
  ip : IpAddr
  canonical : canonicalClientIp ip = ip
  deriving DecidableEq, Repr

/-- An address that has an entry of its own: tunnels may show the unspecified one, which is not counted. -/
structure CountedIp extends CanonicalIp where
  specified : ip.isUnspecified = false
  deriving DecidableEq, Repr

def canonical (ip : IpAddr) : CanonicalIp := ⟨canonicalClientIp ip, canonicalClientIp_idem ip⟩

def CanonicalIp.counted (ip : CanonicalIp) : Option CountedIp :=
  if specified : ip.ip.isUnspecified = false then some ⟨ip, specified⟩ else none

structure Limits where
  maxConnections : Nat
  maxConnectionsPerIp : Nat
  deriving DecidableEq, Repr

structure ConnectionTracker where
  currentConnections : Nat
  ipCounts : AList (fun _ : IpAddr => UInt32)

structure ConnectionGuard where
  ip : Option CanonicalIp
  deriving DecidableEq, Repr

/-- Where a connection stands: before the next access of `acquire`, `bind_ip` or `drop`, or between calls. -/
inductive Connection where
  | acquiring (ip : Option CanonicalIp)
  | overGlobal (current : Nat)
  | admitted (ip : CountedIp)
  | overIp (ip : CountedIp) (current : UInt32)
  | refused (error : AcquireError)
  /-- A guard, with the answer to the last call on it. -/
  | live (guard : ConnectionGuard) (answer : Except AcquireError Unit)
  | binding (ip : CountedIp)
  | dropping (guard : ConnectionGuard)
  | releasing (ip : CountedIp)
  | closed

inductive Signal where
  | advance
  | bindIp (ip : IpAddr)
  | drop
  deriving DecidableEq, Repr

namespace ConnectionTracker

def new : ConnectionTracker := ⟨0, ∅⟩

variable (tracker : ConnectionTracker)

def entry (ip : IpAddr) : UInt32 := (tracker.ipCounts.lookup ip).getD 0

def setEntry (ip : IpAddr) (count : UInt32) : ConnectionTracker :=
  { tracker with ipCounts := tracker.ipCounts.insert ip count }

def fetchAdd : ConnectionTracker := { tracker with currentConnections := tracker.currentConnections + 1 }

def fetchSub : ConnectionTracker := { tracker with currentConnections := tracker.currentConnections - 1 }

end ConnectionTracker

variable (limits : Limits)

def countIp (tracker : ConnectionTracker) (ip : CountedIp) : Bool × ConnectionTracker :=
  let count := tracker.entry ip.ip
  if limits.maxConnectionsPerIp ≤ count.toNat then (false, tracker.setEntry ip.ip count)
  else (true, tracker.setEntry ip.ip (count + 1))

def ipLimitReached (ip : CountedIp) (current : UInt32) : AcquireError :=
  .ipLimitReached ip.ip current limits.maxConnectionsPerIp

def afterRelease (guard : ConnectionGuard) : Connection :=
  match guard.ip.bind fun ip => (canonical ip.ip).counted with
  | some ip => .releasing ip
  | none => .closed

def uncountIp (tracker : ConnectionTracker) (ip : CountedIp) : ConnectionTracker :=
  match tracker.ipCounts.lookup ip.ip with
  | some count =>
    if count ≤ 1 then { tracker with ipCounts := tracker.ipCounts.erase ip.ip } else tracker.setEntry ip.ip (count - 1)
  | none => tracker

/-- One access of a connection, or the start of a call on its guard. Signals that do not fit do nothing: there is
one call at a time on a guard, and none after the drop. -/
def act (tracker : ConnectionTracker) : Connection → Signal → ConnectionTracker × Connection
  | .acquiring ip, .advance =>
    let current := tracker.currentConnections
    if limits.maxConnections ≤ current then (tracker.fetchAdd, .overGlobal current)
    else
      match ip.bind CanonicalIp.counted with
      | some ip => (tracker.fetchAdd, .admitted ip)
      | none => (tracker.fetchAdd, .live ⟨ip⟩ (.ok ()))
  | .overGlobal current, .advance =>
    (tracker.fetchSub, .refused (.globalLimitReached current limits.maxConnections))
  | .admitted ip, .advance =>
    match countIp limits tracker ip with
    | (true, counted) => (counted, .live ⟨some ip.toCanonicalIp⟩ (.ok ()))
    | (false, same) => (same, .overIp ip (tracker.entry ip.ip))
  | .overIp ip current, .advance => (tracker.fetchSub, .refused (ipLimitReached limits ip current))
  | .live guard _, .bindIp ip =>
    match (canonical ip).counted, guard.ip with
    | some ip, none => (tracker, .binding ip)
    | _, _ => (tracker, .live guard (.ok ()))
  | .binding ip, .advance =>
    match countIp limits tracker ip with
    | (true, counted) => (counted, .live ⟨some ip.toCanonicalIp⟩ (.ok ()))
    | (false, same) => (same, .live ⟨none⟩ (.error (ipLimitReached limits ip (tracker.entry ip.ip))))
  | .live guard _, .drop => (tracker, .dropping guard)
  | .dropping guard, .advance => (tracker.fetchSub, afterRelease guard)
  | .releasing ip, .advance => (uncountIp tracker ip, .closed)
  | connection, _ => (tracker, connection)

def connections : Program ConnectionTracker (Option IpAddr) Connection Signal :=
  ⟨fun ip => .acquiring (ip.map canonical), act limits⟩

abbrev Gateway := System ConnectionTracker Connection

def initial : Gateway := ⟨.new, []⟩

end Praeco.Connections.Tracker
