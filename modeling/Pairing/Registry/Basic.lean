import Pairing.Entropy
import Pairing.Service.Error

/-!
# The registry of sessions in flight

Between its two steps an initiator's session stands in the registry under a random handle. A session whose
age has reached the time limit is expired. Expired sessions are dropped when a session is inserted and
when they are asked for; until then they may still stand in the registry.
-/

namespace Pairing

/-- Time in nanoseconds. -/
abbrev Time := Nat

def Time.ofSeconds (n : Nat) : Time := n * 1000000000

namespace Registry

structure Limits where
  timeToLive : Time := .ofSeconds 300
  maxSessions : Nat := 1024
  deriving DecidableEq

structure Entry (S : Type) where
  handle : Handle
  session : S
  createdAt : Time

/-- A clock that stands before the creation counts as no time having passed. -/
def Entry.isExpired {S : Type} (limits : Limits) (now : Time) (entry : Entry S) : Bool :=
  limits.timeToLive ≤ now - entry.createdAt

end Registry

open Registry

/-- No two entries have one handle; the entries stand in the order of insertion. -/
structure Registry (S : Type) where
  limits : Limits
  entries : List (Entry S)
  nodup_handles : (entries.map Entry.handle).Nodup

namespace Registry

variable {S : Type}

def new (S : Type) (limits : Limits) : Registry S := ⟨limits, [], List.nodup_nil⟩

def size (r : Registry S) : Nat := r.entries.length

def handles (r : Registry S) : List Handle := r.entries.map Entry.handle

def find? (r : Registry S) (h : Handle) : Option (Entry S) := r.entries.find? fun x => x.handle == h

def contains (r : Registry S) (h : Handle) : Bool := (r.find? h).isSome

/-- The registry of those entries that pass a test. -/
def filter (r : Registry S) (keep : Entry S → Bool) : Registry S where
  limits := r.limits
  entries := r.entries.filter keep
  nodup_handles := r.nodup_handles.sublist (List.filter_sublist.map _)

def erase (r : Registry S) (h : Handle) : Registry S := r.filter fun x => x.handle != h

/-- The registry without its expired entries. -/
def purged (r : Registry S) (now : Time) : Registry S := r.filter fun x => !x.isExpired r.limits now

/-- Purges the registry and counts what that removed. -/
def purge (r : Registry S) (now : Time) : Nat × Registry S :=
  (r.size - (r.purged now).size, r.purged now)

def push (r : Registry S) (x : Entry S) (h : x.handle ∉ r.handles) : Registry S where
  limits := r.limits
  entries := r.entries ++ [x]
  nodup_handles := by
    rw [List.map_append, List.nodup_append]
    refine ⟨r.nodup_handles, by simp, ?_⟩
    intro a ha b hb hab
    rw [List.map_singleton, List.mem_singleton] at hb
    exact h (hb ▸ hab ▸ ha)

/-- Draws handles until one is not taken. -/
def freshHandle (taken : List Handle) (e : Entropy) :
    Except Pairing.Error {h : Handle // h ∉ taken} × Entropy :=
  match _h : e.read 16 with
  | (.error err, e') => (.error err, e')
  | (.ok b, e') =>
    if ht : Handle.ofBlock b ∈ taken then freshHandle taken e' else (.ok ⟨Handle.ofBlock b, ht⟩, e')
termination_by e.remaining
decreasing_by exact Entropy.remaining_read_lt (by decide) _h

/-- Registers a session under a fresh handle, after the expired ones are gone. A full registry refuses
before anything random is drawn. -/
def insert (r : Registry S) (session : S) (now : Time) (e : Entropy) :
    Except Service.Error Handle × Registry S × Entropy :=
  let r := r.purged now
  if r.limits.maxSessions ≤ r.size then (.error (.registryFull r.limits.maxSessions), r, e)
  else
    match freshHandle r.handles e with
    | (.error err, e) => (.error (.pairing err), r, e)
    | (.ok h, e) => (.ok h.1, r.push ⟨h.1, session, now⟩ h.2, e)

/-- Removes a session and hands it out unless it has expired. -/
def take (r : Registry S) (h : Handle) (now : Time) : Except Service.Error S × Registry S :=
  match r.find? h with
  | none => (.error (.unknownSession h), r)
  | some x =>
    if x.isExpired r.limits now then (.error (.sessionExpired h), r.erase h)
    else (.ok x.session, r.erase h)

end Registry

end Pairing
