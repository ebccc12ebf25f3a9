/-!
Throttling of events per key. The first event of a key passes; a later one passes when at least the
interval has gone by since the last event of that key that passed. Clock readings are inputs.
-/

namespace BleBeacon

/-- An interval and, for each key that has passed, the clock reading when it last did. -/
structure Throttle (κ : Type) where
  -- The interval in nanoseconds.
  interval : Nat
  lastSeen : List (κ × Nat)

namespace Throttle

variable {κ : Type} [BEq κ]

def new (interval : Nat) : Throttle κ := ⟨interval, []⟩

def last? (t : Throttle κ) (key : κ) : Option Nat := t.lastSeen.lookup key

def remember (t : Throttle κ) (key : κ) (now : Nat) : Throttle κ :=
  { t with lastSeen := (key, now) :: t.lastSeen.filter (!·.1 == key) }

/-- Whether an event passes now, and the throttle behind it. A blocked event changes nothing. -/
def admits (t : Throttle κ) (key : κ) (now : Nat) : Bool × Throttle κ :=
  match t.last? key with
  | some last => if now - last < t.interval then (false, t) else (true, t.remember key now)
  | none => (true, t.remember key now)

/-- Which of some events pass, each given by its key and the clock reading when it comes. -/
def run (t : Throttle κ) : List (κ × Nat) → List Bool
  | [] => []
  | (key, now) :: rest =>
    let (passes, t) := t.admits key now
    passes :: t.run rest

end Throttle

end BleBeacon
