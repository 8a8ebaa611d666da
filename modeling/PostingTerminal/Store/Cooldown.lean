import PostingTerminal.Draft.Basic

/-!
# Cooldowns

After an action of some class the next one has to wait until the window of that class is
over.  A class without a window never waits.  The wait is told in whole minutes, rounded up;
a clock that has gone backwards counts as one that has not moved.
-/

namespace PostingTerminal.Store

/-- Milliseconds in a minute. -/
def minute : Nat := 60000

/-- Whether a class has to wait, and for how many minutes. -/
structure CooldownStatus where
  isActive : Bool
  remainingMinutes : Nat
  deriving DecidableEq, Repr

/-- No wait. -/
def CooldownStatus.inactive : CooldownStatus := ⟨false, 0⟩

/-- Windows in minutes and the times of the last actions, by class. -/
structure Cooldowns where
  windows : List (String × Nat)
  lastActions : List (String × Timestamp)
  deriving DecidableEq, Repr

namespace Cooldowns

/-- Windows without any action so far. -/
def ofWindows (windows : List (String × Nat)) : Cooldowns := ⟨windows, []⟩

/-- The window of a class in minutes: the last one given for it. -/
def window? (c : Cooldowns) (name : String) : Option Nat := c.windows.reverse.lookup name

/-- The time of the last action of a class. -/
def last? (c : Cooldowns) (name : String) : Option Timestamp := c.lastActions.lookup name

/-- Records an action of a class at a time. -/
def recordAt (c : Cooldowns) (name : String) (time : Timestamp) : Cooldowns :=
  { c with lastActions := (name, time) :: c.lastActions.filter (·.1 != name) }

/-- The wait that is left of a window after an action, seen at a later time. -/
def waitAfter (windowMinutes : Nat) (last now : Timestamp) : CooldownStatus :=
  let window := windowMinutes * minute
  let elapsed := now - last
  if elapsed ≥ window then .inactive
  else ⟨true, (window - elapsed + (minute - 1)) / minute⟩

/-- Whether a class has to wait at a time. -/
def status (c : Cooldowns) (name : String) (now : Timestamp) : CooldownStatus :=
  match c.window? name, c.last? name with
  | some window, some last => waitAfter window last now
  | _, _ => .inactive

end Cooldowns

end PostingTerminal.Store
