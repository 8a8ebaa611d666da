import Mathlib.Algebra.Order.Floor.Div
import Mathlib.Data.Nat.PSub
import Mathlib.Order.Bounds.Basic
import PostingTerminal.Proofs.Keyed
import PostingTerminal.Store.Cooldown

/-!
# How long a cooldown lasts

Actions of a class are recorded, and a wait is told for the class at some time.

* `waitAfter_isActive_iff`, `waitAfter_remainingMinutes` — **what is told of one window**: there is
  a wait while it lasts, and the minutes are what is left of it, rounded up.
* `checkedWait_eq` — the wait comes out the same in 64 bits, without an overflow, for a window
  whose milliseconds fit.
* `last?_after` — the last action of a class is the last one recorded for it, whatever has been
  recorded for other classes.
* `remaining_minutes_exact` — hence **the minutes that are told are the least after which the wait
  is over**.
-/

namespace PostingTerminal.Store.Cooldowns

/-! ## One window -/

section window

variable {window last now later : Nat}

/-- Within the window the wait is what is left of it, in minutes, rounded up. -/
theorem waitAfter_eq (window last now : Nat) : waitAfter window last now =
    if now - last < 60000 * window then ⟨true, (60000 * window - (now - last) + 59999) / 60000⟩
    else .inactive := by
  simp only [waitAfter, minute, Nat.mul_comm window]
  by_cases h : now - last < 60000 * window
  · rw [if_pos h, if_neg (Nat.not_le.2 h)]
  · rw [if_neg h, if_pos (Nat.not_lt.1 h)]

/-- **A wait lasts until the window is over.** -/
theorem waitAfter_isActive_iff :
    (waitAfter window last now).isActive = true ↔ now - last < 60000 * window := by
  rw [waitAfter_eq]
  split_ifs with h
  · simp [h]
  · simp [h, CooldownStatus.inactive]

/-- The minutes are those that are left, whether any are or not. -/
theorem waitAfter_remainingMinutes : (waitAfter window last now).remainingMinutes
    = (60000 * window - (now - last) + 59999) / 60000 := by
  rw [waitAfter_eq]
  split_ifs with h
  · rfl
  · simp only [CooldownStatus.inactive]
    omega

/-- No minutes are left of a wait that is over. -/
theorem waitAfter_idle (h : (waitAfter window last now).isActive = false) :
    (waitAfter window last now).remainingMinutes = 0 := by
  rw [← Bool.not_eq_true, waitAfter_isActive_iff] at h
  rw [waitAfter_remainingMinutes]
  omega

/-- **After so many minutes the wait is over**, and after fewer it is not. -/
theorem waitAfter_later_iff (h : last ≤ now) (m : Nat) :
    (waitAfter window last (now + 60000 * m)).isActive = false ↔
      (waitAfter window last now).remainingMinutes ≤ m := by
  rw [← Bool.not_eq_true, waitAfter_isActive_iff, waitAfter_remainingMinutes]
  omega

/-- The minutes that are left are the least after which the wait is over. -/
theorem waitAfter_isLeast (h : last ≤ now) :
    IsLeast {m | (waitAfter window last (now + 60000 * m)).isActive = false}
      (waitAfter window last now).remainingMinutes :=
  ⟨(waitAfter_later_iff h _).2 (Nat.le_refl _), fun m hover => (waitAfter_later_iff h m).1 hover⟩

/-- The minutes that are left do not become more. -/
theorem waitAfter_antitone (h : now ≤ later) : (waitAfter window last later).remainingMinutes
    ≤ (waitAfter window last now).remainingMinutes := by
  rw [waitAfter_remainingMinutes, waitAfter_remainingMinutes]
  omega

/-- A wait takes a minute at least, and the window at most. -/
theorem waitAfter_bounds (h : (waitAfter window last now).isActive = true) :
    1 ≤ (waitAfter window last now).remainingMinutes ∧
      (waitAfter window last now).remainingMinutes ≤ window := by
  rw [waitAfter_isActive_iff] at h
  rw [waitAfter_remainingMinutes]
  omega

/-- A clock that has gone backwards has the whole window before it. -/
theorem waitAfter_of_lt (h : now < last) (hwindow : 0 < window) :
    waitAfter window last now = ⟨true, window⟩ := by
  have helapsed : now - last = 0 := Nat.sub_eq_zero_of_le (Nat.le_of_lt h)
  have hminutes : (60000 * window + 59999) / 60000 = window := by omega
  rw [waitAfter_eq, helapsed, if_pos (by omega), Nat.sub_zero, hminutes]

end window

/-! ## Arithmetic in 64 bits -/

/-- The wait, computed in 64 bits: the window must not overflow, what has elapsed is cut off at
zero, and taking it from the window must not go below. -/
def checkedWait (windowMinutes last now : Nat) : Option CooldownStatus := do
  let window ← if windowMinutes * minute < 2 ^ 64 then some (windowMinutes * minute) else none
  let elapsed := now - last
  if elapsed ≥ window then return .inactive
  let left ← window.psub elapsed
  return ⟨true, left ⌈/⌉ minute⟩

/-- **Nothing overflows or goes below zero** for a window that fits into 64 bits. -/
theorem checkedWait_eq {window : Nat} (hfits : 60000 * window < 2 ^ 64) (last now : Timestamp) :
    checkedWait window last now = some (waitAfter window last now) := by
  have hwindow : window * minute < 2 ^ 64 := by rwa [Nat.mul_comm] at hfits
  have hminute : 1 ≤ minute := by decide
  unfold checkedWait waitAfter
  rw [if_pos hwindow, Option.bind_eq_bind, Option.bind_some]
  dsimp only
  by_cases hover : now - last ≥ window * minute
  · rw [if_pos hover, if_pos hover, Option.pure_def]
  · rw [if_neg hover, if_neg hover, Nat.psub_eq_sub (Nat.le_of_not_le hover), Option.bind_some,
      Nat.ceilDiv_eq_add_pred_div, Nat.add_sub_assoc hminute, Option.pure_def]

/-! ## Trackers -/

/-- A call that records an action of a class, at what the clock shows or at a time that is given. -/
inductive Call where
  | mark (name : String) (clock : Timestamp)
  | recordAt (name : String) (time : Timestamp)

/-- The class of the action. -/
def Call.name : Call → String
  | .mark name _ => name
  | .recordAt name _ => name

/-- The time that is recorded. -/
def Call.time : Call → Timestamp
  | .mark _ clock => clock
  | .recordAt _ time => time

/-- What calls leave. -/
def after (c : Cooldowns) (calls : List Call) : Cooldowns :=
  calls.foldl (fun c call => c.recordAt call.name call.time) c

/-- The last time that calls have recorded for a class. -/
def lastTime? (calls : List Call) (name : String) : Option Timestamp :=
  (calls.filter (·.name == name)).getLast?.map Call.time

section tracker

variable {c : Cooldowns} {name : String} {window : Nat}

/-- Recording an action of a class says when its last one was, and leaves the other classes. -/
theorem last?_recordAt (c : Cooldowns) (name : String) (time : Timestamp) (other : String) :
    (c.recordAt name time).last? other = if other = name then some time else c.last? other :=
  lookup_cons_filter_ne c.lastActions name time other

/-- The windows stay. -/
theorem windows_after (c : Cooldowns) (calls : List Call) :
    (c.after calls).windows = c.windows := by
  induction calls generalizing c with
  | nil => rfl
  | cons call calls ih => exact ih (c.recordAt call.name call.time)

/-- **The last action** of a class is at the last time that has been recorded for it. -/
theorem last?_after (windows : List (String × Nat)) (calls : List Call) (name : String) :
    ((ofWindows windows).after calls).last? name = lastTime? calls name := by
  induction calls using List.reverseRecOn with
  | nil => rfl
  | append_singleton calls call ih =>
    unfold after lastTime? at ih ⊢
    rw [List.foldl_concat, last?_recordAt, ih, List.filter_append]
    by_cases h : name = call.name
    · simp [h]
    · simp [h, Ne.symm h]

/-- The status of a class with a window is the wait after its last action. -/
theorem status_of_window (hwindow : c.window? name = some window) (now : Timestamp) :
    c.status name now =
      (c.last? name).elim .inactive fun last => waitAfter window last now := by
  unfold status
  rw [hwindow]
  cases c.last? name with
  | none => rfl
  | some last => rw [Option.elim_some]

/-- So it depends on the last time recorded for the class only. -/
theorem status_after {windows : List (String × Nat)}
    (hwindow : (ofWindows windows).window? name = some window) (calls : List Call)
    (now : Timestamp) : ((ofWindows windows).after calls).status name now =
      (lastTime? calls name).elim .inactive fun last => waitAfter window last now := by
  have hkept : ((ofWindows windows).after calls).window? name = some window := by
    rw [window?, windows_after]
    exact hwindow
  rw [status_of_window hkept, last?_after]

/-- A class has not to wait before an action has been recorded for it. -/
theorem status_of_never {windows : List (String × Nat)} {calls : List Call}
    (hwindow : (ofWindows windows).window? name = some window)
    (hnone : lastTime? calls name = none) (now : Timestamp) :
    ((ofWindows windows).after calls).status name now = .inactive := by
  rw [status_after hwindow, hnone, Option.elim_none]

/-- It has to wait for what is left of the window after the last action. -/
theorem status_of_last {windows : List (String × Nat)} {calls : List Call} {last : Timestamp}
    (hwindow : (ofWindows windows).window? name = some window)
    (hlast : lastTime? calls name = some last) (now : Timestamp) :
    ((ofWindows windows).after calls).status name now = waitAfter window last now := by
  rw [status_after hwindow, hlast, Option.elim_some]

end tracker

/-- **The minutes that a cooldown reports are exact.**  Of a tracker with windows any actions of any
classes are recorded, with or without a given time.  What it tells about a class with a window,
whose milliseconds fit into 64 bits, depends on the last time that has been recorded for the class
only, and it is inactive if there is none.  From that time on it is active exactly within the
window; the minutes are then at least one and at most the window, and they are the least number
after which it is inactive.  Before that time, on a clock that has been set back, it is active for
the whole window, if that is not empty.  The minutes never increase with time, they are zero when
it is inactive, and the arithmetic in 64 bits neither overflows nor goes below zero. -/
theorem remaining_minutes_exact {windows : List (String × Nat)} {name : String} {window : Nat}
    (hwindow : (ofWindows windows).window? name = some window)
    (hfits : 60000 * window < 2 ^ 64) (calls : List Call) :
    let status := ((ofWindows windows).after calls).status name
    (∀ others, lastTime? others name = lastTime? calls name →
      ((ofWindows windows).after others).status name = status) ∧
    (lastTime? calls name = none → ∀ now, status now = .inactive) ∧
    (∀ last, lastTime? calls name = some last →
      (∀ now, last ≤ now →
        ((status now).isActive = true ↔ now - last < 60000 * window) ∧
        ((status now).isActive = true →
          1 ≤ (status now).remainingMinutes ∧ (status now).remainingMinutes ≤ window ∧
          IsLeast {m | (status (now + 60000 * m)).isActive = false}
            (status now).remainingMinutes)) ∧
      (∀ now, now < last → 0 < window → status now = ⟨true, window⟩) ∧
      ∀ now, checkedWait window last now = some (status now)) ∧
    (∀ now later, now ≤ later →
      (status later).remainingMinutes ≤ (status now).remainingMinutes) ∧
    ∀ now, (status now).isActive = false → (status now).remainingMinutes = 0 := by
  intro status
  have hnever (hnone : lastTime? calls name = none) (now : Timestamp) : status now = .inactive :=
    status_of_never hwindow hnone now
  have hwait {last : Timestamp} (hlast : lastTime? calls name = some last) (now : Timestamp) :
      status now = waitAfter window last now := status_of_last hwindow hlast now
  refine ⟨?_, hnever, ?_, ?_, ?_⟩
  · intro others hsame
    funext now
    rw [status_after hwindow others, hsame]
    exact (status_after hwindow calls now).symm
  · intro last hlast
    simp only [hwait hlast]
    refine ⟨?_, fun now hlt hpositive => waitAfter_of_lt hlt hpositive, checkedWait_eq hfits last⟩
    intro now hle
    refine ⟨waitAfter_isActive_iff, fun hactive => ?_⟩
    obtain ⟨hleast, hmost⟩ := waitAfter_bounds hactive
    exact ⟨hleast, hmost, waitAfter_isLeast hle⟩
  · intro now later hle
    cases hlast : lastTime? calls name with
    | none => rw [hnever hlast, hnever hlast]
    | some last =>
      rw [hwait hlast, hwait hlast]
      exact waitAfter_antitone hle
  · intro now hidle
    cases hlast : lastTime? calls name with
    | none =>
      rw [hnever hlast]
      rfl
    | some last =>
      rw [hwait hlast] at hidle ⊢
      exact waitAfter_idle hidle

/-- An hour for threads: one is posted at the tenth minute, and then something else. -/
def hourlyCalls : List Call := [.mark "thread" 1, .recordAt "thread" 600000, .mark "reply" 600001]

/-- A millisecond after twelve minutes of the hour are left, eleven minutes do not end the wait and
twelve do. -/
theorem remaining_minutes_of_an_hour :
    (ofWindows [("thread", 60)]).window? "thread" = some 60 ∧ 60000 * 60 < 2 ^ 64 ∧
      lastTime? hourlyCalls "thread" = some 600000 ∧
      let status := ((ofWindows [("thread", 60)]).after hourlyCalls).status "thread"
      (status 3480001).isActive = true ∧
        IsLeast {m | (status (3480001 + 60000 * m)).isActive = false} 12 := by
  have hwindow : (ofWindows [("thread", 60)]).window? "thread" = some 60 := by decide
  have hlast : lastTime? hourlyCalls "thread" = some 600000 := by decide
  have hfits : 60000 * 60 < 2 ^ 64 := by decide
  obtain ⟨-, -, hexact, -⟩ := remaining_minutes_exact hwindow hfits hourlyCalls
  obtain ⟨hactive, hleast⟩ := (hexact 600000 hlast).1 3480001 (by decide)
  have hwaits := hactive.2 (by decide)
  have htwelve : (((ofWindows [("thread", 60)]).after hourlyCalls).status "thread"
      3480001).remainingMinutes = 12 := by decide
  have h := (hleast hwaits).2.2
  rw [htwelve] at h
  exact ⟨hwindow, hfits, hlast, hwaits, h⟩

end PostingTerminal.Store.Cooldowns
