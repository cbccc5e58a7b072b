import Arcade.Number.Scalar

/-! Timers on the clock of a scene. A repeating timer that fell behind fires a few times at once and
drops the rest of its backlog. -/

namespace Arcade

structure Timer (T : Type) where
  interval : T
  nextDue : T
  repeating : Bool
  finished : Bool

namespace Timer

variable {T : Type} [Scalar T]

/-- Firings of one poll at most. -/
def maxCatchUp : Nat := 4

/-- A timer that is first due one interval after the start. Intervals are whole milliseconds, at
least one. -/
def start (repeating : Bool) (interval : Nat) (now : T) : Timer T :=
  let interval : T := Scalar.ofNat (max interval 1)
  ⟨interval, now + interval, repeating, false⟩

def every (interval : Nat) (now : T) : Timer T := start true interval now
def after (delay : Nat) (now : T) : Timer T := start false delay now

/-- Fire once for each due time passed, up to a number of times. -/
def catchUp (now : T) : (room : Nat) → Timer T → Timer T × Nat
  | 0, timer => (timer, 0)
  | room + 1, timer =>
    if timer.nextDue ≤ now then
      let (later, fired) := catchUp now room { timer with nextDue := timer.nextDue + timer.interval }
      (later, fired + 1)
    else (timer, 0)

/-- Move the due time past the present without firing. -/
def dropBacklog (now : T) (timer : Timer T) : Timer T :=
  if timer.nextDue ≤ now then
    let missed := Scalar.floor ((now - timer.nextDue) / timer.interval) + 1
    { timer with nextDue := timer.nextDue + missed * timer.interval }
  else timer

/-- The timer after a look at the clock, and how often it fired. -/
def poll (timer : Timer T) (now : T) : Timer T × Nat :=
  if timer.finished || decide (now < timer.nextDue) then (timer, 0)
  else if timer.repeating then
    let (later, fired) := catchUp now maxCatchUp timer
    (dropBacklog now later, fired)
  else ({ timer with finished := true }, 1)

def cancel (timer : Timer T) : Timer T := { timer with finished := true }

theorem poll_of_finished (timer : Timer T) (now : T) (finished : timer.finished = true) :
    timer.poll now = (timer, 0) := by
  simp [poll, finished]

theorem poll_cancel (timer : Timer T) (now : T) : timer.cancel.poll now = (timer.cancel, 0) :=
  poll_of_finished timer.cancel now rfl

theorem catchUp_le (now : T) (room : Nat) (timer : Timer T) : (catchUp now room timer).2 ≤ room := by
  induction room generalizing timer with
  | zero => simp [catchUp]
  | succ room ih =>
    by_cases due : timer.nextDue ≤ now
    · have fired := ih { timer with nextDue := timer.nextDue + timer.interval }
      simp only [catchUp, due, ↓reduceIte]
      omega
    · simp [catchUp, due]

/-- However far behind, a timer fires a limited number of times. -/
theorem poll_le (timer : Timer T) (now : T) : (timer.poll now).2 ≤ maxCatchUp := by
  unfold poll
  split
  · exact Nat.zero_le _
  · split
    · exact catchUp_le now maxCatchUp timer
    · exact Nat.succ_le_succ (Nat.zero_le 3)

end Timer

end Arcade
