import Arcade.Timer
import Mathlib.Data.List.MinMax
import Mathlib.Data.Rat.Floor
import Mathlib.Data.Set.Card
import Mathlib.Order.Interval.Finset.Nat
import Mathlib.Tactic.FieldSimp
import Mathlib.Tactic.Linarith
import Mathlib.Tactic.Ring

/-! Timers in exact fractions keep to the grid of their due times. A repeating timer waits for the first
due time that no look at the clock has reached, however the looks are ordered; how often it fires at a
look is how many due times it newly reached, up to what it may catch up with. -/

namespace Arcade.Timer

/-- A timer after looks at the clock, one after the other, and how often it fired at each of them. -/
def pollAll {T : Type} [Scalar T] (timer : Timer T) : List T → Timer T × List Nat
  | [] => (timer, [])
  | now :: rest =>
    let (next, fired) := timer.poll now
    let (last, more) := next.pollAll rest
    (last, fired :: more)

theorem pollAll_cons {T : Type} [Scalar T] (timer : Timer T) (now : T) (rest : List T) :
    timer.pollAll (now :: rest) =
      (((timer.poll now).1.pollAll rest).1,
        (timer.poll now).2 :: ((timer.poll now).1.pollAll rest).2) := rfl

/-- One more look. -/
theorem pollAll_concat {T : Type} [Scalar T] (timer : Timer T) (times : List T) (now : T) :
    timer.pollAll (times ++ [now]) =
      (((timer.pollAll times).1.poll now).1,
        (timer.pollAll times).2 ++ [((timer.pollAll times).1.poll now).2]) := by
  induction times generalizing timer with
  | nil => rfl
  | cons first rest ih =>
    rw [List.cons_append, pollAll_cons, ih, pollAll_cons]
    rfl

/-- A timer that is finished stays as it is. -/
theorem pollAll_of_finished {T : Type} [Scalar T] {timer : Timer T}
    (finished : timer.finished = true) (times : List T) :
    timer.pollAll times = (timer, List.replicate times.length 0) := by
  induction times with
  | nil => rfl
  | cons now rest ih =>
    rw [pollAll_cons, poll_of_finished timer now finished, ih]
    rfl

/-! ### The grid -/

/-- The time between two firings. -/
def period (interval : Nat) : Rat := (max interval 1 : Nat)

/-- The times at which a timer is due. -/
def dueTimes (interval : Nat) (start : Rat) : Set Rat :=
  {time | ∃ count : Nat, 1 ≤ count ∧ time = start + count * period interval}

/-- How many due times were reached by a time. -/
def reached (interval : Nat) (start now : Rat) : Nat := ⌊(now - start) / period interval⌋₊

variable {interval : Nat} {start now : Rat}

theorem period_pos (interval : Nat) : 0 < period interval := by
  have least : 1 ≤ max interval 1 := Nat.le_max_right interval 1
  exact Nat.cast_pos.mpr least

theorem le_reached_iff {count : Nat} (positive : 1 ≤ count) :
    count ≤ reached interval start now ↔ start + count * period interval ≤ now := by
  rw [reached, Nat.le_floor_iff' (Nat.one_le_iff_ne_zero.mp positive),
    le_div_iff₀ (period_pos interval)]
  exact ⟨fun bound => by linarith, fun bound => by linarith⟩

theorem reached_start (interval : Nat) (start : Rat) : reached interval start start = 0 := by
  rw [reached, sub_self, zero_div, Nat.floor_zero]

theorem reached_mono {later : Rat} (order : now ≤ later) :
    reached interval start now ≤ reached interval start later := by
  apply Nat.floor_mono
  exact div_le_div_of_nonneg_right (sub_le_sub_right order start) (period_pos interval).le

/-- Past the start, what was reached is a whole part. -/
theorem reached_eq_floor (order : start ≤ now) :
    (reached interval start now : Int) = ⌊(now - start) / period interval⌋ :=
  Int.natCast_floor_eq_floor (div_nonneg (sub_nonneg.mpr order) (period_pos interval).le)

/-! ### One look -/

/-- A repeating timer that waits for the due time after so many others. -/
def ahead (interval : Nat) (start : Rat) (passed : Nat) : Timer Rat :=
  ⟨period interval, start + (passed + 1 : Nat) * period interval, true, false⟩

theorem every_eq_ahead (interval : Nat) (start : Rat) :
    every interval start = ahead interval start 0 := by
  rw [ahead, Nat.zero_add, Nat.cast_one, one_mul]
  rfl

theorem nextDue_ahead_le_iff {passed : Nat} :
    (ahead interval start passed).nextDue ≤ now ↔ passed < reached interval start now :=
  (le_reached_iff (Nat.le_add_left 1 passed)).symm

/-- The due time after the next one. -/
theorem ahead_succ (interval : Nat) (start : Rat) (passed : Nat) :
    { ahead interval start passed with
      nextDue := (ahead interval start passed).nextDue + (ahead interval start passed).interval } =
        ahead interval start (passed + 1) := by
  have next : start + ((passed + 1 : Nat) : Rat) * period interval + period interval =
      start + ((passed + 1 + 1 : Nat) : Rat) * period interval := by
    push_cast
    ring
  exact congrArg (fun due => (⟨period interval, due, true, false⟩ : Timer Rat)) next

theorem catchUp_ahead (room passed : Nat) :
    catchUp now room (ahead interval start passed) =
      (ahead interval start (passed + min room (reached interval start now - passed)),
        min room (reached interval start now - passed)) := by
  induction room generalizing passed with
  | zero => simp only [catchUp, Nat.zero_min, Nat.add_zero]
  | succ room ih =>
    rw [catchUp]
    split
    · rename_i due
      have behind := nextDue_ahead_le_iff.mp due
      have more : min (room + 1) (reached interval start now - passed) =
          min room (reached interval start now - (passed + 1)) + 1 := by omega
      rw [ahead_succ, ih, more, Nat.add_assoc, Nat.add_comm 1]
    · rename_i early
      have caught : reached interval start now - passed = 0 := by
        have ends := mt nextDue_ahead_le_iff.mpr early
        omega
      rw [caught, Nat.min_zero, Nat.add_zero]

/-- What is left of a backlog is passed over. -/
theorem dropBacklog_ahead (passed : Nat) :
    dropBacklog now (ahead interval start passed) =
      ahead interval start (max passed (reached interval start now)) := by
  rw [dropBacklog]
  split
  · rename_i due
    have behind := nextDue_ahead_le_iff.mp due
    have positive := period_pos interval
    have elapsed : (now - (start + (passed + 1 : Nat) * period interval)) / period interval =
        (now - start) / period interval - (passed + 1 : Nat) := by
      field_simp
      ring
    have whole : (⌊(now - start) / period interval⌋ : Int) = reached interval start now := by
      refine (reached_eq_floor ?_).symm
      have due : start + ((passed + 1 : Nat) : Rat) * period interval ≤ now := due
      have ahead : 0 ≤ ((passed + 1 : Nat) : Rat) * period interval := by positivity
      linarith
    have missed : ((⌊(now - (start + (passed + 1 : Nat) * period interval)) / period interval⌋ :
        Int) : Rat) = reached interval start now - (passed + 1 : Nat) := by
      rw [elapsed, Int.floor_sub_natCast, whole]
      push_cast
      ring
    have next : start + ((passed + 1 : Nat) : Rat) * period interval +
        (((⌊(now - (start + (passed + 1 : Nat) * period interval)) / period interval⌋ : Int) : Rat)
          + 1) * period interval =
        start + ((reached interval start now + 1 : Nat) : Rat) * period interval := by
      rw [missed]
      push_cast
      ring
    rw [Nat.max_eq_right behind.le]
    exact congrArg (fun due => (⟨period interval, due, true, false⟩ : Timer Rat)) next
  · rename_i early
    have caught := mt nextDue_ahead_le_iff.mpr early
    rw [Nat.max_eq_left (Nat.le_of_not_lt caught)]

/-- At a look a timer fires for the due times that were newly reached, as far as it may catch up, and then
waits for the next one. -/
theorem poll_ahead (passed : Nat) (now : Rat) :
    (ahead interval start passed).poll now =
      (ahead interval start (max passed (reached interval start now)),
        min maxCatchUp (reached interval start now - passed)) := by
  rw [poll]
  split
  · rename_i early
    have before : now < (ahead interval start passed).nextDue := by
      simpa [ahead] using early
    have caught : reached interval start now ≤ passed := by
      have ends := mt nextDue_ahead_le_iff.mpr (not_le.mpr before)
      omega
    rw [Nat.max_eq_left caught, Nat.sub_eq_zero_of_le caught, Nat.min_zero]
  · rename_i late
    have due : (ahead interval start passed).nextDue ≤ now := by
      simpa [ahead] using late
    have behind := nextDue_ahead_le_iff.mp due
    have within : max (passed + min maxCatchUp (reached interval start now - passed))
        (reached interval start now) = max passed (reached interval start now) := by omega
    change (dropBacklog now (catchUp now maxCatchUp (ahead interval start passed)).1,
      (catchUp now maxCatchUp (ahead interval start passed)).2) = _
    rw [catchUp_ahead, dropBacklog_ahead, within]

/-! ### Many looks -/

/-- How many due times are passed after looks at the clock. -/
def passed (interval : Nat) (start : Rat) (before : Nat) (times : List Rat) : Nat :=
  times.foldl (fun passed now => max passed (reached interval start now)) before

theorem passed_cons (before : Nat) (now : Rat) (rest : List Rat) :
    passed interval start before (now :: rest) =
      passed interval start (max before (reached interval start now)) rest := rfl

theorem passed_le_iff {before bound : Nat} {times : List Rat} :
    passed interval start before times ≤ bound ↔
      before ≤ bound ∧ ∀ time ∈ times, reached interval start time ≤ bound := by
  induction times generalizing before with
  | nil => simp [passed]
  | cons now rest ih => rw [passed_cons, ih, Nat.max_le, List.forall_mem_cons, and_assoc]

theorem reached_le_passed {before : Nat} {times : List Rat} {time : Rat} (looked : time ∈ times) :
    reached interval start time ≤ passed interval start before times :=
  (passed_le_iff.mp (Nat.le_refl _)).2 time looked

/-- What was not reached by any look is after the passed due times. -/
theorem passed_lt_iff {count : Nat} {times : List Rat} (positive : 1 ≤ count) :
    passed interval start 0 times < count ↔
      ∀ time ∈ times, time < start + count * period interval := by
  obtain ⟨below, rfl⟩ := Nat.exists_eq_add_of_le' positive
  rw [Nat.lt_succ_iff, passed_le_iff]
  have each (time : Rat) : reached interval start time ≤ below ↔
      time < start + ((below + 1 : Nat) : Rat) * period interval := by
    rw [← Nat.lt_succ_iff, ← not_le, ← not_le]
    exact not_congr (le_reached_iff (Nat.le_add_left 1 below))
  simp only [each, Nat.zero_le, true_and]

theorem pollAll_ahead (before : Nat) (times : List Rat) :
    ((ahead interval start before).pollAll times).1 =
      ahead interval start (passed interval start before times) := by
  induction times generalizing before with
  | nil => rfl
  | cons now rest ih => rw [pollAll_cons, poll_ahead, ih, passed_cons]

/-- A timer fires at most once for each due time that it passes. -/
theorem fired_le_passed (before : Nat) (times : List Rat) :
    ((ahead interval start before).pollAll times).2.sum + before ≤
      passed interval start before times := by
  induction times generalizing before with
  | nil => exact (Nat.zero_add before).le
  | cons now rest ih =>
    rw [pollAll_cons, poll_ahead, List.sum_cons, passed_cons]
    have later := ih (max before (reached interval start now))
    dsimp only
    omega

/-- A look that comes in time finds no more due times than a timer catches up with. -/
theorem reached_le_of_le {earlier : Rat} (near : now ≤ earlier + maxCatchUp * period interval) :
    reached interval start now ≤ reached interval start earlier + maxCatchUp := by
  by_contra far
  have next : reached interval start earlier + maxCatchUp + 1 ≤ reached interval start now := by
    omega
  have due := (le_reached_iff (Nat.le_add_left 1 _)).mp next
  have again : start + ((reached interval start earlier + 1 : Nat) : Rat) * period interval ≤
      earlier := by
    push_cast at due ⊢
    linarith
  have more := (le_reached_iff (Nat.le_add_left 1 _)).mpr again
  omega

/-- Looks, after one at some time, each of which is not too far from the one before. -/
abbrev Spaced (interval : Nat) (earlier : Rat) (times : List Rat) : Prop :=
  List.IsChain (fun earlier later => |later - earlier| ≤ maxCatchUp * period interval)
    (earlier :: times)

/-- As long as looks come in time, a timer fires once for each due time that it passes. -/
theorem fired_of_spaced {before : Nat} {earlier : Rat} {times : List Rat}
    (spaced : Spaced interval earlier times) (looked : reached interval start earlier ≤ before) :
    ((ahead interval start before).pollAll times).2.sum + before =
      passed interval start before times := by
  induction times generalizing before earlier with
  | nil => exact Nat.zero_add before
  | cons now rest ih =>
    obtain ⟨near, spaced⟩ := List.isChain_cons_cons.mp spaced
    have close : now ≤ earlier + maxCatchUp * period interval := by
      have bound := le_of_abs_le near
      linarith
    have newly : reached interval start now ≤ reached interval start earlier + maxCatchUp :=
      reached_le_of_le close
    have later := ih spaced (Nat.le_max_right before (reached interval start now))
    rw [pollAll_cons, poll_ahead, List.sum_cons, passed_cons, ← later]
    dsimp only
    omega

/-- The passed due times are those that were reached by the latest look. -/
theorem passed_eq_reached {times : List Rat} {latest : Rat}
    (greatest : IsGreatest {time | time ∈ start :: times} latest) :
    passed interval start 0 times = reached interval start latest := by
  apply le_antisymm
  · refine passed_le_iff.mpr ⟨Nat.zero_le _, fun time looked => ?_⟩
    exact reached_mono (greatest.2 (List.mem_cons_of_mem start looked))
  · rcases List.mem_cons.mp greatest.1 with same | looked
    · rw [same, reached_start]
      exact Nat.zero_le _
    · exact reached_le_passed looked

/-! ### Counting due times -/

/-- The due times after so many and up to so many. -/
theorem ncard_dues (first last : Nat) :
    {time : Rat | ∃ count : Nat, first < count ∧ count ≤ last ∧
      time = start + count * period interval}.ncard = last - first := by
  have image : {time : Rat | ∃ count : Nat, first < count ∧ count ≤ last ∧
      time = start + count * period interval} =
        (fun count : Nat => start + (count : Rat) * period interval) ''
          (Finset.Ioc first last : Finset Nat) := by
    ext time
    simp only [Set.mem_ofPred_eq, Set.mem_image, Finset.coe_Ioc, Set.mem_Ioc]
    constructor
    · rintro ⟨count, after, upTo, rfl⟩
      exact ⟨count, ⟨after, upTo⟩, rfl⟩
    · rintro ⟨count, ⟨after, upTo⟩, rfl⟩
      exact ⟨count, after, upTo, rfl⟩
  have apart : Function.Injective fun count : Nat => start + (count : Rat) * period interval := by
    intro one other same
    have scaled := mul_right_cancel₀ (period_pos interval).ne' (add_left_cancel same)
    exact Nat.cast_injective scaled
  rw [image, Set.ncard_image_of_injective _ apart, Set.ncard_coe_finset, Nat.card_Ioc]

/-- The due times that a look is the first to reach. -/
theorem dues_newly_reached (times : List Rat) (now : Rat) :
    {due ∈ dueTimes interval start | (∀ time ∈ times, time < due) ∧ due ≤ now} =
      {due | ∃ count : Nat, passed interval start 0 times < count ∧
        count ≤ reached interval start now ∧ due = start + count * period interval} := by
  ext due
  constructor
  · rintro ⟨⟨count, positive, rfl⟩, ahead, upTo⟩
    exact ⟨count, (passed_lt_iff positive).mpr ahead, (le_reached_iff positive).mpr upTo, rfl⟩
  · rintro ⟨count, ahead, upTo, rfl⟩
    have positive : 1 ≤ count := Nat.one_le_of_lt ahead
    exact ⟨⟨count, positive, rfl⟩, (passed_lt_iff positive).mp ahead,
      (le_reached_iff positive).mp upTo⟩

/-- The due times that were reached by some look. -/
theorem dues_passed (times : List Rat) :
    {due ∈ dueTimes interval start | ∃ time ∈ times, due ≤ time} =
      {due | ∃ count : Nat, 0 < count ∧ count ≤ passed interval start 0 times ∧
        due = start + count * period interval} := by
  have each {count : Nat} (positive : 1 ≤ count) :
      count ≤ passed interval start 0 times ↔
        ∃ time ∈ times, start + count * period interval ≤ time := by
    rw [← not_lt, passed_lt_iff positive]
    push Not
    rfl
  ext due
  constructor
  · rintro ⟨⟨count, positive, rfl⟩, looked⟩
    exact ⟨count, positive, (each positive).mpr looked, rfl⟩
  · rintro ⟨count, positive, upTo, rfl⟩
    exact ⟨⟨count, positive, rfl⟩, (each positive).mp upTo⟩

/-! ### Timers that fire once -/

/-- A timer that fires once does so at a look that comes late enough, and is finished. -/
theorem poll_after (delay : Nat) (start now : Rat) :
    (after delay start).poll now =
      if start + period delay ≤ now then ((after delay start).cancel, 1)
      else (after delay start, 0) := by
  have waits : (after delay start).finished = false := rfl
  have single : (after delay start).repeating = false := rfl
  have due : (after delay start).nextDue = start + period delay := rfl
  rw [poll, waits, single, due, Bool.false_or]
  by_cases late : start + period delay ≤ now
  · rw [if_pos late, if_neg (by simpa using late)]
    rfl
  · rw [if_neg late, if_pos (by simpa using late)]

theorem pollAll_after (delay : Nat) (start : Rat) (times : List Rat) :
    ((after delay start).pollAll times).1 =
        (if ∃ time ∈ times, start + period delay ≤ time then (after delay start).cancel
          else after delay start) ∧
      ((after delay start).pollAll times).2.sum =
        if ∃ time ∈ times, start + period delay ≤ time then 1 else 0 := by
  induction times with
  | nil => exact ⟨(if_neg (by simp)).symm, (if_neg (by simp)).symm⟩
  | cons now rest ih =>
    rw [pollAll_cons, poll_after]
    by_cases due : start + period delay ≤ now
    · have some : ∃ time ∈ now :: rest, start + period delay ≤ time :=
        ⟨now, List.mem_cons_self, due⟩
      have silent : (after delay start).cancel.pollAll rest =
          ((after delay start).cancel, List.replicate rest.length 0) := pollAll_of_finished rfl rest
      rw [if_pos due, if_pos some, if_pos some, silent]
      exact ⟨rfl, by simp⟩
    · have same : (∃ time ∈ now :: rest, start + period delay ≤ time) ↔
          ∃ time ∈ rest, start + period delay ≤ time := by simp [due]
      rw [if_neg due]
      simp only [same]
      refine ⟨ih.1, ?_⟩
      rw [List.sum_cons, Nat.zero_add]
      exact ih.2

/-! ### Keeping time -/

/-- What timers of an interval do from their start on, whenever somebody looks at the clock. -/
structure KeepsTime (interval : Nat) (start : Rat) : Prop where
  /-- A repeating timer waits for the first due time that no look has reached. -/
  waits : ∀ times, IsLeast {due ∈ dueTimes interval start | ∀ time ∈ times, time < due}
    ((every interval start).pollAll times).1.nextDue
  /-- At each look it fires for the due times that were newly reached, four times at most. -/
  fires : ∀ times now, ((every interval start).pollAll (times ++ [now])).2 =
    ((every interval start).pollAll times).2 ++
      [min 4 {due ∈ dueTimes interval start |
        (∀ time ∈ times, time < due) ∧ due ≤ now}.ncard]
  /-- A look that is no later than one before it finds nothing. -/
  rests : ∀ times now, (∃ time ∈ times, now ≤ time) →
    ((every interval start).pollAll (times ++ [now])).2 =
      ((every interval start).pollAll times).2 ++ [0]
  /-- It never fires before it is due. -/
  notEarly : ∀ times, ((every interval start).pollAll times).2.sum ≤
    {due ∈ dueTimes interval start | ∃ time ∈ times, due ≤ time}.ncard
  /-- It keeps up with looks that are at most four intervals apart, to the last time of all. -/
  keepsUp : ∀ times last,
    List.IsChain (fun earlier later => |later - earlier| ≤ 4 * period interval) (start :: times) →
    IsGreatest {time | time ∈ start :: times} last →
    (((every interval start).pollAll times).2.sum : Int) = ⌊(last - start) / period interval⌋
  /-- If no look goes back in time, that is the time of the last look. -/
  keepsUpInOrder : ∀ times,
    List.IsChain (fun earlier later => earlier ≤ later ∧ later - earlier ≤ 4 * period interval)
      (start :: times) →
    (((every interval start).pollAll times).2.sum : Int) =
      ⌊((start :: times).getLast (List.cons_ne_nil start times) - start) / period interval⌋
  /-- A timer that fires once does so at the first look that comes late enough, -/
  firesOnce : ∀ times now, ((after interval start).pollAll (times ++ [now])).2 =
    ((after interval start).pollAll times).2 ++
      [if start + period interval ≤ now ∧ ∀ time ∈ times, time < start + period interval
        then 1 else 0]
  /-- and at no other. -/
  once : ∀ times, ((after interval start).pollAll times).2.sum =
    if ∃ time ∈ times, start + period interval ≤ time then 1 else 0
  /-- A timer that was cancelled never fires. -/
  cancelled : ∀ (timer : Timer Rat) (times : List Rat),
    (timer.cancel.pollAll times).2 = List.replicate times.length 0

theorem isLeast_nextDue (interval : Nat) (start : Rat) (times : List Rat) :
    IsLeast {due ∈ dueTimes interval start | ∀ time ∈ times, time < due}
      ((every interval start).pollAll times).1.nextDue := by
  rw [every_eq_ahead, pollAll_ahead]
  constructor
  · refine ⟨⟨_, Nat.le_add_left 1 _, rfl⟩, ?_⟩
    exact (passed_lt_iff (Nat.le_add_left 1 _)).mp (Nat.lt_succ_self _)
  · rintro due ⟨⟨count, positive, rfl⟩, after⟩
    have later : passed interval start 0 times + 1 ≤ count := (passed_lt_iff positive).mpr after
    have scaled := mul_le_mul_of_nonneg_right (Nat.cast_le (α := Rat).mpr later)
      (period_pos interval).le
    exact add_le_add_right scaled start

/-- What a repeating timer does at one more look. -/
theorem fired_concat (interval : Nat) (start : Rat) (times : List Rat) (now : Rat) :
    ((every interval start).pollAll (times ++ [now])).2 =
      ((every interval start).pollAll times).2 ++
        [min 4 (reached interval start now - passed interval start 0 times)] := by
  rw [pollAll_concat]
  refine congrArg (fun fired => _ ++ [fired]) ?_
  rw [every_eq_ahead, pollAll_ahead, poll_ahead]
  rfl

theorem fired_eq_floor {times : List Rat} {last : Rat}
    (spaced : List.IsChain (fun earlier later => |later - earlier| ≤ 4 * period interval)
      (start :: times))
    (greatest : IsGreatest {time | time ∈ start :: times} last) :
    (((every interval start).pollAll times).2.sum : Int) =
      ⌊(last - start) / period interval⌋ := by
  have all : ((ahead interval start 0).pollAll times).2.sum + 0 = passed interval start 0 times :=
    fired_of_spaced spaced (reached_start interval start).le
  rw [passed_eq_reached greatest, Nat.add_zero] at all
  rw [every_eq_ahead, all]
  exact reached_eq_floor (greatest.2 List.mem_cons_self)

/-- Timers in exact fractions keep time. -/
theorem keeps_time (interval : Nat) (start : Rat) : KeepsTime interval start where
  waits := isLeast_nextDue interval start
  fires times now := by rw [fired_concat, dues_newly_reached, ncard_dues]
  rests times now looked := by
    obtain ⟨time, member, order⟩ := looked
    have known : reached interval start now ≤ passed interval start 0 times :=
      (reached_mono order).trans (reached_le_passed member)
    rw [fired_concat, Nat.sub_eq_zero_of_le known, Nat.min_zero]
  notEarly times := by
    rw [dues_passed, ncard_dues, every_eq_ahead]
    exact fired_le_passed 0 times
  keepsUp times last spaced greatest := fired_eq_floor spaced greatest
  keepsUpInOrder times ordered := by
    have sorted : List.Pairwise (· ≤ ·) (start :: times) :=
      List.isChain_iff_pairwise.mp (ordered.imp fun _ _ next => next.1)
    refine fired_eq_floor (ordered.imp fun earlier later next => ?_) ⟨List.getLast_mem _, ?_⟩
    · rw [abs_of_nonneg (sub_nonneg.mpr next.1)]
      exact next.2
    · exact fun time looked => sorted.rel_getLast looked
  firesOnce times now := by
    rw [pollAll_concat, (pollAll_after interval start times).1]
    refine congrArg (fun fired => _ ++ [fired]) ?_
    by_cases due : ∃ time ∈ times, start + period interval ≤ time
    · have overdue : ¬ ∀ time ∈ times, time < start + period interval := by simpa using due
      rw [if_pos due, if_neg (fun both => overdue both.2), poll_cancel]
    · have ahead : ∀ time ∈ times, time < start + period interval := by simpa using due
      rw [if_neg due, poll_after]
      by_cases now : start + period interval ≤ now
      · rw [if_pos now, if_pos ⟨now, ahead⟩]
      · rw [if_neg now, if_neg (fun both => now both.1)]
  once times := (pollAll_after interval start times).2
  cancelled timer times := by
    have silent : timer.cancel.pollAll times = (timer.cancel, List.replicate times.length 0) :=
      pollAll_of_finished rfl times
    rw [silent]

/-- Looks at 35, 20, 75 and 60, at most four intervals of 20 apart, and a stall of many intervals
after them. -/
theorem keeps_time_stalled :
    ((every 20 (0 : Rat)).pollAll [35, 20, 75, 60]).2 = [1, 0, 2, 0] ∧
      List.IsChain (fun earlier later => |later - earlier| ≤ 4 * period 20)
        ((0 : Rat) :: [35, 20, 75, 60]) ∧
      (((every 20 (0 : Rat)).pollAll [35, 20, 75, 60]).2.sum : Int) =
        ⌊((75 : Rat) - 0) / period 20⌋ ∧
      ((every 20 (0 : Rat)).pollAll ([35, 20, 75, 60] ++ [1000])).2 = [1, 0, 2, 0, 4] ∧
      IsLeast {due ∈ dueTimes 20 0 | ∀ time ∈ ([35, 20, 75, 60] ++ [1000] : List Rat), time < due}
        1020 := by
  have spaced : List.IsChain (fun earlier later => |later - earlier| ≤ 4 * period 20)
      ((0 : Rat) :: [35, 20, 75, 60]) := by decide +kernel
  have greatest : IsGreatest {time | time ∈ (0 : Rat) :: [35, 20, 75, 60]} 75 := by
    constructor
    · simp
    · intro time looked
      simp only [List.mem_cons, List.not_mem_nil, or_false, Set.mem_ofPred_eq] at looked
      rcases looked with rfl | rfl | rfl | rfl | rfl <;> norm_num
  have next : ((every 20 (0 : Rat)).pollAll ([35, 20, 75, 60] ++ [1000])).1.nextDue = 1020 := by
    decide +kernel
  exact ⟨by decide +kernel, spaced, (keeps_time 20 0).keepsUp _ _ spaced greatest,
    by decide +kernel, next ▸ (keeps_time 20 0).waits _⟩

end Arcade.Timer
