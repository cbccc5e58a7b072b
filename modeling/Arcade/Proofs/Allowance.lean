import Mathlib.Data.List.Infix
import Arcade.Api.Guard

/-! How often a client may ask. The requests of a client fall into windows: one opens at its first
request, and the next one at its first request that comes a second after or later. In each window the
first requests are admitted, up to the limit. What other clients ask does not matter, nor how many they
are: a client is forgotten only when its window is long over. -/

namespace Arcade

namespace Api

/-- A request that counts: who sent it, and when. -/
structure Call where
  client : String
  time : Nat
  deriving DecidableEq

namespace Guard

/-- Requests that are counted one after the other, each with whether it is within the limit. -/
def tally (guard : Guard) : List Call → List (Call × Bool)
  | [] => []
  | call :: rest =>
    let (next, admitted) := guard.allow call.client call.time
    (call, admitted) :: next.tally rest

/-- When a client asks. -/
def times (client : String) (calls : List Call) : List Nat :=
  (calls.filter (·.client = client)).map (·.time)

/-- What becomes of the requests of a client: when each of them comes, and whether it is within the
limit. -/
def verdicts (guard : Guard) (client : String) (calls : List Call) : List (Nat × Bool) :=
  ((guard.tally calls).filter (·.1.client = client)).map fun (call, admitted) => (call.time, admitted)

/-- Times fall into windows. A window opens at the first time and holds what follows until the first
time that is a second later or more, at which the next one opens. -/
inductive Windows : List Nat → List (List Nat) → Prop where
  | nil : Windows [] []
  | cons {opened : Nat} {inside later : List Nat} {windows : List (List Nat)}
      (within : ∀ time ∈ inside, time < opened + windowLength)
      (closed : ∀ next ∈ later.head?, opened + windowLength ≤ next) (rest : Windows later windows) :
      Windows (opened :: (inside ++ later)) ((opened :: inside) :: windows)

/-- The first requests of a window are admitted, up to the limit. -/
def graded (limit : Nat) (window : List Nat) : List (Nat × Bool) :=
  window.zipIdx.map fun entry => (entry.1, decide (entry.2 < limit))

/-! ### Windows -/

theorem windowLength_pos : 0 < windowLength := by decide

theorem exists_windows (times : List Nat) : ∃ windows, Windows times windows := by
  induction shrinks : times.length using Nat.strong_induction_on generalizing times with
  | _ length ih =>
    cases times with
    | nil => exact ⟨[], .nil⟩
    | cons opened rest =>
      let early (time : Nat) : Bool := time < opened + windowLength
      have shorter : (rest.dropWhile early).length < length := by
        have := (List.dropWhile_sublist early (l := rest)).length_le
        simp only [List.length_cons] at shrinks
        omega
      obtain ⟨windows, falls⟩ := ih _ shorter _ rfl
      have split : Windows (opened :: (rest.takeWhile early ++ rest.dropWhile early))
          ((opened :: rest.takeWhile early) :: windows) := by
        refine .cons ?_ ?_ falls
        · intro time inside
          simpa [early] using List.all_eq_true.mp List.all_takeWhile time inside
        · intro next begins
          have stops := List.head?_dropWhile_not early rest
          rw [Option.mem_def.mp begins] at stops
          simpa [early] using stops
      rw [List.takeWhile_append_dropWhile] at split
      exact ⟨_, split⟩

/-- Where a window ends is a matter of its times. -/
theorem eq_takeWhile_of_split {bound : Nat} {inside later : List Nat}
    (within : ∀ time ∈ inside, time < bound) (closed : ∀ next ∈ later.head?, bound ≤ next) :
    inside = (inside ++ later).takeWhile (· < bound) := by
  rw [List.takeWhile_append_of_pos (by simpa using within)]
  cases later with
  | nil => simp
  | cons next rest => simp [closed next rfl]

theorem Windows.unique {times : List Nat} {windows others : List (List Nat)}
    (first : Windows times windows) (second : Windows times others) : others = windows := by
  induction first generalizing others with
  | nil =>
    cases second
    rfl
  | @cons opened inside later windows within closed rest ih =>
    generalize split : opened :: (inside ++ later) = times at second
    cases second with
    | nil => cases split
    | @cons _ also beyond _ within' closed' rest' =>
      obtain ⟨rfl, tail⟩ := List.cons.inj split
      have same : inside = also := by
        rw [eq_takeWhile_of_split within closed, tail, ← eq_takeWhile_of_split within' closed']
      subst same
      rw [List.append_cancel_left tail] at ih
      rw [ih rest']

/-- In windows no time is lost. -/
theorem Windows.times_graded {times : List Nat} {windows : List (List Nat)}
    (falls : Windows times windows) (limit : Nat) :
    (windows.flatMap (graded limit)).map (·.1) = times := by
  induction falls with
  | nil => rfl
  | cons within closed rest ih =>
    have kept (window : List Nat) : (graded limit window).map (·.1) = window := by
      simp [graded, Function.comp_def]
    rw [List.flatMap_cons, List.map_append, ih, kept]
    rfl

/-! ### One client -/

namespace Window

/-- The requests of one client after its last window, each with whether it is within the limit. -/
def tally (limit : Nat) (window : Option Window) : List Nat → List (Nat × Bool)
  | [] => []
  | time :: rest =>
    let next := counted time window
    (time, decide (next.count ≤ limit)) :: tally limit (some next) rest

theorem counted_of_within {opened count time : Nat} (within : time < opened + windowLength) :
    counted time (some ⟨opened, count⟩) = ⟨opened, min (count + 1) Text.maxWord32⟩ := by
  have positive := windowLength_pos
  rw [counted, if_neg (by simp only; omega)]

theorem counted_of_closed {window : Option Window} {time : Nat}
    (closed : ∀ last ∈ window, last.opened + windowLength ≤ time) :
    counted time window = ⟨time, 1⟩ := by
  cases window with
  | none => rfl
  | some last =>
    have late := closed last rfl
    rw [counted, if_pos (by omega)]

variable {limit : Nat}

/-- As long as its window is open a client is told by how often it asked in it. -/
theorem tally_within (small : limit < Text.maxWord32) {opened : Nat} {inside : List Nat}
    (within : ∀ time ∈ inside, time < opened + windowLength) (later : List Nat) (count : Nat) :
    tally limit (some ⟨opened, min count Text.maxWord32⟩) (inside ++ later) =
      (inside.zipIdx count).map (fun entry => (entry.1, decide (entry.2 < limit))) ++
        tally limit (some ⟨opened, min (count + inside.length) Text.maxWord32⟩) later := by
  induction inside generalizing count with
  | nil => simp
  | cons time rest ih =>
    obtain ⟨here, within⟩ := List.forall_mem_cons.mp within
    have next : counted time (some ⟨opened, min count Text.maxWord32⟩) =
        ⟨opened, min (count + 1) Text.maxWord32⟩ := by
      rw [counted_of_within here]
      congr 1
      omega
    have admitted : (min (count + 1) Text.maxWord32 ≤ limit) = (count < limit) := by
      apply propext
      omega
    have moved : count + 1 + rest.length = count + (rest.length + 1) := by omega
    simp only [List.cons_append, tally, next, ih within, List.zipIdx_cons, List.map_cons,
      admitted, moved, List.length_cons]

/-- A client whose last window is over is told by the windows of its times. -/
theorem tally_eq_graded (small : limit < Text.maxWord32) {times : List Nat}
    {windows : List (List Nat)} (falls : Windows times windows) {window : Option Window}
    (closed : ∀ last ∈ window, ∀ next ∈ times.head?, last.opened + windowLength ≤ next) :
    tally limit window times = windows.flatMap (graded limit) := by
  induction falls generalizing window with
  | nil => rfl
  | @cons opened inside later windows within past rest ih =>
    have first : counted opened window = ⟨opened, min 1 Text.maxWord32⟩ :=
      counted_of_closed fun last ended => closed last ended opened rfl
    have admitted : (min 1 Text.maxWord32 ≤ limit) = (0 < limit) := rfl
    have later : tally limit (some ⟨opened, min (1 + inside.length) Text.maxWord32⟩) later =
        windows.flatMap (graded limit) := by
      apply ih
      rintro last ⟨⟩
      exact past
    simp only [tally, first, admitted, tally_within small within, later, List.flatMap_cons, graded,
      List.zipIdx_cons, List.map_cons, List.cons_append, Nat.zero_add]

end Window

/-! ### Among other clients -/

/-- From a time on requests are counted alike after two windows. -/
def Window.Alike (now : Nat) (first second : Option Window) : Prop :=
  ∀ time, now ≤ time → counted time first = counted time second

/-- Whether a window of an idle client is kept makes no difference. -/
theorem Window.alike_filter (now : Nat) (window : Option Window) :
    Alike now (window.filter fun window => now - window.opened < idleLength) window := by
  intro time later
  cases window with
  | none => rfl
  | some window =>
    by_cases kept : now - window.opened < idleLength
    · simp [Option.filter, kept]
    · have long : windowLength ≤ idleLength := by decide
      have anew : counted time (some window) = ⟨time, 1⟩ := by
        apply counted_of_closed
        rintro last ⟨⟩
        have positive := windowLength_pos
        omega
      rw [anew]
      simp [Option.filter, kept, counted]

variable {guard : Guard} {calls : List Call} {client : String}

/-- A request is counted for its own client. -/
theorem alike_allow (guard : Guard) (call : Call) (client : String) :
    Window.Alike call.time ((guard.allow call.client call.time).1.windows.get? client)
      (if call.client = client then some (Window.counted call.time (guard.windows.get? client))
      else guard.windows.get? client) := by
  have entered : (guard.windows.insert call.client
      (Window.counted call.time (guard.windows.get? call.client))).get? client =
      if call.client = client then some (Window.counted call.time (guard.windows.get? client))
      else guard.windows.get? client := by
    rw [Index.get?_insert]
    by_cases own : call.client = client
    · rw [own]
    · rw [if_neg own, if_neg own]
  rw [allow, get?_purge, ← entered]
  split
  · exact Window.alike_filter _ _
  · exact fun _ _ => rfl

theorem times_cons (client : String) (call : Call) (rest : List Call) :
    times client (call :: rest) =
      if call.client = client then call.time :: times client rest else times client rest := by
  by_cases own : call.client = client <;> simp [times, own]

theorem verdicts_cons (guard : Guard) (client : String) (call : Call) (rest : List Call) :
    guard.verdicts client (call :: rest) =
      if call.client = client then (call.time, (guard.allow call.client call.time).2) ::
        (guard.allow call.client call.time).1.verdicts client rest
      else (guard.allow call.client call.time).1.verdicts client rest := by
  by_cases own : call.client = client <;> simp [verdicts, tally, own]

/-- A client is told as if it were alone. -/
theorem verdicts_eq_tally (timely : calls.Pairwise (·.time ≤ ·.time)) {now : Nat}
    (coming : ∀ call ∈ calls, now ≤ call.time) {window : Option Window}
    (alike : Window.Alike now (guard.windows.get? client) window) :
    guard.verdicts client calls = Window.tally guard.limit window (times client calls) := by
  induction calls generalizing guard now window with
  | nil => rfl
  | cons call rest ih =>
    obtain ⟨after, timely⟩ := List.pairwise_cons.mp timely
    have due := coming call List.mem_cons_self
    have step := alike_allow guard call client
    rw [verdicts_cons, times_cons]
    by_cases own : call.client = client
    · rw [if_pos own, alike _ due] at step
      have told : (guard.allow call.client call.time).2 =
          decide ((Window.counted call.time window).count ≤ guard.limit) := by
        rw [allow_eq, own, alike _ due]
      rw [if_pos own, if_pos own, told, ih timely after step]
      rfl
    · rw [if_neg own] at step
      rw [if_neg own, if_neg own]
      exact ih timely after fun time later =>
        (step time later).trans (alike time (Nat.le_trans due later))

/-- What is told of requests does not depend on those that come later. -/
theorem tally_prefix (guard : Guard) (past later : List Call) :
    guard.tally past <+: guard.tally (past ++ later) := by
  induction past generalizing guard with
  | nil => exact List.nil_prefix
  | cons call rest ih => exact List.cons_prefix_cons.mpr ⟨rfl, ih _⟩

/-! ### How often in a second -/

/-- The requests of a second that are admitted, both ends of it included. -/
def admittedFrom (start : Nat) (told : List (Nat × Bool)) : List (Nat × Bool) :=
  told.filter fun (time, admitted) => admitted && start ≤ time && time ≤ start + windowLength

variable {limit start : Nat}

theorem admittedFrom_append (first second : List (Nat × Bool)) :
    admittedFrom start (first ++ second) = admittedFrom start first ++ admittedFrom start second :=
  List.filter_append ..

theorem admittedFrom_eq_nil {told : List (Nat × Bool)}
    (apart : ∀ time ∈ told.map (·.1), time < start ∨ start + windowLength < time) :
    admittedFrom start told = [] := by
  refine List.filter_eq_nil_iff.mpr ?_
  rintro ⟨time, admitted⟩ member inside
  simp only [Bool.and_eq_true, decide_eq_true_eq] at inside
  have := apart time (List.mem_map_of_mem member)
  omega

/-- In one window no more are admitted than the limit. -/
theorem length_admittedFrom_graded (start limit : Nat) (window : List Nat) :
    (admittedFrom start (graded limit window)).length ≤ limit := by
  have counted (first : Nat) : (((window.zipIdx first).map
      fun entry => (entry.1, decide (entry.2 < limit))).filter (·.2)).length ≤ limit - first := by
    induction window generalizing first with
    | nil => simp
    | cons time rest ih =>
      have more := ih (first + 1)
      rw [List.zipIdx_cons, List.map_cons]
      by_cases admitted : first < limit
      · rw [List.filter_cons_of_pos (by simpa using admitted), List.length_cons]
        omega
      · rw [List.filter_cons_of_neg (by simpa using admitted)]
        omega
  refine Nat.le_trans (List.Sublist.length_le ?_) (counted 0)
  refine List.monotone_filter_right _ ?_
  rintro ⟨time, admitted⟩ inside
  simp only [Bool.and_eq_true] at inside
  exact inside.1.1

theorem le_of_head {bound : Nat} {times : List Nat} (sorted : times.Pairwise (· ≤ ·))
    (begins : ∀ next ∈ times.head?, bound ≤ next) : ∀ time ∈ times, bound ≤ time := by
  cases times with
  | nil => simp
  | cons first rest =>
    have least := begins first rfl
    refine List.forall_mem_cons.mpr ⟨least, fun time inside => ?_⟩
    exact Nat.le_trans least ((List.pairwise_cons.mp sorted).1 time inside)

/-- After the opening of a window the next one lies a second later. -/
theorem length_admittedFrom_of_late {times : List Nat} {windows : List (List Nat)}
    (falls : Windows times windows) (sorted : times.Pairwise (· ≤ ·))
    (late : ∀ time ∈ times, start < time) :
    (admittedFrom start (windows.flatMap (graded limit))).length ≤ limit := by
  cases falls with
  | nil => simp [admittedFrom]
  | @cons opened inside later windows within closed rest =>
    have next := le_of_head (List.pairwise_append.mp (List.pairwise_cons.mp sorted).2).2.1 closed
    have here := late opened List.mem_cons_self
    have none : admittedFrom start (windows.flatMap (graded limit)) = [] := by
      apply admittedFrom_eq_nil
      rw [rest.times_graded]
      intro time member
      have := next time member
      omega
    rw [List.flatMap_cons, admittedFrom_append, none, List.append_nil]
    exact length_admittedFrom_graded start limit _

/-- A second meets two windows at most. -/
theorem length_admittedFrom_le {times : List Nat} {windows : List (List Nat)}
    (falls : Windows times windows) (sorted : times.Pairwise (· ≤ ·)) :
    (admittedFrom start (windows.flatMap (graded limit))).length ≤ 2 * limit := by
  induction falls with
  | nil => simp [admittedFrom]
  | @cons opened inside later windows within closed rest ih =>
    have sorted := (List.pairwise_append.mp (List.pairwise_cons.mp sorted).2).2.1
    rw [List.flatMap_cons, admittedFrom_append, List.length_append]
    by_cases met : ∃ time ∈ opened :: inside, start ≤ time
    · obtain ⟨time, member, reached⟩ := met
      have young : time < opened + windowLength := by
        rcases List.mem_cons.mp member with rfl | member
        · have positive := windowLength_pos
          omega
        · exact within time member
      have first := length_admittedFrom_graded start limit (opened :: inside)
      have second : (admittedFrom start (windows.flatMap (graded limit))).length ≤ limit :=
        length_admittedFrom_of_late rest sorted fun next after => by
          have := le_of_head sorted closed next after
          omega
      omega
    · have none : admittedFrom start (graded limit (opened :: inside)) = [] := by
        apply admittedFrom_eq_nil
        intro time member
        refine .inl (Nat.lt_of_not_le fun reached => met ⟨time, ?_, reached⟩)
        simpa [graded, Function.comp_def] using member
      rw [none, List.length_nil, Nat.zero_add]
      exact ih sorted

/-- Requests are counted at times that do not decrease. Whatever others ask, a client is told the same,
and what it is told of a request hangs only on the requests before it. Its requests fall into windows, in
just one way, and in each of them exactly the first requests are admitted, up to the limit, which is at
least one. So in no second are more admitted than twice the limit. -/
theorem rations (token : Option String) (configured : Nat) (small : configured < Text.maxWord32)
    (calls : List Call) (timely : calls.Pairwise (·.time ≤ ·.time)) (client : String) :
    (∀ past later, calls = past ++ later →
      (new token configured).tally past <+: (new token configured).tally calls) ∧
    (∀ others : List Call, others.Pairwise (·.time ≤ ·.time) →
      others.filter (·.client = client) = calls.filter (·.client = client) →
      (new token configured).verdicts client others = (new token configured).verdicts client calls) ∧
    (∃ windows, Windows (times client calls) windows ∧
      (∀ others, Windows (times client calls) others → others = windows) ∧
      (new token configured).verdicts client calls =
        windows.flatMap (graded (max configured 1))) ∧
    ∀ start, (admittedFrom start ((new token configured).verdicts client calls)).length ≤
      2 * max configured 1 := by
  have alone (others : List Call) (timely : others.Pairwise (·.time ≤ ·.time)) :
      (new token configured).verdicts client others =
        Window.tally (max configured 1) none (times client others) :=
    verdicts_eq_tally timely (fun _ _ => Nat.zero_le _) fun _ _ => rfl
  obtain ⟨windows, falls⟩ := exists_windows (times client calls)
  have limited : max configured 1 < Text.maxWord32 := Nat.max_lt.mpr ⟨small, by decide⟩
  have told : (new token configured).verdicts client calls =
      windows.flatMap (graded (max configured 1)) := by
    rw [alone calls timely]
    exact Window.tally_eq_graded limited falls nofun
  have sorted : (times client calls).Pairwise (· ≤ ·) := List.pairwise_map.mpr (timely.filter _)
  refine ⟨?_, ?_, ⟨windows, falls, fun _ => falls.unique, told⟩, fun start => ?_⟩
  · rintro past later rfl
    exact tally_prefix _ past later
  · intro others also same
    rw [alone others also, alone calls timely, times, times, same]
  · rw [told]
    exact length_admittedFrom_le falls sorted

end Guard

end Api

/-- Of two clients one asks three times within a second, and once more as soon as it is over. -/
def Sample.bursts : List Api.Call :=
  [⟨"a", 5⟩, ⟨"a", 6⟩, ⟨"b", 7⟩, ⟨"a", 1000000004⟩, ⟨"a", 1000000005⟩]

open Api.Guard in
/-- Who may ask once in a second although less was asked for: the requests of the first client fall into
two windows. -/
theorem Api.Guard.rations_bursts :
    Sample.bursts.Pairwise (·.time ≤ ·.time) ∧
      Windows (times "a" Sample.bursts) [[5, 6, 1000000004], [1000000005]] ∧
      (new none 0).verdicts "a" Sample.bursts =
        [(5, true), (6, false), (1000000004, false), (1000000005, true)] ∧
      (admittedFrom 5 ((new none 0).verdicts "a" Sample.bursts)).length ≤ 2 := by
  have timely : Sample.bursts.Pairwise (·.time ≤ ·.time) := by decide
  obtain ⟨-, -, ⟨windows, falls, alone, told⟩, bounded⟩ :=
    rations none 0 (by decide) Sample.bursts timely "a"
  have split : Windows (times "a" Sample.bursts) [[5, 6, 1000000004], [1000000005]] :=
    @Windows.cons 5 [6, 1000000004] [1000000005] _ (by decide) (by decide)
      (@Windows.cons 1000000005 [] [] _ (by decide) (by decide) .nil)
  rw [← alone _ split] at told
  exact ⟨timely, split, told, bounded 5⟩

end Arcade
