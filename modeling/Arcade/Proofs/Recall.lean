import Arcade.Api.Command
import Arcade.Proofs.Bookkeeping

/-! What a log remembers. Whatever was emitted between whatever frames, the log holds the latest events
just as they came, counts all others, and has its events in the order of their frames; so a query for the
events since a frame takes a last part of what is kept. The log of every world of a game is such a log. -/

namespace Arcade

variable {α : Type}

namespace Log

/-- What can happen to a log. -/
inductive Act (α : Type) where
  | tick
  | emit (signal : α) (source : Option Handle)
  deriving DecidableEq

def act (log : Log α) : Act α → Log α
  | .tick => log.tick
  | .emit signal source => log.emit signal source

/-- A new log to which things happened. -/
def after (acts : List (Act α)) : Log α := acts.foldl act empty

theorem after_concat (acts : List (Act α)) (last : Act α) :
    after (acts ++ [last]) = (after acts).act last := List.foldl_concat ..

/-- How many frames passed. -/
def frames : List (Act α) → Nat
  | [] => 0
  | .tick :: rest => frames rest + 1
  | .emit .. :: rest => frames rest

/-- All that was emitted, each event with the frame it came in. -/
def emitted (frame : Nat) : List (Act α) → List (Event α)
  | [] => []
  | .tick :: rest => emitted (frame + 1) rest
  | .emit signal source :: rest => ⟨signal, frame, source⟩ :: emitted frame rest

/-! ### Keeping the latest -/

/-- A log keeps the latest of some events and counts the others. -/
structure Keeps (log : Log α) (events : List (Event α)) (frame : Nat) : Prop where
  recent : log.recent = events.drop (events.length - capacity)
  dropped : log.dropped = events.length - capacity
  frame : log.frame = frame

variable {log : Log α} {events : List (Event α)} {frame : Nat}

theorem keeps_empty : (empty : Log α).Keeps [] 0 :=
  ⟨List.drop_nil.symm, (Nat.zero_sub capacity).symm, rfl⟩

theorem Keeps.tick (keeps : log.Keeps events frame) (counted : frame + 1 ≤ Text.maxWord64) :
    log.tick.Keeps events (frame + 1) := by
  refine ⟨keeps.recent, keeps.dropped, ?_⟩
  rw [Log.tick, keeps.frame]
  exact Nat.min_eq_left counted

theorem Keeps.emit (keeps : log.Keeps events frame) (signal : α) (source : Option Handle)
    (counted : events.length + 1 ≤ Text.maxWord64) :
    (log.emit signal source).Keeps (events ++ [⟨signal, frame, source⟩]) frame := by
  have room : log.recent.length = events.length - (events.length - capacity) := by
    rw [keeps.recent, List.length_drop]
  constructor
  · simp only [Log.emit, keeps.recent, keeps.frame, List.length_append, List.length_drop,
      List.length_singleton]
    generalize capacity = most
    rw [← List.drop_append_of_le_length (Nat.sub_le _ _), List.drop_drop]
    congr 1
    omega
  · simp only [Log.emit, keeps.dropped, List.length_append, room, List.length_singleton]
    generalize capacity = most
    generalize Text.maxWord64 = word at counted ⊢
    omega
  · simp only [Log.emit, keeps.frame]

/-- While the counters count, a log keeps the latest of all that was emitted. -/
theorem Keeps.acts (keeps : log.Keeps events frame) (acts : List (Act α))
    (counted : events.length + (emitted frame acts).length ≤ Text.maxWord64)
    (passed : frame + frames acts ≤ Text.maxWord64) :
    (acts.foldl act log).Keeps (events ++ emitted frame acts) (frame + frames acts) := by
  induction acts generalizing log events frame with
  | nil =>
    rw [emitted, List.append_nil]
    exact keeps
  | cons first rest ih =>
    cases first with
    | tick =>
      have next : frame + 1 + frames rest = frame + (frames rest + 1) := by omega
      simp only [emitted, frames] at counted passed ⊢
      rw [← next] at passed ⊢
      exact ih (keeps.tick (by omega)) counted passed
    | emit signal source =>
      simp only [emitted, frames, List.length_cons] at counted passed ⊢
      rw [List.append_cons, List.foldl_cons, act]
      refine ih (keeps.emit signal source (by omega)) ?_ passed
      rw [List.length_append, List.length_singleton]
      omega

/-! ### The order of frames -/

theorem frame_le_of_mem_emitted {acts : List (Act α)} {event : Event α}
    (member : event ∈ emitted frame acts) : frame ≤ event.frame := by
  induction acts generalizing frame with
  | nil => cases member
  | cons first rest ih =>
    cases first with
    | tick => exact Nat.le_of_succ_le (ih member)
    | emit signal source =>
      rcases List.mem_cons.mp member with rfl | later
      · exact Nat.le_refl _
      · exact ih later

/-- Frames never decrease along what was emitted. -/
theorem sorted_emitted (frame : Nat) (acts : List (Act α)) :
    (emitted frame acts).Pairwise fun earlier later => earlier.frame ≤ later.frame := by
  induction acts generalizing frame with
  | nil => exact .nil
  | cons first rest ih =>
    cases first with
    | tick => exact ih (frame + 1)
    | emit signal source =>
      exact List.pairwise_cons.mpr ⟨fun event => frame_le_of_mem_emitted, ih frame⟩

/-- Where a test that one item passes is passed by all behind it, the items that pass are a last
part. -/
theorem exists_append_of_pairwise {test : α → Bool} {items : List α}
    (lasting : items.Pairwise fun earlier later => test earlier = true → test later = true) :
    ∃ older latest, items = older ++ latest ∧ (∀ item ∈ older, test item = false) ∧
      ∀ item ∈ latest, test item = true := by
  induction items with
  | nil => exact ⟨[], [], rfl, nofun, nofun⟩
  | cons first rest ih =>
    obtain ⟨lasts, lasting⟩ := List.pairwise_cons.mp lasting
    cases passes : test first with
    | true =>
      refine ⟨[], first :: rest, rfl, nofun, List.forall_mem_cons.mpr ⟨passes, fun item inside => ?_⟩⟩
      exact lasts item inside passes
    | false =>
      obtain ⟨older, latest, same, fail, pass⟩ := ih lasting
      exact ⟨first :: older, latest, by rw [same]; rfl, List.forall_mem_cons.mpr ⟨passes, fail⟩, pass⟩

/-- The events since a frame are a last part of a log whose frames never decrease. -/
theorem exists_since
    (sorted : log.recent.Pairwise fun earlier later => earlier.frame ≤ later.frame)
    (since : Option Nat) :
    ∃ older latest, log.recent = older ++ latest ∧
      (∀ event ∈ older, ∃ frame, since = some frame ∧ event.frame < frame) ∧
      (∀ event ∈ latest, ∀ frame, since = some frame → frame ≤ event.frame) ∧
      ∀ test, log.select since test = latest.filter fun event => test event.signal := by
  let reached (event : Event α) : Bool := since.all fun frame => decide (frame ≤ event.frame)
  have lasting : log.recent.Pairwise fun earlier later =>
      reached earlier = true → reached later = true := by
    refine sorted.imp ?_
    intro earlier later ordered
    cases since with
    | none => exact id
    | some frame =>
      simp only [reached, Option.all_some, decide_eq_true_eq]
      exact fun passed => Nat.le_trans passed ordered
  obtain ⟨older, latest, parts, before, behind⟩ := exists_append_of_pairwise lasting
  refine ⟨older, latest, parts, fun event inside => ?_, fun event inside frame asked => ?_,
    fun test => ?_⟩
  · have missed := before event inside
    cases since with
    | none => cases missed
    | some frame => exact ⟨frame, rfl, Nat.lt_of_not_le (of_decide_eq_false missed)⟩
  · have passed := behind event inside
    subst asked
    exact of_decide_eq_true passed
  · have nothing : older.filter (fun event => reached event && test event.signal) = [] :=
      List.filter_eq_nil_iff.mpr fun event inside => by simp [before event inside]
    have same : latest.filter (fun event => reached event && test event.signal) =
        latest.filter fun event => test event.signal :=
      List.filter_congr fun event inside => by rw [behind event inside, Bool.true_and]
    rw [select, parts, List.filter_append, nothing, List.nil_append]
    exact same

/-- A log to which things happened is one to which more can happen. -/
theorem law_after : Law fun log : Log α => ∃ acts, log = after acts where
  empty := ⟨[], rfl⟩
  tick := by
    rintro _ ⟨acts, rfl⟩
    exact ⟨acts ++ [.tick], by rw [after_concat, act]⟩
  emit := by
    rintro _ signal source ⟨acts, rfl⟩
    exact ⟨acts ++ [.emit signal source], by rw [after_concat, act]⟩

/-- As long as 64-bit counters count, a log recalls exactly the latest of what was emitted, and a query for
events of a name takes a last part of it that lacks nothing since the frame that was asked for. -/
theorem recalls {S T : Type} [Scalar S] [Scalar T] (acts : List (Act Signal))
    (few : (emitted 0 acts).length ≤ Text.maxWord64) (brief : frames acts ≤ Text.maxWord64) :
    (after acts).recent = (emitted 0 acts).drop ((emitted 0 acts).length - capacity) ∧
      (after acts).recent.length = min (emitted 0 acts).length capacity ∧
      (after acts).dropped + (after acts).recent.length = (emitted 0 acts).length ∧
      (after acts).recent.Pairwise (fun earlier later => earlier.frame ≤ later.frame) ∧
      ∀ (world : World S T) (since : Option Nat) (name : Option String), world.log = after acts →
        ∃ older latest, (after acts).recent = older ++ latest ∧
          (∀ event ∈ older, ∃ frame, since = some frame ∧ event.frame < frame) ∧
          (∀ event ∈ latest, ∀ frame, since = some frame → frame ≤ event.frame) ∧
          Api.serve world (.events since name) = (world, .events (latest.filter fun event =>
            name.all fun name => event.signal.name = name)) := by
  have kept := keeps_empty.acts acts (by simpa using few) (by simpa using brief)
  rw [List.nil_append] at kept
  have size : (after acts).recent.length =
      (emitted 0 acts).length - ((emitted 0 acts).length - capacity) := by
    rw [after, kept.recent, List.length_drop]
  have sorted : (after acts).recent.Pairwise fun earlier later => earlier.frame ≤ later.frame := by
    rw [after, kept.recent]
    exact (sorted_emitted 0 acts).sublist (List.drop_sublist _ _)
  refine ⟨kept.recent, ?_, ?_, sorted, fun world since name told => ?_⟩
  · rw [size]
    omega
  · rw [size, after, kept.dropped]
    omega
  · obtain ⟨older, latest, parts, before, behind, taken⟩ := exists_since sorted since
    refine ⟨older, latest, parts, before, behind, ?_⟩
    rw [Api.serve, Api.events, told, taken]

end Log

/-- The log of every world of a game is a new log to which things happened. -/
theorem World.Lived.exists_acts {S T : Type} [Scalar S] [Scalar T] [Circular S] [Sampling S]
    [Rounding T S] {others : List Handle} {world : World S T} (lived : world.Lived others) :
    ∃ acts, world.log = Log.after acts :=
  lived.log Log.law_after

/-- Five hundred and two events, and a frame between them. -/
def Sample.overflow : List (Log.Act Signal) :=
  List.replicate 250 (.emit (.diagnostic "early") none) ++
    .tick :: List.replicate 252 (.emit (.scoreChanged 1 1) none)

/-- When there are two events too many the first two are dropped, and who asks for what happened since
the frame hears of nothing before it. -/
theorem Log.recalls_overflow :
    (emitted 0 Sample.overflow).length ≤ Text.maxWord64 ∧ frames Sample.overflow ≤ Text.maxWord64 ∧
      (after Sample.overflow).recent.length = 500 ∧ (after Sample.overflow).dropped = 2 ∧
      ∀ world : World Float32 Float, world.log = after Sample.overflow →
        ∃ events, Api.serve world (.events (some 1) none) = (world, .events events) ∧
          ∀ event ∈ events, 1 ≤ event.frame := by
  have size : (emitted 0 Sample.overflow).length = 502 := by decide +kernel
  have passed : frames Sample.overflow = 1 := by decide +kernel
  have few : (emitted 0 Sample.overflow).length ≤ Text.maxWord64 := by
    rw [size]
    decide
  have brief : frames Sample.overflow ≤ Text.maxWord64 := by
    rw [passed]
    decide
  obtain ⟨-, length, total, -, served⟩ :=
    recalls (S := Float32) (T := Float) Sample.overflow few brief
  rw [size] at length total
  have room : min 502 capacity = 500 := rfl
  rw [room] at length
  refine ⟨few, brief, length, by omega, fun world told => ?_⟩
  obtain ⟨_, latest, -, -, behind, answer⟩ := served world (some 1) none told
  refine ⟨_, answer, fun event inside => ?_⟩
  exact behind event (List.mem_of_mem_filter inside) 1 rfl

end Arcade
