/-! Games that cannot go on. -/

namespace Arcade

/-- Why a game cannot go on. -/
inductive Crash where
  /-- A random number was asked for in a range too wide to measure. -/
  | rangeTooWide
  /-- A picture was to be shown whose address cannot be taken apart. -/
  | unreadableAddress
  deriving DecidableEq

def Crash.message : Crash → String
  | rangeTooWide => "a random number was asked for in a range too wide to measure"
  | unreadableAddress => "a picture was to be shown whose address cannot be taken apart"

/-- What succeeds in two steps succeeds in each: a game goes on when all that it does goes on. -/
theorem bind_eq_ok {ε α β : Type} {first : Except ε α} {next : α → Except ε β} {result : β}
    (done : first >>= next = .ok result) : ∃ value, first = .ok value ∧ next value = .ok result := by
  cases first with
  | error failure => cases done
  | ok value => exact ⟨value, rfl, done⟩

theorem bind_eq_ok_iff {ε α β : Type} {first : Except ε α} {next : α → Except ε β} {result : β} :
    (first >>= next) = .ok result ↔ ∃ value, first = .ok value ∧ next value = .ok result := by
  refine ⟨bind_eq_ok, ?_⟩
  rintro ⟨value, rfl, done⟩
  exact done

theorem exists_bind_eq_ok {ε α β : Type} {first : Except ε α} {next : α → Except ε β}
    (begins : ∃ value, first = .ok value)
    (follows : ∀ value, first = .ok value → ∃ result, next value = .ok result) :
    ∃ result, first >>= next = .ok result := by
  obtain ⟨value, rfl⟩ := begins
  exact follows value rfl

theorem eq_ok_of_isOk {α : Type} {attempt : Except Crash α} (fine : attempt.isOk = true) :
    ∃ value, attempt = .ok value := by
  cases attempt with
  | error crash => cases fine
  | ok value => exact ⟨value, rfl⟩

theorem eq_error_of_map {ε α β : Type} {attempt : Except ε α} {change : α → β} {failure : ε}
    (failed : attempt.map change = .error failure) : attempt = .error failure := by
  cases attempt with
  | error other =>
    cases failed
    rfl
  | ok value => cases failed

/-- Where something is known of the result of an attempt, there is a result. -/
theorem exists_ok_of_any {ε α : Type} {attempt : Except ε α} {holds : α → Bool}
    (fine : attempt.toOption.any holds = true) :
    ∃ value, attempt = .ok value ∧ holds value = true := by
  cases attempt with
  | error failure => cases fine
  | ok value => exact ⟨value, rfl, fine⟩

end Arcade
