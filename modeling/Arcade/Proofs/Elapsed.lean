import Arcade.Proofs.Storing

/-! Waiting times in double precision. The difference of two times is rounded, and so it may look a little
longer than it is. But no number is rounded past another double, and what two doubles differ by is at
most doubled by rounding; so who waited for some time twice in a row waited that long. -/

namespace Arcade.Number

open Float.Model (Format UnpackedFloat)
open Float.Model.UnpackedFloat

variable {format : Format} {m n : Nat} {e f : Int} {a b : UnpackedFloat}

/-! ### Differences -/

/-- All numbers of a format are multiples of the least one. -/
theorem Fitted.exists_multiple (fitted : Fitted format a) :
    ∃ k : Int, value a = k * 2 ^ format.minExponent := by
  cases a with
  | infinity => exact fitted.elim
  | notANumber => exact fitted.elim
  | zero s => exact ⟨0, by simp [value]⟩
  | finite s m e some =>
    obtain ⟨amount, rfl⟩ : ∃ amount : Nat, e = format.minExponent + amount :=
      ⟨(e - format.minExponent).toNat, by have := Canonical.low fitted; omega⟩
    refine ⟨s.apply (m * 2 ^ amount : Nat), ?_⟩
    simp only [value, ← size_mul_pow]
    cases s <;> simp [signed, size, Sign.apply]

/-- The least number of a format. -/
theorem canonical_one : Canonical format 1 format.minExponent := by
  rw [canonical_iff]
  change max (((0 : Nat) : Int) + _ - _) _ = _
  omega

/-- What differs does not look the same. -/
theorem value_sub_neg (left : Fitted format a) (right : Fitted format b) (less : value a < value b) :
    value (sub format a b) < 0 := by
  obtain ⟨k, first⟩ := left.exists_multiple
  obtain ⟨l, second⟩ := right.exists_multiple
  have unit : (0 : ℚ) < 2 ^ format.minExponent := by positivity
  have apart : k + 1 ≤ l := by
    rw [first, second] at less
    exact_mod_cast lt_of_mul_lt_mul_right less unit.le
  have least : value a - value b ≤ value (.finite .negative 1 format.minExponent (by decide)) := by
    have : ((k + 1 : Int) : ℚ) ≤ l := by exact_mod_cast apart
    rw [first, second]
    simp only [value, signed, size]
    push_cast at this ⊢
    nlinarith
  refine ((rounds_sub left right).value_le (a := .finite .negative 1 _ _) canonical_one least).trans_lt ?_
  exact signed_negative (size_pos (by decide))

/-! ### Spans of time -/

/-- A number that is not negative. -/
def Forward : UnpackedFloat → Prop
  | .zero _ | .infinity .positive | .finite .positive .. => True
  | _ => False

variable {span earlier later : UnpackedFloat}

theorem forward_iff : Forward span ↔ (UnpackedFloat.zero .positive).le span = true := by
  cases span with
  | zero sign => exact ⟨fun _ => rfl, fun _ => trivial⟩
  | notANumber => exact ⟨False.elim, fun never => by cases never⟩
  | infinity sign => cases sign <;> exact ⟨fun _ => by trivial, fun _ => by trivial⟩
  | finite sign m e some => cases sign <;> exact ⟨fun _ => by trivial, fun _ => by trivial⟩

/-- A time is later than another by a span, as far as doubles can tell. -/
def Waited (span earlier later : UnpackedFloat) : Prop :=
  span.le (stored Format.binary64 (sub Format.binary64 later earlier)) = true

/-- A span of time is a bound for differences: who differs by that much differs by the span when it is
rounded, and who differs by the span when it is rounded differs by half as much. -/
def Bounds (bound : ℚ) (span : UnpackedFloat) : Prop :=
  ∀ {earlier later}, Fitted Format.binary64 earlier → Fitted Format.binary64 later →
    (bound ≤ value later - value earlier → Waited span earlier later) ∧
      (Waited span earlier later → bound ≤ 2 * (value later - value earlier))

/-- Who looks as if some time had passed waited for half of it. -/
theorem le_double_of_le (first : Fitted format earlier) (second : Fitted format later) {x : ℚ}
    (forward : 0 ≤ x) (le : x ≤ value (sub format later earlier)) :
    x ≤ 2 * (value later - value earlier) := by
  rcases lt_or_ge (value later) (value earlier) with past | future
  · exact absurd (forward.trans le) (value_sub_neg second first past).not_ge
  · exact le.trans ((rounds_sub second first).le_double (sub_nonneg.mpr future))

theorem bounds_value (proper : Proper Format.binary64 span) (forward : 0 ≤ value span) :
    Bounds (value span) span := by
  intro earlier later first second
  have rounds := rounds_sub second first
  rw [Waited, le_stored_iff proper rounds.fitted]
  exact ⟨rounds.le_value proper.fitted, le_double_of_le first second forward⟩

/-- The first power of two that is too large for a double, and is stored as infinity. -/
def beyond : UnpackedFloat := .finite .positive (2 ^ 52) 972 (by decide)

theorem fitted_beyond : Fitted Format.binary64 beyond := by
  change Canonical _ _ _
  rw [canonical_iff, Nat.log2_two_pow]
  decide

theorem beyond_le_value_iff (fitted : Fitted Format.binary64 a) :
    (UnpackedFloat.infinity .positive).le (stored Format.binary64 a) = true ↔
      value beyond ≤ value a := by
  refine ⟨fun le => ?_, stored_le_stored fitted_beyond fitted⟩
  rcases stored_cases fitted with ⟨-, same⟩ | ⟨s, m, e, some, rfl, large, same⟩
  · rw [same] at le
    cases a with
    | infinity => exact fitted.elim
    | notANumber => exact fitted.elim
    | zero => cases le
    | finite => cases le
  · rw [same] at le
    cases s
    · cases le
    · refine Canonical.size_le fitted_beyond fitted ?_
      change 971 < e at large
      rcases eq_or_lt_of_le (Int.add_one_le_iff.mpr large) with same | less
      · have place := canonical_iff.mp fitted
        exact .inr ⟨same, (Nat.le_log2 some.ne').mp (by change max (_ - (52 : Int)) (-1074) = e at place; omega)⟩
      · exact .inl less

theorem bounds_infinity : Bounds (value beyond) (.infinity .positive) := by
  intro earlier later first second
  have rounds := rounds_sub second first
  rw [Waited, beyond_le_value_iff rounds.fitted]
  exact ⟨rounds.le_value fitted_beyond, le_double_of_le first second size_nonneg⟩

/-- A number that can be stored. -/
def Double (number : UnpackedFloat) : Prop :=
  Proper Format.binary64 number ∨ (∃ sign, number = .infinity sign) ∨ number = .notANumber

/-- Each span of time that is not negative is a bound. -/
theorem exists_bounds (forward : Forward span) (double : Double span) :
    ∃ bound, Bounds bound span := by
  cases span with
  | notANumber => exact forward.elim
  | zero sign => exact ⟨_, @bounds_value (.zero sign) trivial le_rfl⟩
  | infinity sign =>
    cases sign with
    | negative => exact forward.elim
    | positive => exact ⟨_, bounds_infinity⟩
  | finite sign m e some =>
    cases sign with
    | negative => exact forward.elim
    | positive => exact ⟨_, bounds_value (double.resolve_right (by simp)) size_nonneg⟩

/-! ### Waiting -/

variable {first second third : UnpackedFloat}

/-- Whoever waits does not wait for less than nothing. -/
theorem Waited.not_negative (waited : Waited span first second) (forward : Forward span) :
    sub Format.binary64 second first ≠ .infinity .negative := by
  intro same
  rw [Waited, same] at waited
  cases span with
  | zero sign => cases waited
  | notANumber => cases waited
  | infinity sign =>
    cases sign with
    | negative => exact forward.elim
    | positive => cases waited
  | finite sign m e some => cases sign <;> cases waited

theorem Waited.isNumber (waited : Waited span first second) :
    sub Format.binary64 second first ≠ .notANumber := by
  intro same
  rw [Waited, same] at waited
  cases span <;> cases waited

/-- Whoever waits for ever waits long enough. -/
theorem waited_of_infinity (forward : Forward span)
    (same : sub Format.binary64 second first = .infinity .positive) : Waited span first second := by
  rw [Waited, same]
  cases span with
  | zero sign => rfl
  | notANumber => exact forward.elim
  | infinity sign =>
    cases sign with
    | negative => exact forward.elim
    | positive => rfl
  | finite sign m e some => cases sign <;> rfl

/-- Whoever waited began at some time or has always waited. -/
theorem Waited.begun (waited : Waited span first second) (forward : Forward span)
    (double : Double first) : Proper Format.binary64 first ∨ first = .infinity .negative := by
  have number := waited.isNumber
  have past := waited.not_negative forward
  rcases double with proper | ⟨sign, rfl⟩ | rfl
  · exact .inl proper
  · cases sign with
    | negative => exact .inr rfl
    | positive =>
      cases second with
      | notANumber => exact absurd rfl number
      | infinity sign =>
        cases sign with
        | negative => exact absurd rfl past
        | positive => exact absurd rfl number
      | zero sign => exact absurd rfl past
      | finite sign m e some => exact absurd rfl past
  · cases second <;> exact absurd rfl number

/-- Whoever waited did so until some time or for ever. -/
theorem Waited.ended (waited : Waited span first second) (forward : Forward span)
    (double : Double second) : Proper Format.binary64 second ∨ second = .infinity .positive := by
  have number := waited.isNumber
  have past := waited.not_negative forward
  rcases double with proper | ⟨sign, rfl⟩ | rfl
  · exact .inl proper
  · cases sign with
    | positive => exact .inr rfl
    | negative =>
      cases first with
      | notANumber => exact absurd rfl number
      | infinity sign =>
        cases sign with
        | negative => exact absurd rfl number
        | positive => exact absurd rfl past
      | zero sign => exact absurd rfl past
      | finite sign m e some => exact absurd rfl past
  · cases first <;> exact absurd rfl number

/-- Whoever waited twice in a row waited. -/
theorem Waited.trans (early : Waited span first second) (late : Waited span second third)
    (forward : Forward span) (wait : Double span)
    (doubles : Double first ∧ Double second ∧ Double third) : Waited span first third := by
  obtain ⟨bound, bounds⟩ := exists_bounds forward wait
  have middle : Proper Format.binary64 second := by
    rcases early.ended forward doubles.2.1 with proper | rfl
    · exact proper
    · exact (late.begun forward doubles.2.1).resolve_right (by simp)
  rcases early.begun forward doubles.1 with begun | rfl
  · rcases late.ended forward doubles.2.2 with ended | rfl
    · have half := (bounds begun.fitted middle.fitted).2 early
      have other := (bounds middle.fitted ended.fitted).2 late
      refine (bounds begun.fitted ended.fitted).1 ?_
      linarith
    · refine waited_of_infinity forward ?_
      cases first with
      | notANumber => exact begun.elim
      | infinity sign => exact begun.elim
      | zero sign => rfl
      | finite sign m e some => rfl
  · refine waited_of_infinity forward ?_
    rcases late.ended forward doubles.2.2 with ended | rfl
    · cases third with
      | notANumber => exact ended.elim
      | infinity sign => exact ended.elim
      | zero sign => rfl
      | finite sign m e some => rfl
    · rfl

end Arcade.Number

namespace Arcade

/-- Waiting times add up: whoever waited for a span of time twice in a row waited for it. -/
def Patient {T : Type} [Scalar T] (span : T) : Prop :=
  ∀ first second third : T, span ≤ second - first → span ≤ third - second → span ≤ third - first

namespace Number

theorem double_unpack (x : Float) : Double x.toModel.unpack := by
  cases unpacked : x.toModel.unpack with
  | notANumber => exact .inr (.inr rfl)
  | infinity sign => exact .inr (.inl ⟨sign, rfl⟩)
  | zero sign => exact .inl trivial
  | finite sign m e some => exact .inl (canonical_unpack (by decide) unpacked)

theorem le_double_iff {x y : Float} : x ≤ y ↔ x.toModel.unpack.le y.toModel.unpack = true :=
  decide_eq_true_iff

theorem waited_iff {span earlier later : Float} :
    span ≤ later - earlier ↔
      Waited span.toModel.unpack earlier.toModel.unpack later.toModel.unpack :=
  le_double_iff

end Number

/-- Waiting times add up also when they are rounded. -/
theorem patient_double {span : Float} (forward : 0 ≤ span) : Patient span := by
  intro first second third early late
  have waits : Number.Forward span.toModel.unpack :=
    Number.forward_iff.mpr (Number.le_double_iff.mp forward)
  exact Number.waited_iff.mpr ((Number.waited_iff.mp early).trans (Number.waited_iff.mp late) waits
    (Number.double_unpack span)
    ⟨Number.double_unpack first, Number.double_unpack second, Number.double_unpack third⟩)

end Arcade
