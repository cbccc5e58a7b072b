import Arcade.Crash
import Arcade.Spec.Validate

/-! What is known of a value because it was read. A reader ensures a condition when all that it reads
meets it; a record meets the conditions that its fields ensure, however the record was written. -/

namespace Arcade

theorem map_eq_ok {ε α β : Type} {first : Except ε α} {change : α → β} {result : β}
    (done : first.map change = .ok result) : ∃ value, first = .ok value ∧ change value = result := by
  cases first with
  | error failure => cases done
  | ok value => exact ⟨value, rfl, Except.ok.inj done⟩

theorem map_eq_ok_iff {ε α β : Type} {first : Except ε α} {change : α → β} {result : β} :
    first.map change = .ok result ↔ ∃ value, first = .ok value ∧ change value = result := by
  refine ⟨map_eq_ok, ?_⟩
  rintro ⟨value, rfl, rfl⟩
  rfl

/-- Whatever is read meets a condition. -/
def Reader.Ensures (read : Reader α) (holds : α → Prop) : Prop :=
  ∀ draft value, read draft = .ok value → holds value

theorem Reader.Ensures.map {read : Reader α} {holds : α → Prop} {change : α → β} {lasts : β → Prop}
    (ensures : read.Ensures holds) (keeps : ∀ value, holds value → lasts (change value)) :
    Reader.Ensures (fun draft => (read draft).map change) lasts := by
  intro draft _ done
  obtain ⟨value, found, rfl⟩ := map_eq_ok done
  exact keeps value (ensures draft value found)

theorem Reader.mismatch_ne_ok (expected : String) (draft : Draft) (value : α) :
    Reader.mismatch expected draft ≠ .ok value := by
  unfold Reader.mismatch
  split
  · rintro ⟨⟩
  · rintro ⟨⟩

/-- A field ensures a condition when its reader does and what stands for it meets it. -/
structure Field.Ensures (field : Field α) (holds : α → Prop) : Prop where
  read : field.read.Ensures holds
  absent : ∀ value, field.absent = some value → holds value
  short : ∀ value, field.short = some value → holds value

namespace Schema

/-- A condition for each field. -/
@[reducible] def Conditions : Schema τ → Type
  | nil => Unit
  | cons (α := α) _ rest => (α → Prop) × rest.Conditions

/-- The fields of a record meet their conditions. -/
def Meets : (schema : Schema τ) → schema.Conditions → τ → Prop
  | nil, _, _ => True
  | cons _ rest, conditions, record =>
    conditions.1 record.1 ∧ rest.Meets conditions.2 record.2

/-- The fields that were met so far meet their conditions. -/
def SlotsMeet : (schema : Schema τ) → schema.Conditions → schema.Slots → Prop
  | nil, _, _ => True
  | cons _ rest, conditions, slots =>
    (∀ value, slots.1 = some value → conditions.1 value) ∧ rest.SlotsMeet conditions.2 slots.2

/-- Each field ensures its condition. -/
def Ensures : (schema : Schema τ) → schema.Conditions → Prop
  | nil, _ => True
  | cons field rest, conditions => field.Ensures conditions.1 ∧ rest.Ensures conditions.2

theorem slotsMeet_vacant (schema : Schema τ) (conditions : schema.Conditions) :
    schema.SlotsMeet conditions schema.vacant := by
  induction schema with
  | nil => trivial
  | cons field rest ih =>
    refine ⟨?_, ih conditions.2⟩
    rintro value ⟨⟩

theorem slotsMeet_accept {schema : Schema τ} {conditions : schema.Conditions}
    (ensures : schema.Ensures conditions) {slots later : schema.Slots} {key : String} {draft : Draft}
    (meet : schema.SlotsMeet conditions slots)
    (accepted : schema.accept slots key draft = some (.ok later)) :
    schema.SlotsMeet conditions later := by
  induction schema with
  | nil => cases accepted
  | cons field rest ih =>
    obtain ⟨own, others⟩ := ensures
    obtain ⟨here, there⟩ := meet
    unfold accept at accepted
    split at accepted
    · split at accepted
      · cases accepted
      · obtain ⟨value, read, done⟩ := map_eq_ok (Option.some.inj accepted)
        cases done
        refine ⟨?_, there⟩
        rintro _ ⟨⟩
        exact own.read draft value read
    · obtain ⟨outcome, found, done⟩ := Option.map_eq_some_iff.mp accepted
      obtain ⟨values, more, done⟩ := map_eq_ok done
      cases done
      exact ⟨here, ih others there (found.trans (congrArg some more))⟩

theorem slotsMeet_members {schema : Schema τ} {conditions : schema.Conditions}
    (ensures : schema.Ensures conditions) {slots later : schema.Slots}
    {drafts : List (Option String × Draft)} (meet : schema.SlotsMeet conditions slots)
    (read : schema.members slots drafts = .ok later) : schema.SlotsMeet conditions later := by
  induction drafts generalizing slots with
  | nil =>
    cases read
    exact meet
  | cons member rest ih =>
    obtain ⟨key, draft⟩ := member
    cases key with
    | none => cases read
    | some key =>
      simp only [members] at read
      split at read
      · obtain ⟨next, accepted, read⟩ := bind_eq_ok read
        subst accepted
        rename_i accepted
        exact ih (slotsMeet_accept ensures meet accepted) read
      · obtain ⟨-, -, read⟩ := bind_eq_ok read
        exact ih meet read

theorem meets_complete {schema : Schema τ} {conditions : schema.Conditions}
    (ensures : schema.Ensures conditions) {slots : schema.Slots} {record : τ}
    (meet : schema.SlotsMeet conditions slots) (complete : schema.complete slots = .ok record) :
    schema.Meets conditions record := by
  induction schema with
  | nil => trivial
  | cons field rest ih =>
    obtain ⟨own, others⟩ := ensures
    obtain ⟨here, there⟩ := meet
    unfold Schema.complete at complete
    split at complete
    · rename_i value slot
      obtain ⟨_, ⟨⟩, complete⟩ := bind_eq_ok complete
      obtain ⟨values, more, complete⟩ := bind_eq_ok complete
      cases complete
      exact ⟨here value slot, ih others there more⟩
    · rename_i value _ absent
      obtain ⟨_, ⟨⟩, complete⟩ := bind_eq_ok complete
      obtain ⟨values, more, complete⟩ := bind_eq_ok complete
      cases complete
      exact ⟨own.absent value absent, ih others there more⟩
    · cases complete

theorem meets_fromItems {schema : Schema τ} {conditions : schema.Conditions}
    (ensures : schema.Ensures conditions) {torn : Option Cut} {expected : String} {before : Nat}
    {items left : List Draft} {record : τ}
    (read : schema.fromItems torn expected before items = .ok (record, left)) :
    schema.Meets conditions record := by
  induction schema generalizing before items left with
  | nil => trivial
  | cons field rest ih =>
    obtain ⟨own, others⟩ := ensures
    cases items with
    | nil =>
      obtain ⟨-, -, read⟩ := bind_eq_ok read
      simp only at read
      split at read
      · rename_i value short
        obtain ⟨_, ⟨⟩, read⟩ := bind_eq_ok read
        obtain ⟨⟨values, unread⟩, more, read⟩ := bind_eq_ok read
        cases read
        exact ⟨own.short value short, ih others more⟩
      · cases read
    | cons item items =>
      obtain ⟨value, found, read⟩ := bind_eq_ok read
      obtain ⟨⟨values, unread⟩, more, read⟩ := bind_eq_ok read
      cases read
      exact ⟨own.read item value found, ih others more⟩

/-- A record that is read meets the conditions that its fields ensure. -/
theorem ensures_read {schema : Schema τ} {conditions : schema.Conditions}
    (ensures : schema.Ensures conditions) (origin : Origin) (name : String) (room : Nat) :
    (schema.read origin name room).Ensures (schema.Meets conditions) := by
  intro draft record read
  unfold Schema.read at read
  split at read
  · cases read
  · cases read
  · obtain ⟨slots, members, read⟩ := bind_eq_ok read
    split at read
    · exact meets_complete ensures
        (slotsMeet_members ensures (slotsMeet_vacant schema conditions) members) read
    · cases read
    · cases read
  · obtain ⟨⟨values, left⟩, items, read⟩ := bind_eq_ok read
    simp only at read
    split at read
    · obtain ⟨-, -, read⟩ := bind_eq_ok read
      cases read
      exact meets_fromItems ensures items
    · cases read
  · exact absurd read (Reader.mismatch_ne_ok _ _ _)

end Schema

/-! ### Sizes of worlds -/

namespace Reader

/-- Nothing is asked of what is read. -/
theorem ensures_anything (read : Reader α) : read.Ensures fun _ => True := fun _ _ _ => trivial

theorem ensures_wholeBetween (low high : Int) (expected : String) :
    (wholeBetween low high expected).Ensures fun value => low ≤ value ∧ value ≤ high := by
  intro draft value read
  unfold wholeBetween at read
  split at read
  · split at read
    · rename_i inside
      cases read
      simpa using inside
    · cases read
  · exact absurd read (mismatch_ne_ok _ _ _)

theorem ensures_word32 : word32.Ensures (· < UInt32.size) := by
  refine (ensures_wholeBetween 0 0xFFFFFFFF "u32").map ?_
  intro value within
  change value.toNat < 0x100000000
  omega

end Reader

namespace Field

theorem ensures_required {read : Reader α} {holds : α → Prop} (ensures : read.Ensures holds)
    (name : String) : (required name read).Ensures holds := by
  refine ⟨ensures, ?_, ?_⟩
  · rintro value ⟨⟩
  · rintro value ⟨⟩

theorem ensures_anything (field : Field α) : field.Ensures fun _ => True :=
  ⟨field.read.ensures_anything, fun _ _ => trivial, fun _ _ => trivial⟩

end Field

namespace Spec

variable {S : Type} [Scalar S]

/-- The sizes of a world are words of 32 bits. -/
def Settings.Fits (settings : Settings S) : Prop :=
  settings.width < UInt32.size ∧ settings.height < UInt32.size

theorem Form.ensures_settings (origin : Origin) (room : Nat) :
    (Form.settings origin room : Reader (Settings S)).Ensures Settings.Fits := by
  let conditions : (settingsSchema (S := S) origin (room - 1)).Conditions :=
    ((· < UInt32.size), (· < UInt32.size), (fun _ => True), (fun _ => True), ())
  have fields : (settingsSchema (S := S) origin (room - 1)).Ensures conditions :=
    ⟨Field.ensures_required Reader.ensures_word32 "width",
      Field.ensures_required Reader.ensures_word32 "height", Field.ensures_anything _,
      Field.ensures_anything _, trivial⟩
  refine (Schema.ensures_read fields origin "struct GameConfig" room).map ?_
  intro record meets
  exact ⟨meets.1, meets.2.1⟩

/-- The world of a game that was read has sizes of 32 bits. -/
theorem Form.ensures_spec (origin : Origin) (room : Nat) :
    (Form.spec origin room : Reader (Spec S)).Ensures fun spec => spec.settings.Fits := by
  let conditions : (specSchema (S := S) origin (room - 1)).Conditions :=
    ((fun _ => True), (fun _ => True), Settings.Fits, (fun _ => True), (fun _ => True),
      (fun _ => True), (fun _ => True), ())
  have fields : (specSchema (S := S) origin (room - 1)).Ensures conditions :=
    ⟨Field.ensures_anything _, Field.ensures_anything _,
      Field.ensures_required (ensures_settings origin _) "game", Field.ensures_anything _,
      Field.ensures_anything _, Field.ensures_anything _, Field.ensures_anything _, trivial⟩
  refine (Schema.ensures_read fields origin "struct GameSpec" room).map ?_
  intro record meets
  exact meets.2.2.1

theorem Form.ensures_ofText {read : Nat → Reader α} {holds : α → Prop}
    (ensures : ∀ room, (read room).Ensures holds) {text : String} {value : α}
    (done : ofText read text = .ok value) : holds value := by
  unfold ofText at done
  generalize Json.Text.draft text = drafted at done
  obtain ⟨draft, more⟩ := drafted
  obtain ⟨found, parsed, done⟩ := bind_eq_ok done
  cases more with
  | true => cases done
  | false =>
    cases done
    exact ensures _ draft _ parsed

/-- What is read from text is a valid game and meets what its reader ensures. -/
theorem ensured_of_ofText {holds : Spec S → Prop} (ensures : ∀ room, (Form.spec .text room).Ensures holds)
    {text : String} {spec : Spec S} (read : ofText text = .ok spec) :
    spec.validate = .ok () ∧ holds spec := by
  obtain ⟨found, parsed, read⟩ := bind_eq_ok read
  obtain ⟨⟨⟩, valid, read⟩ := bind_eq_ok read
  cases read
  refine ⟨valid, ?_⟩
  cases outcome : (parse text : Except JsonError (Spec S)) with
  | error error =>
    rw [outcome] at parsed
    cases parsed
  | ok value =>
    rw [outcome] at parsed
    cases parsed
    exact Form.ensures_ofText ensures outcome

/-- What is read from text is a valid game whose world has sizes of 32 bits. -/
theorem valid_of_ofText {text : String} {spec : Spec S} (read : ofText text = .ok spec) :
    spec.validate = .ok () ∧ spec.settings.Fits :=
  ensured_of_ofText (Form.ensures_spec .text) read

end Spec

end Arcade
