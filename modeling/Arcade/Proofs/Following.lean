import Arcade.Proofs.Outline
import Arcade.Proofs.Restoring

/-! What readers make of a respelled document. One reader follows another when it reads from every
respelling what the other read before. The two may differ in where the document comes from and in how
many levels are left, so a text is followed into a tree and a tree into a text. -/

namespace Arcade

open Spec.Outline (Part Record Entry Respells)

/-- One reader reads from every respelling that it has levels for what another read before. -/
def Reader.Follows (after before : Reader α) (part : Part) (levels : Nat) : Prop :=
  ∀ tree page value, Respells part tree page → page.depth ≤ levels →
    before tree.toDraft = .ok value → after page.toDraft = .ok value

namespace Reader

variable {after before read : Reader α} {part : Part} {levels : Nat}

theorem Follows.map (own : after.Follows before part levels) (make : α → β) :
    Reader.Follows (fun draft => (after draft).map make) (fun draft => (before draft).map make)
      part levels := by
  intro tree page _ respells deep done
  obtain ⟨value, found, rfl⟩ := map_eq_ok done
  exact congrArg (Except.map make) (own tree page value respells deep found)

/-- Of a value that is neither an array nor an object there is but one spelling. -/
theorem follows_plain (array : ∀ items value, read (Json.array items).toDraft ≠ .ok value)
    (object : ∀ members value, read (Json.object members).toDraft ≠ .ok value) :
    read.Follows read part levels := by
  intro tree page value respells _ done
  have plain : tree.plain = true := by
    cases tree with
    | array items => exact absurd done (array items value)
    | object members => exact absurd done (object members value)
    | _ => rfl
  rw [respells.eq_of_plain plain]
  exact done

theorem follows_string : string.Follows string part levels := follows_plain nofun nofun

theorem follows_bool : bool.Follows bool part levels := follows_plain nofun nofun

theorem follows_number (expected : String) :
    (number expected).Follows (number expected) part levels :=
  follows_plain nofun nofun

theorem follows_wholeBetween (low high : Int) (expected : String) :
    (wholeBetween low high expected).Follows (wholeBetween low high expected) part levels :=
  follows_plain nofun nofun

theorem follows_word32 : word32.Follows word32 part levels :=
  (follows_wholeBetween 0 0xFFFFFFFF "u32").map Int.toNat

theorem named_eq_ok_iff {kinds : List (String × α)} {name : String} {value : α} :
    named kinds name = .ok value ↔ lookup? name kinds = some value := by
  unfold named
  split <;> simp_all

theorem variantName_eq_ok_iff {kinds : List (String × α)} {tree : Json} {value : α} :
    variantName kinds tree.toDraft = .ok value ↔
      ∃ name, tree = .string name ∧ lookup? name kinds = some value := by
  cases tree with
  | string name => simp [Json.toDraft, variantName, named_eq_ok_iff]
  | _ => simp [Json.toDraft, variantName, mismatch, Draft.found]

/-- A name of a closed set stands alone, or before `null` in an object of its own. -/
theorem variant_eq_ok_iff {kinds : List (String × α)} {origin : Origin} {room : Nat} {tree : Json}
    {value : α} :
    variant origin kinds room tree.toDraft = .ok value ↔
      ∃ name, lookup? name kinds = some value ∧
        (tree = .string name ∨ tree = .object [(name, .null)] ∧ (origin = .text → room ≠ 0)) := by
  have empty : ∀ tree : Json, unit tree.toDraft = .ok () ↔ tree = .null := by
    intro tree
    cases tree <;> simp [Json.toDraft, unit, mismatch, Draft.found]
  cases tree with
  | string name => simp [Json.toDraft, variant, named_eq_ok_iff]
  | object members =>
    cases members with
    | nil => cases origin <;> cases room <;> simp [Json.toDraft, Json.draftMembers, variant, soleMember]
    | cons first rest =>
      obtain ⟨name, tree⟩ := first
      cases rest with
      | nil =>
        cases origin <;> cases room <;>
          simp [Json.toDraft, Json.draftMembers, variant, soleMember, bind_eq_ok_iff,
            named_eq_ok_iff, empty]
      | cons second rest =>
        cases origin <;> cases room <;>
          simp [Json.toDraft, Json.draftMembers, variant, soleMember, bind_eq_ok_iff]
  | _ => cases origin <;> simp [Json.toDraft, variant, mismatch, Draft.found]

theorem follows_variant (kinds : List (String × α)) (other origin : Origin) (levels room : Nat) :
    (variant other kinds levels).Follows (variant origin kinds room) .plain levels := by
  intro tree page value respells deep done
  obtain ⟨name, known, rfl | ⟨rfl, -⟩⟩ := variant_eq_ok_iff.mp done
  · rw [respells.eq_of_plain rfl]
    exact variant_eq_ok_iff.mpr ⟨name, known, .inl rfl⟩
  · have same : page = .object [(name, .null)] := by
      cases respells with
      | same => rfl
      | permuted _ order => rw [List.perm_singleton.mp order.symm]
    subst same
    refine variant_eq_ok_iff.mpr ⟨name, known, .inr ⟨rfl, fun _ => ?_⟩⟩
    rintro rfl
    simp [Json.depth] at deep

theorem option_toDraft (read : Reader α) {tree : Json} (present : tree ≠ .null) :
    option read tree.toDraft = (read tree.toDraft).map some := by
  cases tree with
  | null => exact absurd rfl present
  | _ => rfl

theorem Follows.option (own : after.Follows before part levels) :
    (option after).Follows (option before) part levels := by
  intro tree page value respells deep done
  by_cases missing : tree = .null
  · rw [respells.eq_null_iff.mpr missing]
    rw [missing] at done
    exact done
  · rw [option_toDraft before missing] at done
    rw [option_toDraft after (mt respells.eq_null_iff.mp missing)]
    exact own.map some tree page value respells deep done

theorem Follows.items (own : after.Follows before part levels) {trees pages : List Json}
    (respells : List.Forall₂ (Respells part) trees pages)
    (deep : ∀ page ∈ pages, page.depth ≤ levels) {values : List α}
    (done : items before (Json.draftItems trees) = .ok values) :
    items after (Json.draftItems pages) = .ok values := by
  induction respells generalizing values with
  | nil => exact done
  | cons here there ih =>
    obtain ⟨level, deep⟩ := List.forall_mem_cons.mp deep
    obtain ⟨first, read, done⟩ := bind_eq_ok done
    obtain ⟨others, more, done⟩ := bind_eq_ok done
    refine bind_eq_ok_iff.mpr ⟨first, own _ _ first here level read, ?_⟩
    exact bind_eq_ok_iff.mpr ⟨others, ih deep more, done⟩

theorem follows_list {after before : Nat → Reader α}
    (own : ∀ levels room, (after levels).Follows (before room) part levels) (levels room : Nat) :
    (list after levels).Follows (list before room) (.list part) levels := by
  intro tree page value respells deep done
  cases tree with
  | array trees =>
    cases room with
    | zero => cases done
    | succ room =>
      obtain ⟨pages, rfl, each⟩ := respells.items
      obtain ⟨left, shallow⟩ := Json.depth_array_le_iff.mp deep
      obtain ⟨levels, rfl⟩ := Nat.exists_eq_succ_of_ne_zero left
      obtain ⟨values, read, done⟩ := bind_eq_ok done
      exact bind_eq_ok_iff.mpr ⟨values, (own levels room).items each shallow read, done⟩
  | _ => cases room <;> cases done

end Reader

namespace Draft

mutual

/-- Nothing but the tree itself can be settled from it. -/
theorem eq_of_settle : ∀ (tree : Json) {room : Nat} {settled : Json},
    settle room tree.toDraft = .ok settled → settled = tree
  | .null, _, _, done | .bool _, _, _, done | .number _, _, _, done | .string _, _, _, done => by
    cases done
    rfl
  | .array _, 0, _, done | .object _, 0, _, done => by cases done
  | .array items, room + 1, _, done => by
    obtain ⟨found, each, done⟩ := bind_eq_ok done
    cases done
    rw [eq_of_settleItems items each]
  | .object members, room + 1, _, done => by
    obtain ⟨found, each, done⟩ := bind_eq_ok done
    cases done
    rw [eq_of_settleMembers members each]

theorem eq_of_settleItems : ∀ (items : List Json) {room : Nat} {settled : List Json},
    settleItems room (Json.draftItems items) = .ok settled → settled = items
  | [], _, _, done => by
    cases done
    rfl
  | item :: rest, _, _, done => by
    obtain ⟨first, here, done⟩ := bind_eq_ok done
    obtain ⟨others, there, done⟩ := bind_eq_ok done
    cases done
    rw [eq_of_settle item here, eq_of_settleItems rest there]

theorem eq_of_settleMembers : ∀ (members : List (String × Json)) {room : Nat}
    {settled : List (String × Json)},
    settleMembers room (Json.draftMembers members) = .ok settled → settled = members
  | [], _, _, done => by
    cases done
    rfl
  | (name, value) :: rest, _, _, done => by
    obtain ⟨first, here, done⟩ := bind_eq_ok done
    obtain ⟨others, there, done⟩ := bind_eq_ok done
    cases done
    rw [eq_of_settle value here, eq_of_settleMembers rest there]

end

end Draft

namespace Reader

theorem ofBreach_eq_ok {result : Except Breach α} {value : α} (done : ofBreach result = .ok value) :
    result = .ok value := by
  cases result with
  | error kind => cases done
  | ok found =>
    cases done
    rfl

/-- A free tree is read in its canonical form, which no respelling changes. -/
theorem follows_tree (levels room : Nat) : (tree levels).Follows (tree room) .free levels := by
  intro source page value respells deep done
  obtain ⟨settled, found, rfl⟩ := map_eq_ok (ofBreach_eq_ok done)
  rw [Draft.eq_of_settle source found, ← respells.canonical_eq]
  simp [tree, Draft.settle_toDraft page levels deep, ofBreach, Except.map]

end Reader

/-! ### Fields and records -/

/-- A field follows another of the same name: it reads what respells the value of the other, and whatever
may be written in place of a missing value. -/
structure Field.Follows (after before : Field α) (entry : Entry) (levels : Nat) : Prop where
  named : before.name = entry.name
  spelled : before.spelling = entry.spelling
  framed : after = { before with read := after.read }
  read : after.read.Follows before.read entry.part levels
  missing : ∀ value, before.absent = some value → ∀ tree ∈ entry.missing, tree.depth ≤ levels →
    after.read tree.toDraft = .ok value

namespace Field

variable {before after : Field α} {entry : Entry} {levels : Nat}

theorem Follows.answersTo (own : after.Follows before entry levels) :
    after.answersTo = entry.answersTo ∧ before.answersTo = entry.answersTo := by
  have same : before.answersTo = entry.answersTo := by
    funext key
    rw [Bool.eq_iff_iff, answersTo_iff, Entry.answersTo_iff, Entry.names, own.named, own.spelled]
  refine ⟨?_, same⟩
  rw [own.framed, ← same]
  rfl

theorem Follows.absent (own : after.Follows before entry levels) : after.absent = before.absent := by
  rw [own.framed]

theorem Follows.short (own : after.Follows before entry levels) : after.short = before.short := by
  rw [own.framed]

theorem follows_required {after before : Reader α} {part : Part}
    (own : after.Follows before part levels) (name : String) :
    (required name after).Follows (required name before) (.required name part) levels :=
  ⟨rfl, rfl, rfl, own, by rintro _ ⟨⟩⟩

theorem follows_withDefault {after before : Reader α} {part : Part} {value : α} {standard : List Json}
    (own : after.Follows before part levels)
    (reads : ∀ tree ∈ standard, tree.depth ≤ levels → after tree.toDraft = .ok value) (name : String) :
    (withDefault name value after).Follows (withDefault name value before)
      (.withDefault name part standard) levels :=
  ⟨rfl, rfl, rfl, own, by rintro _ ⟨⟩; exact reads⟩

theorem follows_optional {after before : Reader α} {part : Part}
    (own : after.Follows before part levels) (name : String) :
    (optional name after).Follows (optional name before) (.optional name part) levels :=
  ⟨rfl, rfl, rfl, own.option, by rintro _ ⟨⟩ _ listed -; cases List.mem_singleton.mp listed; rfl⟩

/-- A field gets from respelled members what it got before. -/
theorem Follows.gets (own : after.Follows before entry levels) {trees pages : List Json}
    (respells : List.Forall₂ (Respells entry.part) trees pages)
    (deep : ∀ page ∈ pages, page.depth ≤ levels) {value : α} (gets : before.Gets none trees value) :
    after.Gets none pages value := by
  match trees, respells, gets with
  | [], .nil, gets => exact own.absent.trans gets
  | [_], .cons here .nil, gets => exact own.read _ _ _ here (deep _ List.mem_cons_self) gets

/-- A field reads what stands for it in an array of all fields. -/
theorem Follows.stands (own : after.Follows before entry levels) {members : List (String × Json)}
    {item : Json} (stands : entry.Stands members item) (deep : item.depth ≤ levels) {value : α}
    (gets : before.Gets none (Json.under before.answersTo members) value) :
    after.read item.toDraft = .ok value := by
  rw [own.answersTo.2] at gets
  rcases stands with present | ⟨absent, listed⟩
  · generalize Json.under entry.answersTo members = trees at present gets
    match trees, gets with
    | [tree], gets =>
      cases List.mem_singleton.mp present
      exact own.read _ _ _ (.same item) deep gets
  · rw [absent] at gets
    exact own.missing value gets item listed deep

end Field

/-- The fields of a record follow those of another, each as the outline says. -/
inductive Schema.Follows (levels : Nat) : {τ : Type} → Schema τ → Schema τ → List Entry → Prop where
  | nil : Schema.Follows levels .nil .nil []
  | cons {α β : Type} {after before : Field α} {others rest : Schema β} {entry : Entry}
      {entries : List Entry} (own : after.Follows before entry levels)
      (more : Schema.Follows levels others rest entries) :
      Schema.Follows levels (.cons after others) (.cons before rest) (entry :: entries)

namespace Schema

variable {after before : Schema τ} {entries : List Entry} {levels : Nat} {record : τ}
  {members others : List (String × Json)}

theorem Follows.perm_names (fields : Follows levels after before entries) :
    (after.names ++ after.spellings).Perm (entries.flatMap Entry.names) ∧
      (before.names ++ before.spellings).Perm (entries.flatMap Entry.names) := by
  induction fields with
  | nil => exact ⟨.nil, .nil⟩
  | @cons _ _ first second others rest entry entries own more ih =>
    have same : second.name :: second.spelling.toList = entry.names := by
      rw [Entry.names, own.named, own.spelled]
    have again : first.name :: first.spelling.toList = entry.names := by
      rw [← same, own.framed]
    refine ⟨(perm_names_cons first others).trans ?_, (perm_names_cons second rest).trans ?_⟩
    · exact again ▸ ih.1.append_left _
    · exact same ▸ ih.2.append_left _

theorem Follows.apart (fields : Follows levels after before entries)
    (apart : (entries.flatMap Entry.names).Nodup) : after.Apart ∧ before.Apart :=
  ⟨fields.perm_names.1.nodup_iff.mpr apart, fields.perm_names.2.nodup_iff.mpr apart⟩

/-- Fields get from respelled members what they got before. -/
theorem Follows.gets (fields : Follows levels after before entries)
    (respells : ∀ entry ∈ entries, List.Forall₂ (Respells entry.part)
      (Json.under entry.answersTo members) (Json.under entry.answersTo others))
    (deep : ∀ member ∈ others, member.2.depth ≤ levels)
    (gets : before.Gets before.vacant members record) : after.Gets after.vacant others record := by
  induction fields with
  | nil => trivial
  | cons own more ih =>
    obtain ⟨here, there⟩ := List.forall_mem_cons.mp respells
    refine ⟨?_, ih there gets.2⟩
    rw [own.answersTo.1]
    refine own.gets here (fun page inside => ?_) (own.answersTo.2 ▸ gets.1)
    obtain ⟨name, member, -⟩ := Json.exists_of_mem_under inside
    exact deep _ member

/-- Fields read from an array what stood for them in an object. -/
theorem Follows.stands (fields : Follows levels after before entries) {items : List Json}
    (all : List.Forall₂ (Entry.Stands members) entries items)
    (deep : ∀ item ∈ items, item.depth ≤ levels) (gets : before.Gets before.vacant members record)
    (expected : String) (passed : Nat) :
    after.fromItems none expected passed (Json.draftItems items) = .ok (record, []) := by
  induction fields generalizing items passed with
  | nil =>
    cases all
    rfl
  | cons own more ih =>
    cases all with
    | cons here there =>
      obtain ⟨level, deep⟩ := List.forall_mem_cons.mp deep
      refine (fromItems_cons_iff ..).mpr ⟨own.stands here level gets.1, ?_⟩
      exact ih there deep gets.2 (passed + 1)

/-- Fields read from a respelled array what they read before. -/
theorem Follows.slots (fields : Follows levels after before entries) {trees pages : List Json}
    (long : trees.length = pages.length)
    (respells : ∀ (i : Nat) (entry : Entry) (tree page : Json), entries[i]? = some entry →
      trees[i]? = some tree → pages[i]? = some page → Respells entry.part tree page)
    (deep : ∀ page ∈ pages, page.depth ≤ levels) {wanted : String} {number : Nat}
    (read : before.fromItems none wanted number (Json.draftItems trees) = .ok (record, []))
    (expected : String) (passed : Nat) :
    after.fromItems none expected passed (Json.draftItems pages) = .ok (record, []) := by
  induction fields generalizing trees pages number passed with
  | nil =>
    cases trees with
    | nil =>
      cases List.length_eq_zero_iff.mp long.symm
      rfl
    | cons tree trees => cases read
  | cons own more ih =>
    cases trees with
    | nil =>
      cases List.length_eq_zero_iff.mp long.symm
      obtain ⟨stood, rest⟩ := (fromItems_nil_iff ..).mp read
      exact (fromItems_nil_iff ..).mpr
        ⟨own.short.trans stood, ih rfl (by simp) deep rest (passed + 1)⟩
    | cons tree trees =>
      obtain ⟨page, pages, rfl⟩ := List.exists_cons_of_length_eq_add_one long.symm
      obtain ⟨level, deep⟩ := List.forall_mem_cons.mp deep
      obtain ⟨found, rest⟩ := (fromItems_cons_iff ..).mp read
      have own := own.read _ _ _ (respells 0 _ _ _ rfl rfl rfl) level found
      have more := ih (Nat.succ.inj long) (fun i => respells (i + 1)) deep rest (passed + 1)
      exact (fromItems_cons_iff ..).mpr ⟨own, more⟩

/-- A record whose fields follow those of another follows it, whatever levels are left to its own. -/
theorem Follows.read {kind : Record} {room inside : Nat}
    (fields : room ≠ 0 → levels ≠ 0 → Follows (levels - 1) after before kind.entries)
    (space : levels ≠ 0 → inside ≠ 0) (other origin : Origin) (name label : String) :
    (after.read other name inside).Follows (before.read origin label room) (.record kind) levels := by
  intro tree page value respells deep done
  cases tree with
  | object members =>
    have full : room ≠ 0 := by
      rintro rfl
      cases done
    rcases respells.object_cases with ⟨mixed, others, rfl, order, each⟩ | ⟨items, rfl, all⟩
    · obtain ⟨left, shallow⟩ := Json.depth_object_le_iff.mp deep
      have follows := fields full left
      obtain ⟨distinct, apart⟩ := follows.apart kind.apart
      have gets := (read_object apart origin label full).mp done
      exact (read_object distinct other name (space left)).mpr
        (follows.gets each shallow (gets_perm gets order))
    · obtain ⟨left, shallow⟩ := Json.depth_array_le_iff.mp deep
      have follows := fields full left
      have gets := (read_object (follows.apart kind.apart).2 origin label full).mp done
      exact (read_array other name (space left)).mpr (follows.stands all shallow gets _ 0)
  | array trees =>
    have full : room ≠ 0 := by
      rintro rfl
      cases done
    obtain ⟨pages, rfl, long, each⟩ := respells.slots
    obtain ⟨left, shallow⟩ := Json.depth_array_le_iff.mp deep
    have read := (read_array origin label full).mp done
    exact (read_array other name (space left)).mpr
      ((fields full left).slots long each shallow read _ 0)
  | _ => cases room <;> cases done

end Schema

/-! ### Kinds told by a tag -/

namespace Tagged

variable {kinds : List (String × Reader α)} {room : Nat} {members aside more : List (String × Json)}
  {body : Reader α}

/-- Once the kind is known, all members are set aside, and none of them tells it again. -/
theorem untold_of_gather {found : Option (Reader α)}
    (done : gather room kinds (some body) aside (Json.draftMembers members) = .ok (found, more)) :
    found = some body ∧ tag ∉ members.map (·.1) ∧ more = members.reverse ++ aside := by
  induction members generalizing aside with
  | nil =>
    cases done
    exact ⟨rfl, List.not_mem_nil, rfl⟩
  | cons member rest ih =>
    obtain ⟨name, tree⟩ := member
    simp only [Json.draftMembers, gather] at done
    split at done
    · cases done
    · rename_i different
      obtain ⟨value, settled, done⟩ := bind_eq_ok done
      rw [Draft.eq_of_settle tree (Reader.ofBreach_eq_ok settled)] at done
      obtain ⟨found, untold, others⟩ := ih done
      exact ⟨found, List.not_mem_cons_of_ne_of_not_mem (Ne.symm different) untold, by simp [others]⟩

/-- What was gathered stood around the one member that tells the kind. -/
theorem told_of_gather
    (done : gather room kinds none aside (Json.draftMembers members) = .ok (some body, more)) :
    ∃ front rest label, members = front ++ (tag, .string label) :: rest ∧
      tag ∉ (front ++ rest).map (·.1) ∧ lookup? label kinds = some body ∧
      more = (front ++ rest).reverse ++ aside := by
  induction members generalizing aside with
  | nil => cases done
  | cons member rest ih =>
    obtain ⟨name, tree⟩ := member
    simp only [Json.draftMembers, gather] at done
    split at done
    · rename_i told
      subst told
      obtain ⟨kind, named, done⟩ := bind_eq_ok done
      obtain ⟨same, untold, others⟩ := untold_of_gather done
      cases same
      obtain ⟨label, rfl, known⟩ := Reader.variantName_eq_ok_iff.mp named
      exact ⟨[], rest, label, rfl, untold, known, others⟩
    · rename_i different
      obtain ⟨value, settled, done⟩ := bind_eq_ok done
      rw [Draft.eq_of_settle tree (Reader.ofBreach_eq_ok settled)] at done
      obtain ⟨front, behind, label, rfl, untold, known, others⟩ := ih done
      refine ⟨(name, tree) :: front, behind, label, rfl, ?_, known, by simp [others]⟩
      exact List.not_mem_cons_of_ne_of_not_mem (Ne.symm different) untold

/-- A tagged value was read by the reader of its kind, from the members around its tag. -/
theorem told_of_read {name : String} {value : α}
    (done : read name kinds room (Json.object members).toDraft = .ok value) :
    ∃ front rest label body, members = front ++ (tag, .string label) :: rest ∧
      tag ∉ (front ++ rest).map (·.1) ∧ lookup? label kinds = some body ∧
      body (Json.object (front ++ rest)).toDraft = .ok value := by
  cases room with
  | zero => cases done
  | succ room =>
    obtain ⟨⟨kind, aside⟩, gathered, done⟩ := bind_eq_ok done
    cases kind with
    | none => cases done
    | some body =>
      obtain ⟨front, rest, label, rfl, untold, known, rfl⟩ := told_of_gather gathered
      refine ⟨front, rest, label, body, rfl, untold, known, ?_⟩
      simpa using done

/-- A tagged value follows when the parts of each kind do. -/
theorem follows_read
    (own : ∀ label body, lookup? label kinds = some body → ∃ record,
      lookup? label Record.ofEffects = some record ∧ ∀ levels, body.Follows body (.record record) levels)
    (name : String) (levels room : Nat) :
    (read name kinds levels).Follows (read name kinds room) .effect levels := by
  intro tree page value respells deep done
  cases tree with
  | object members =>
    obtain ⟨front, rest, label, body, split, untold, known, done⟩ := told_of_read done
    obtain ⟨record, listed, follows⟩ := own label body known
    obtain ⟨before, behind, rfl, apart, inner⟩ := respells.effect_cases listed untold split
    obtain ⟨left, all⟩ := Json.depth_object_le_iff.mp deep
    obtain ⟨levels, rfl⟩ := Nat.exists_eq_succ_of_ne_zero left
    have shallow : ∀ member ∈ before ++ behind, member.2.depth ≤ levels := fun member inside =>
      all member (List.perm_middle.symm.subset (List.mem_cons_of_mem _ inside))
    have again : body (Json.object (before ++ behind)).toDraft = .ok value :=
      follows _ _ _ value inner (Nat.le_refl _) done
    simpa [Json.toDraft, read, gather_around known apart shallow, bind, Except.bind] using again
  | array trees =>
    cases respells
    cases room with
    | zero => cases done
    | succ room =>
      cases trees with
      | nil => cases done
      | cons first rest =>
        rw [Json.depth] at deep
        obtain ⟨levels, rfl⟩ := Nat.exists_eq_succ_of_ne_zero (Nat.ne_zero_of_lt deep)
        have shallow := (Nat.max_le.mp (Nat.le_of_succ_le_succ deep)).2
        obtain ⟨body, named, done⟩ := bind_eq_ok done
        obtain ⟨aside, settled, done⟩ := bind_eq_ok done
        rw [Draft.eq_of_settleItems rest (Reader.ofBreach_eq_ok settled)] at done
        refine bind_eq_ok_iff.mpr ⟨body, named, bind_eq_ok_iff.mpr ⟨rest, ?_, done⟩⟩
        rw [Draft.settleItems_draftItems rest levels shallow]
        rfl
  | _ => cases room <;> cases done

/-- The parts of a kind are read like a record. -/
theorem follows_parts {schema : Schema τ} {record : Record} {levels : Nat}
    (fields : Schema.Follows (levels - 1) schema schema record.entries) (name : String) (make : τ → α) :
    (parts name schema make).Follows (parts name schema make) (.record record) levels :=
  (Schema.Follows.read (fun _ _ => fields) (fun _ => Nat.one_ne_zero) .aside .aside name name).map make

/-- A kind without parts stays without parts. -/
theorem follows_bare (value : α) (levels : Nat) :
    (bare value).Follows (bare value) (.record .nothing) levels := by
  intro tree page found respells _ done
  cases tree with
  | object members =>
    rcases respells.object_cases with ⟨_, _, rfl, -⟩ | ⟨_, rfl, all⟩
    · exact done
    · cases all
      exact done
  | array trees =>
    obtain ⟨pages, rfl, long, -⟩ := respells.slots
    cases trees with
    | nil =>
      cases List.length_eq_zero_iff.mp long.symm
      exact done
    | cons tree trees => cases done
  | _ =>
    rw [respells.eq_of_plain rfl]
    exact done

end Tagged

end Arcade
