import Arcade.Proofs.Pump
import Mathlib.Data.List.Induction

/-! Who gets past the guard. A request that does not carry the token, and one of a client that has used up
its requests, is answered at once; so each command that waits was sent by a request that carried the token
and came within the limit. A request without the token does not even count: a run without all such requests
ends in the same way, and gives the same answers to all others. -/

namespace Arcade

namespace Api

/-- A header can be read, and its value without blanks at its ends is the given one. -/
def Header.Holds (headers : List Header) (name : String) (value : List Char) : Prop :=
  ∃ text, (find? headers name).bind read? = some text ∧ Text.trim text.toList = value

namespace Guard

/-- Some headers hold a token, announced as bearer, or alone, or as a key. -/
def Presents (token : String) (headers : List Header) : Prop :=
  Header.Holds headers "authorization" token.toList ∨
    Header.Holds headers "authorization" ("Bearer ".toList ++ token.toList) ∨
    Header.Holds headers "authorization" ("bearer ".toList ++ token.toList) ∨
    Header.Holds headers "x-api-key" token.toList

/-- How many requests a client made in its open window. -/
def spent (guard : Guard) (client : String) (now : Nat) : Nat :=
  match guard.windows.get? client with
  | some window => if now - window.opened < windowLength then window.count else 0
  | none => 0

/-- With one more request a client would be over the limit, as far as a 32-bit counter counts. -/
def Exhausted (guard : Guard) (client : String) (now : Nat) : Prop :=
  guard.limit < min (guard.spent client now + 1) Text.maxWord32

end Guard

end Api

/-! ### A request and the guard -/

namespace Api

open Guard

variable {guard : Guard} {headers : List Header} {token : String}

/-- A header whose value is not empty is there. -/
theorem Header.holds_of_credential {name : String} {value : List Char} (filled : value ≠ [])
    (same : credential headers name = value) : Holds headers name value := by
  unfold credential at same
  cases found : (find? headers name).bind read? with
  | none =>
    rw [found] at same
    exact absurd same.symm filled
  | some text =>
    rw [found] at same
    exact ⟨text, found, same⟩

theorem eq_append_of_afterStart {mark text rest : List Char}
    (starts : Text.afterStart? mark text = some rest) : text = mark ++ rest := by
  unfold Text.afterStart? at starts
  split at starts
  · rename_i same
    cases starts
    exact (List.prefix_iff_eq_append.mp (List.isPrefixOf_iff_prefix.mp same)).symm
  · cases starts

/-- What is taken for the token is the whole value, or what follows the word that announces it. -/
theorem bearer_cases (value : List Char) :
    value = "Bearer ".toList ++ bearer value ∨ value = "bearer ".toList ++ bearer value ∨
      value = bearer value := by
  unfold bearer
  cases upper : Text.afterStart? "Bearer ".toList value with
  | some rest => exact .inl (eq_append_of_afterStart upper)
  | none =>
    cases lower : Text.afterStart? "bearer ".toList value with
    | some rest => exact .inr (.inl (eq_append_of_afterStart lower))
    | none => exact .inr (.inr rfl)

/-- Who is authorized carries the token. -/
theorem presents_of_authorized (filled : token ≠ "") (guarded : guard.token = some token)
    (authorized : guard.authorized headers = true) : Presents token headers := by
  have letters : token.toList ≠ [] := fun nothing => filled (String.toList_eq_nil_iff.mp nothing)
  rw [Guard.authorized, guarded, Bool.or_eq_true, decide_eq_true_eq, decide_eq_true_eq] at authorized
  rcases authorized with announced | key
  · have parts := bearer_cases (Header.credential headers "authorization")
    rw [announced] at parts
    rcases parts with upper | lower | alone
    · exact .inr (.inl (Header.holds_of_credential (by simp) upper))
    · exact .inr (.inr (.inl (Header.holds_of_credential (by simp) lower)))
    · exact .inl (Header.holds_of_credential letters alone)
  · exact .inr (.inr (.inr (Header.holds_of_credential letters key)))

/-- A request is within the limit as long as its client has not used up its requests. -/
theorem allow_eq_true_iff (client : String) (now : Nat) :
    (guard.allow client now).2 = true ↔ ¬ guard.Exhausted client now := by
  have counted : (Window.counted now (guard.windows.get? client)).count =
      min (guard.spent client now + 1) Text.maxWord32 := by
    unfold spent
    cases guard.windows.get? client with
    | none => rfl
    | some window =>
      simp only [Window.counted]
      by_cases ended : windowLength ≤ now - window.opened
      · rw [if_pos ended, if_neg (Nat.not_lt.mpr ended)]
        rfl
      · rw [if_neg ended, if_pos (Nat.lt_of_not_le ended)]
  rw [allow_eq, counted, decide_eq_true_eq, Exhausted, Nat.not_lt]

variable {S T : Type} [Scalar S] {request : Request} {now : Nat} {command : Command S}

/-- A game is started from a body that is one. -/
theorem readRoute_start {spec : Spec S} {options : StartOptions}
    (asked : (readRoute request : Outcome S T) = .ask (.start spec options)) :
    request.route? = some .start ∧ request.method = "POST" ∧ Spec.ofText request.body = .ok spec := by
  unfold readRoute at asked
  split at asked
  · cases asked
  · rename_i route found
    split at asked
    · rename_i allowed
      cases route with
      | start =>
        refine ⟨found, of_decide_eq_true allowed, ?_⟩
        simp only [readStart] at asked
        split at asked
        · split at asked
          · cases asked
          · split at asked
            · rename_i parsed
              cases asked
              exact parsed
            · cases asked
        · cases asked
      | events =>
        simp only [readEvents] at asked
        split at asked
        · cases asked
        · cases asked
      | _ => cases asked
    · cases asked

end Api

/-! ### A desk -/

variable {S T : Type}

/-- A cabinet behind a guard, and the requests whose commands wait in it, in the order of the commands. -/
structure Desk (S T : Type) where
  cabinet : Cabinet S T
  guard : Api.Guard
  asking : List Api.Request

/-- What can happen at a desk: a request comes in, or something happens to the game that sends no
command. -/
inductive Incident (S T : Type) where
  | request (request : Api.Request) (now : Nat)
  | operation (operation : Operation S T) (silent : operation.sent? = none)

/-- The answers that are given, each with its request. -/
abbrev Answers (S T : Type) : Type := List (Api.Request × Api.Response S T)

/-- Each command that is served has its reply. -/
theorem Cabinet.length_replies_batches [Scalar S] [Scalar T] (cabinet : Cabinet S T)
    (operation : Operation S T) :
    ((cabinet.batches operation).flatMap (·.replies)).length =
      ((cabinet.batches operation).flatMap (·.commands)).length := by
  unfold batches
  split
  · rw [List.flatMap_singleton, List.flatMap_singleton]
    exact Api.length_serveAll _ _
  · rfl

namespace Desk

variable [Scalar S] [Scalar T] [Circular S] [Sampling S] [Rounding T S]

/-- Let one thing happen, and tell the answers that it brings. -/
def handle (desk : Desk S T) : Incident S T → Except Crash (Desk S T × Answers S T)
  | .request request now =>
    match desk.cabinet.receive desk.guard request now with
    | (cabinet, guard, some response) =>
      .ok ({ desk with cabinet, guard }, [(request, response.sentTo request)])
    | (cabinet, guard, none) => .ok (⟨cabinet, guard, desk.asking ++ [request]⟩, [])
  | .operation operation _ => do
    let cabinet ← desk.cabinet.apply operation
    let replies := (desk.cabinet.batches operation).flatMap (·.replies)
    .ok ({ desk with cabinet, asking := desk.asking.drop replies.length },
      (desk.asking.zip replies).map fun (request, reply) =>
        (request, (Api.Response.ofReply reply).sentTo request))

/-- Let things happen one after the other, and tell all answers. -/
def run (desk : Desk S T) : List (Incident S T) → Except Crash (Desk S T × Answers S T)
  | [] => .ok (desk, [])
  | incident :: rest => do
    let (next, answers) ← desk.handle incident
    let (last, more) ← next.run rest
    .ok (last, answers ++ more)

/-- Whether something is other than a request that is not authorized. -/
def heeds (desk : Desk S T) : Incident S T → Bool
  | .request request _ => desk.guard.authorized request.headers
  | .operation .. => true

/-- A command was sent for a request that came in, was authorized, and was within the limit. -/
structure Sent (desk : Desk S T) (incidents : List (Incident S T)) (request : Api.Request)
    (command : Api.Command S) : Prop where
  asked : (Api.readRoute request : Api.Outcome S T) = .ask command
  admitted : ∃ past now later middle answers, incidents = past ++ .request request now :: later ∧
    desk.run past = .ok (middle, answers) ∧ middle.guard.authorized request.headers = true ∧
    ¬ middle.guard.Exhausted (Api.Guard.client request.headers) now

/-- What a desk can do about something. -/
inductive Handled (desk : Desk S T) : Incident S T → Desk S T → Answers S T → Prop where
  | unauthorized {request : Api.Request} {now : Nat}
      (stranger : desk.guard.authorized request.headers = false) :
      Handled desk (.request request now) desk
        [(request, (Api.Response.failure 401 .unauthorized).sentTo request)]
  | exhausted {request : Api.Request} {now : Nat}
      (authorized : desk.guard.authorized request.headers = true)
      (spent : desk.guard.Exhausted (Api.Guard.client request.headers) now) :
      Handled desk (.request request now)
        { desk with guard := (desk.guard.allow (Api.Guard.client request.headers) now).1 }
        [(request, (Api.Response.failure 429 .tooMany).sentTo request)]
  | answered {request : Api.Request} {now : Nat} {response : Api.Response S T}
      (authorized : desk.guard.authorized request.headers = true)
      (within : ¬ desk.guard.Exhausted (Api.Guard.client request.headers) now)
      (read : Api.readRoute request = .done response) :
      Handled desk (.request request now)
        { desk with guard := (desk.guard.allow (Api.Guard.client request.headers) now).1 }
        [(request, response.sentTo request)]
  | asked {request : Api.Request} {now : Nat} {command : Api.Command S}
      (authorized : desk.guard.authorized request.headers = true)
      (within : ¬ desk.guard.Exhausted (Api.Guard.client request.headers) now)
      (read : (Api.readRoute request : Api.Outcome S T) = .ask command) :
      Handled desk (.request request now)
        ⟨desk.cabinet.send command, (desk.guard.allow (Api.Guard.client request.headers) now).1,
          desk.asking ++ [request]⟩ []
  | operation {operation : Operation S T} {silent : operation.sent? = none}
      {cabinet : Cabinet S T} (done : desk.cabinet.apply operation = .ok cabinet)
      (replies : List (Api.Reply S T))
      (served : replies = (desk.cabinet.batches operation).flatMap (·.replies)) :
      Handled desk (.operation operation silent)
        { desk with cabinet, asking := desk.asking.drop replies.length }
        ((desk.asking.zip replies).map fun (request, reply) =>
          (request, (Api.Response.ofReply reply).sentTo request))

variable {desk after : Desk S T} {incident : Incident S T} {incidents : List (Incident S T)}
  {answers : Answers S T} {request : Api.Request} {now : Nat}

theorem handle_unauthorized (stranger : desk.guard.authorized request.headers = false) :
    desk.handle (.request request now) =
      .ok (desk, [(request, (Api.Response.failure 401 .unauthorized).sentTo request)]) := by
  have refused : (Api.receive desk.guard request now : Api.Guard × Api.Outcome S T) =
      (desk.guard, .done (.failure 401 .unauthorized)) := by
    rw [Api.receive, stranger]
    rfl
  simp only [handle, Cabinet.receive, refused]

theorem handle_exhausted (authorized : desk.guard.authorized request.headers = true)
    (spent : desk.guard.Exhausted (Api.Guard.client request.headers) now) :
    desk.handle (.request request now) =
      .ok ({ desk with guard := (desk.guard.allow (Api.Guard.client request.headers) now).1 },
        [(request, (Api.Response.failure 429 .tooMany).sentTo request)]) := by
  have denied : (desk.guard.allow (Api.Guard.client request.headers) now).2 = false :=
    Bool.eq_false_iff.mpr fun admitted => (Api.allow_eq_true_iff _ _).mp admitted spent
  have refused : (Api.receive desk.guard request now : Api.Guard × Api.Outcome S T) =
      ((desk.guard.allow (Api.Guard.client request.headers) now).1,
        .done (.failure 429 .tooMany)) := by
    simp only [Api.receive, authorized, denied, ↓reduceIte, Bool.false_eq_true]
  simp only [handle, Cabinet.receive, refused]

theorem handled_of_handle (done : desk.handle incident = .ok (after, answers)) :
    desk.Handled incident after answers := by
  cases incident with
  | operation operation silent =>
    obtain ⟨cabinet, applied, done⟩ := bind_eq_ok done
    cases done
    exact .operation applied _ rfl
  | request request now =>
    cases authorized : desk.guard.authorized request.headers with
    | false =>
      rw [handle_unauthorized authorized] at done
      cases done
      exact .unauthorized authorized
    | true =>
      by_cases spent : desk.guard.Exhausted (Api.Guard.client request.headers) now
      · rw [handle_exhausted authorized spent] at done
        cases done
        exact .exhausted authorized spent
      · have within := (Api.allow_eq_true_iff _ _).mpr spent
        simp only [handle, Cabinet.receive, Api.receive, authorized, within, ↓reduceIte] at done
        cases read : (Api.readRoute request : Api.Outcome S T) with
        | done response =>
          rw [read] at done
          cases done
          exact .answered authorized spent read
        | ask command =>
          rw [read] at done
          cases done
          exact .asked authorized spent read

/-! ### What waits -/

/-- Each command that waits belongs to the request in its place. -/
theorem forall₂_handle {holds : Api.Request → Api.Command S → Prop}
    (matched : List.Forall₂ holds desk.asking desk.cabinet.commands)
    (done : desk.Handled incident after answers)
    (asks : ∀ request now command, incident = .request request now →
      desk.guard.authorized request.headers = true →
      ¬ desk.guard.Exhausted (Api.Guard.client request.headers) now →
      (Api.readRoute request : Api.Outcome S T) = .ask command → holds request command) :
    List.Forall₂ holds after.asking after.cabinet.commands := by
  cases done with
  | unauthorized stranger => exact matched
  | exhausted authorized spent => exact matched
  | answered authorized within read => exact matched
  | asked authorized within read =>
    exact List.rel_append matched (.cons (asks _ _ _ rfl authorized within read) .nil)
  | @operation operation silent cabinet done replies served =>
    have line := Cabinet.line_apply done
    rw [silent, Option.toList_none, List.append_nil] at line
    have left : cabinet.commands = desk.cabinet.commands.drop replies.length := by
      rw [line, served, Cabinet.length_replies_batches, List.drop_left]
    rw [left]
    exact List.forall₂_drop _ matched

theorem exists_of_run_concat {last : Incident S T}
    (ran : desk.run (incidents ++ [last]) = .ok (after, answers)) :
    ∃ middle earlier more, desk.run incidents = .ok (middle, earlier) ∧
      middle.handle last = .ok (after, more) := by
  induction incidents generalizing desk answers with
  | nil =>
    obtain ⟨⟨next, more⟩, done, ran⟩ := bind_eq_ok ran
    cases ran
    exact ⟨desk, [], more, rfl, done⟩
  | cons first rest ih =>
    obtain ⟨⟨next, told⟩, done, ran⟩ := bind_eq_ok ran
    obtain ⟨⟨final, others⟩, went, ran⟩ := bind_eq_ok ran
    cases ran
    obtain ⟨middle, earlier, more, reached, handled⟩ := ih went
    refine ⟨middle, told ++ earlier, more, ?_, handled⟩
    simp only [run, done, reached, bind, Except.bind]

theorem Sent.concat {command : Api.Command S} (sent : desk.Sent incidents request command)
    (last : Incident S T) : desk.Sent (incidents ++ [last]) request command := by
  obtain ⟨asked, past, now, later, middle, answers, rfl, ran, admitted⟩ := sent
  exact ⟨asked, past, now, later ++ [last], middle, answers, by simp, ran, admitted⟩

/-- At a desk where nothing waited, what waits was sent for requests that were admitted. -/
theorem forall₂_sent (idle : desk.asking = []) (empty : desk.cabinet.commands = [])
    (ran : desk.run incidents = .ok (after, answers)) :
    List.Forall₂ (desk.Sent incidents) after.asking after.cabinet.commands := by
  induction incidents using List.reverseRecOn generalizing after answers with
  | nil =>
    cases ran
    rw [idle, empty]
    exact .nil
  | append_singleton past last ih =>
    obtain ⟨middle, earlier, more, first, handled⟩ := exists_of_run_concat ran
    refine forall₂_handle ((ih first).imp fun _ _ sent => sent.concat _)
      (handled_of_handle handled) ?_
    rintro request now command rfl authorized within asked
    exact ⟨asked, past, now, [], middle, earlier, rfl, first, authorized, within⟩

/-! ### Without strangers -/

/-- Whether an answer is for a request that is authorized. -/
def known (desk : Desk S T) (answer : Api.Request × Api.Response S T) : Bool :=
  desk.guard.authorized answer.1.headers

/-- Only requests that are authorized wait for an answer. -/
def Familiar (desk : Desk S T) : Prop :=
  ∀ request ∈ desk.asking, desk.guard.authorized request.headers = true

/-- Who is authorized is a matter of the token, which stays. -/
theorem authorized_handle (done : desk.Handled incident after answers) :
    after.guard.authorized = desk.guard.authorized := by
  have same : after.guard.token = desk.guard.token := by
    cases done <;> rfl
  funext headers
  rw [Api.Guard.authorized, Api.Guard.authorized, same]

theorem authorized_run (ran : desk.run incidents = .ok (after, answers)) :
    after.guard.authorized = desk.guard.authorized := by
  induction incidents generalizing desk answers with
  | nil =>
    cases ran
    rfl
  | cons first rest ih =>
    obtain ⟨⟨next, told⟩, handled, ran⟩ := bind_eq_ok ran
    obtain ⟨⟨final, others⟩, went, ran⟩ := bind_eq_ok ran
    cases ran
    exact (ih went).trans (authorized_handle (handled_of_handle handled))

theorem Familiar.handle (familiar : desk.Familiar) (done : desk.Handled incident after answers) :
    after.Familiar := by
  intro request waits
  rw [authorized_handle done]
  cases done with
  | asked authorized within read =>
    rcases List.mem_append.mp waits with before | last
    · exact familiar request before
    · rw [List.mem_singleton.mp last]
      exact authorized
  | operation done replies served => exact familiar request (List.mem_of_mem_drop waits)
  | _ => exact familiar request waits

/-- What is heeded brings answers to requests that are authorized. -/
theorem Familiar.known_of_mem (familiar : desk.Familiar) (heeded : desk.heeds incident = true)
    (done : desk.Handled incident after answers) :
    ∀ answer ∈ answers, desk.known answer = true := by
  intro answer given
  cases done with
  | operation done replies served =>
    obtain ⟨⟨request, reply⟩, zipped, rfl⟩ := List.mem_map.mp given
    exact familiar request (List.of_mem_zip zipped).1
  | asked authorized within read => cases given
  | _ =>
    rw [List.mem_singleton.mp given]
    exact heeded

/-- A run without the requests that are not authorized ends at the same desk, with the same answers to all
other requests. -/
theorem Familiar.run_filter (familiar : desk.Familiar) (incidents : List (Incident S T)) :
    desk.run (incidents.filter desk.heeds) =
      (desk.run incidents).map fun (after, answers) => (after, answers.filter desk.known) := by
  induction incidents generalizing desk with
  | nil => rfl
  | cons first rest ih =>
    cases heeded : desk.heeds first with
    | false =>
      cases first with
      | operation operation silent => cases heeded
      | request request now =>
        have stranger : desk.guard.authorized request.headers = false := heeded
        rw [List.filter_cons_of_neg (by simp [heeded]), ih familiar, run,
          handle_unauthorized stranger]
        simp only [bind, Except.bind]
        cases desk.run rest with
        | error crash => rfl
        | ok done =>
          simp only [Except.map, List.singleton_append]
          rw [List.filter_cons_of_neg]
          simp [known, stranger]
    | true =>
      rw [List.filter_cons_of_pos heeded, run, run]
      cases handled : desk.handle first with
      | error crash => rfl
      | ok done =>
        obtain ⟨next, answers⟩ := done
        have step := handled_of_handle handled
        have all : answers.filter desk.known = answers :=
          List.filter_eq_self.mpr (familiar.known_of_mem heeded step)
        have heeds : desk.heeds = next.heeds := by
          funext other
          cases other <;> simp only [Desk.heeds, authorized_handle step]
        have knows : desk.known = next.known := by
          funext other
          simp only [known, authorized_handle step]
        simp only [bind, Except.bind]
        rw [heeds, ih (familiar.handle step), knows]
        cases next.run rest with
        | error crash => rfl
        | ok more =>
          simp only [Except.map]
          rw [List.filter_append, ← knows, all]

/-- Nothing gets past the guard of a desk at which nothing waited. A request without the token is
answered at once and counts for nothing; one of a client that used up its requests is answered at once;
each command that waits was sent by a request of its own that carried the token, came within the limit and
asks for it, and a game that is to be started stands in the body of its request. And all goes on as if
there had been no request that is not authorized. -/
theorem guards {token : String} (filled : token ≠ "") (guarded : desk.guard.token = some token)
    (idle : desk.asking = []) (empty : desk.cabinet.commands = []) (incidents : List (Incident S T)) :
    (∀ after answers, desk.run incidents = .ok (after, answers) →
      (∀ request now, ¬ Api.Guard.Presents token request.headers →
        after.handle (.request request now) =
          .ok (after, [(request, (Api.Response.failure 401 .unauthorized).sentTo request)])) ∧
      (∀ request now, after.guard.authorized request.headers = true →
        after.guard.Exhausted (Api.Guard.client request.headers) now →
        ∃ guard, after.handle (.request request now) =
          .ok ({ after with guard },
            [(request, (Api.Response.failure 429 .tooMany).sentTo request)])) ∧
      List.Forall₂ (fun request command => ∃ past now later middle earlier,
          incidents = past ++ .request request now :: later ∧
          desk.run past = .ok (middle, earlier) ∧
          Api.Guard.Presents token request.headers ∧
          ¬ middle.guard.Exhausted (Api.Guard.client request.headers) now ∧
          (Api.readRoute request : Api.Outcome S T) = .ask command ∧
          ∀ spec options, command = .start spec options → request.route? = some .start ∧
            request.method = "POST" ∧ Spec.ofText request.body = .ok spec)
        after.asking after.cabinet.commands) ∧
    desk.run (incidents.filter desk.heeds) =
      (desk.run incidents).map fun (after, answers) => (after, answers.filter desk.known) := by
  have familiar : desk.Familiar := by
    intro request waits
    rw [idle] at waits
    cases waits
  refine ⟨fun after answers ran => ⟨fun request now stranger => ?_, fun request now authorized spent => ?_,
    ?_⟩, familiar.run_filter incidents⟩
  · apply handle_unauthorized
    rw [authorized_run ran]
    exact Bool.eq_false_iff.mpr fun authorized =>
      stranger (Api.presents_of_authorized filled guarded authorized)
  · exact ⟨_, handle_exhausted authorized spent⟩
  · refine (forall₂_sent idle empty ran).imp ?_
    rintro request command ⟨asked, past, now, later, middle, earlier, split, ran, authorized, within⟩
    refine ⟨past, now, later, middle, earlier, split, ran, ?_, within, asked, ?_⟩
    · rw [authorized_run ran] at authorized
      exact Api.presents_of_authorized filled guarded authorized
    · rintro spec options rfl
      exact Api.readRoute_start asked

end Desk

/-- A question how the game stands, by somebody who holds a key or none. -/
def Sample.question (key : Option String) : Api.Request where
  method := "GET"
  path := "/game/state".toList
  query := []
  headers := (key.map fun key => ⟨"x-api-key", key⟩).toList
  body := ""

/-- A stranger asks, and then twice somebody who may ask once in a second. -/
def Sample.questions : List (Incident Float32 Float) :=
  [.request (question none) 0, .request (question (some "secret")) 1,
    .request (question (some "secret")) 2]

/-- The stranger is refused and does not count, so that the first question with the key waits to be
answered, and only the second is one too many. -/
theorem Desk.guards_questions :
    ∃ (desk after : Desk Float32 Float) (answers : Answers Float32 Float),
      desk.guard.token = some "secret" ∧ desk.run Sample.questions = .ok (after, answers) ∧
        answers.map (·.2.status) = [401, 429] ∧ after.cabinet.commands.length = 1 ∧
        desk.run (Sample.questions.filter desk.heeds) = .ok (after, answers.filter desk.known) := by
  let desk : Desk Float32 Float := ⟨.new Sample.entropy none none, .new (some "secret") 1, []⟩
  have fine : (desk.run Sample.questions).toOption.any (fun (after, answers) =>
      decide (answers.map (·.2.status) = [401, 429]) &&
        decide (after.cabinet.commands.length = 1)) = true := by
    decide +kernel
  obtain ⟨⟨after, answers⟩, ran, fine⟩ := exists_ok_of_any fine
  simp only [Bool.and_eq_true, decide_eq_true_eq] at fine
  have guarded : desk.guard.token = some "secret" := rfl
  obtain ⟨-, same⟩ := guards (by decide) guarded rfl rfl Sample.questions
  rw [ran] at same
  exact ⟨desk, after, answers, guarded, ran, fine.1, fine.2, same⟩

end Arcade
