/-
What a bearer still has to do, in the order in which it will be done.

Commands, calls and answers come before requests, and requests in the order in which they came,
deferred or not.  So all that a bearer holds makes one list, its agenda, and the rest of it is its
standing.  Working off an agenda is deterministic:

* `Standing.step` — what becomes of the first item, which may put others in its place;
* `Finishes` — an agenda is worked off, item by item;
* `Finishes.unique` — that can end in one way only.

Which mail lies in the inbox, which has been taken and which had to wait does not show in an
agenda: `agenda_after` and `agenda_dispatch` say that a bearer does to the head of its agenda what
a bearer would do that has nothing else to do.
-/
import PacketBearer.Proofs.Generation

namespace PacketBearer

/-- A piece of mail has had to wait, which is no one's business but the bearer's. -/
def Event.isDeferral : Event → Bool
  | .deferred _ => true
  | _ => false

/-- What shows of events, whatever had to wait. -/
def visible (events : List Event) : List Event := events.filter (!·.isDeferral)

@[simp] theorem visible_nil : visible [] = [] := rfl

@[simp] theorem visible_append (first second : List Event) :
    visible (first ++ second) = visible first ++ visible second :=
  List.filter_append _ _

/-- The mail is an answer of the radio. -/
def Mail.isAnswer (mail : Mail) : Bool := mail.task?.isSome

/-- Something that is still to be done. -/
inductive Work where
  /-- The radio is to be given a command. -/
  | order (command : Command)
  /-- The radio is to answer a call. -/
  | call (number : Nat) (command : Command)
  | mail (mail : Mail)

/-- A bearer apart from all that it still has to do. -/
structure Standing (ι : Type) where
  phase : Phase
  connection : Connection
  interceptor : ι
  /-- How many calls the radio has had. -/
  calls : Nat

/-- The bearer of this standing that has nothing to do. -/
def Standing.bearer {ι : Type} (t : Standing ι) : Bearer ι where
  controller := { phase := t.phase, connection := t.connection, interceptor := t.interceptor }
  calls := t.calls

namespace Bearer

variable {ι : Type} (b : Bearer ι)

/-- What is left of a bearer if all is taken away that it still has to do. -/
def standing : Standing ι where
  phase := b.controller.phase
  connection := b.controller.connection
  interceptor := b.controller.interceptor
  calls := b.calls

/-- All the mail that a bearer holds, in the order in which it will be handled. -/
def mails : List Mail := b.controller.deferred ++ b.controller.mailbox ++ b.inbox

/-- All that a bearer still has to do: first the commands, the calls and the answers, then the
requests in the order in which they came. -/
def agenda : List Work :=
  b.controller.outbox.map .order ++ b.openCalls.map (fun call => .call call.1 call.2) ++
    ((b.controller.mailbox ++ b.inbox).filter Mail.isAnswer).map .mail ++
    (b.mails.filter Mail.isRequest).map .mail

variable {b} in
theorem mem_mails_of_first {mail : Mail} {rest : List Mail}
    (first : b.controller.mailbox = mail :: rest) : mail ∈ b.mails := by
  simp [mails, first]

/-- The bearer holds requests and nothing else. -/
structure OnlyRequests : Prop where
  outbox : b.controller.outbox = []
  openCalls : b.openCalls = []
  mails : ∀ mail ∈ b.mails, mail.isRequest = true

end Bearer

/-! ### Working off an agenda -/

section

variable {ι : Type} [Interceptor ι] {s : Setting} {answers : Nat → RadioAnswers}

/-- What becomes of the first item of an agenda: a bearer that has nothing but what comes of it,
and the events.  None if the call stays without an answer, or the bearer halts. -/
def Standing.step (s : Setting) (answers : Nat → RadioAnswers) (t : Standing ι) :
    Work → Option (Bearer ι × List Event)
  | .order command => some (t.bearer.dispatch s command)
  | .call number command =>
    (command.completion? (answers number)).map fun mail => (t.bearer.send [mail], [])
  | .mail mail =>
    let (m, events) := t.bearer.controller.handle s mail
    if m.isHalted then none else some (t.bearer.withController m, events)

/-- A piece of mail is worked off unless the reaction to it makes the bearer halt. -/
theorem Standing.step_mail {t : Standing ι} {mail : Mail} {r : Reaction ι}
    (hr : react s t.phase t.connection t.interceptor mail = r) :
    t.step s answers (.mail mail) =
      if r.halt = none then
        some (t.bearer.withController (t.bearer.controller.after s mail r).1,
          (t.bearer.controller.after s mail r).2)
      else none := by
  have hhandle : t.bearer.controller.handle s mail = t.bearer.controller.after s mail r := by
    rw [← hr]
    rfl
  rw [step, hhandle]
  dsimp only
  by_cases hhalt : r.halt = none
  · rw [if_pos hhalt, Controller.live_after_iff.mpr ⟨hhalt, rfl⟩]
    rfl
  · have hhalted : (t.bearer.controller.after s mail r).1.isHalted = true :=
      eq_true_of_ne_false fun h => hhalt (Controller.live_after_iff.mp h).1
    rw [if_neg hhalt, if_pos hhalted]

/-- The agenda is worked off: from this standing it leads to that one, and this is what shows. -/
inductive Finishes (s : Setting) (answers : Nat → RadioAnswers) :
    Standing ι → List Work → Standing ι → List Event → Prop
  | done (t : Standing ι) : Finishes s answers t [] t []
  | next {t last : Standing ι} {work : Work} {queue : List Work} {b : Bearer ι}
    {now later : List Event} (first : t.step s answers work = some (b, now))
    (rest : Finishes s answers b.standing (b.agenda ++ queue) last later) :
    Finishes s answers t (work :: queue) last (visible now ++ later)

/-- To work off an agenda can end in one way only. -/
theorem Finishes.unique {t last other : Standing ι} {agenda : List Work}
    {events events' : List Event} (h : Finishes s answers t agenda last events)
    (h' : Finishes s answers t agenda other events') : last = other ∧ events = events' := by
  induction h generalizing other events' with
  | done t =>
    cases h'
    exact ⟨rfl, rfl⟩
  | next first rest ih =>
    cases h' with
    | next first' rest' =>
      rw [first] at first'
      cases first'
      obtain ⟨rfl, rfl⟩ := ih rest'
      exact ⟨rfl, rfl⟩

/-- What comes of an item of an agenda that is worked off. -/
theorem Finishes.rest {t last : Standing ι} {work : Work} {queue : List Work}
    {events : List Event} {b : Bearer ι} {now : List Event}
    (h : Finishes s answers t (work :: queue) last events)
    (first : t.step s answers work = some (b, now)) :
    ∃ later, events = visible now ++ later ∧
      Finishes s answers b.standing (b.agenda ++ queue) last later := by
  cases h with
  | next first' rest =>
    rw [first] at first'
    cases first'
    exact ⟨_, rfl, rest⟩

/-- No item of an agenda that is worked off leads nowhere. -/
theorem Finishes.step_ne_none {t last : Standing ι} {work : Work} {queue : List Work}
    {events : List Event} (h : Finishes s answers t (work :: queue) last events) :
    t.step s answers work ≠ none := by
  cases h with
  | next first _ =>
    rw [first]
    exact Option.some_ne_none _

end

/-! ### Agendas -/

section

variable {ι : Type} {s : Setting} {b : Bearer ι}

theorem Mail.isAnswer_of_isRequest {mail : Mail} (h : mail.isRequest = true) :
    mail.isAnswer = false := by
  rw [isAnswer, Mail.task?_of_isRequest h]
  rfl

theorem Mail.isRequest_of_isAnswer {mail : Mail} (h : mail.isAnswer = true) :
    mail.isRequest = false := by
  cases hrequest : mail.isRequest with
  | false => rfl
  | true =>
    rw [isAnswer_of_isRequest hrequest] at h
    cases h

theorem filter_isAnswer_of_requests {mails : List Mail}
    (h : ∀ mail ∈ mails, mail.isRequest = true) : mails.filter Mail.isAnswer = [] := by
  rw [List.filter_eq_nil_iff]
  intro mail hmail
  rw [Mail.isAnswer_of_isRequest (h mail hmail)]
  exact Bool.false_ne_true

theorem filter_isRequest_of_answers {mails : List Mail}
    (h : ∀ mail ∈ mails, mail.isAnswer = true) : mails.filter Mail.isRequest = [] := by
  rw [List.filter_eq_nil_iff]
  intro mail hmail
  rw [Mail.isRequest_of_isAnswer (h mail hmail)]
  exact Bool.false_ne_true

/-- A request comes last. -/
theorem Bearer.agenda_request (b : Bearer ι) {mail : Mail} (request : mail.isRequest = true) :
    (b.send [mail]).agenda = b.agenda ++ [.mail mail] := by
  have hnot := Mail.isAnswer_of_isRequest request
  simp [agenda, mails, send, request, hnot]

namespace Bearer.OnlyRequests

theorem mem_mails (h : b.OnlyRequests) :
    (∀ mail ∈ b.controller.deferred, mail.isRequest = true) ∧
      (∀ mail ∈ b.controller.mailbox, mail.isRequest = true) ∧
      ∀ mail ∈ b.inbox, mail.isRequest = true := by
  refine ⟨fun mail hmail => h.mails mail ?_, fun mail hmail => h.mails mail ?_,
    fun mail hmail => h.mails mail ?_⟩
  · exact List.mem_append_left _ (List.mem_append_left _ hmail)
  · exact List.mem_append_left _ (List.mem_append_right _ hmail)
  · exact List.mem_append_right _ hmail

/-- No answer is among the mail. -/
theorem answers_eq_nil (h : b.OnlyRequests) :
    b.controller.deferred.filter Mail.isAnswer = [] ∧
      b.controller.mailbox.filter Mail.isAnswer = [] ∧ b.inbox.filter Mail.isAnswer = [] :=
  ⟨filter_isAnswer_of_requests h.mem_mails.1, filter_isAnswer_of_requests h.mem_mails.2.1,
    filter_isAnswer_of_requests h.mem_mails.2.2⟩

/-- All of the mail are requests. -/
theorem requests_eq_self (h : b.OnlyRequests) :
    b.controller.deferred.filter Mail.isRequest = b.controller.deferred ∧
      b.controller.mailbox.filter Mail.isRequest = b.controller.mailbox ∧
      b.inbox.filter Mail.isRequest = b.inbox :=
  ⟨List.filter_eq_self.mpr h.mem_mails.1, List.filter_eq_self.mpr h.mem_mails.2.1,
    List.filter_eq_self.mpr h.mem_mails.2.2⟩

/-- The agenda of a bearer that holds these requests too, and other things before them. -/
theorem agenda_of {b' : Bearer ι} (h : b.OnlyRequests) (posts : List Mail)
    (answers : (b'.controller.mailbox ++ b'.inbox).filter Mail.isAnswer = posts)
    (requests : b'.mails.filter Mail.isRequest = b.mails) :
    b'.agenda =
      b'.controller.outbox.map .order ++ b'.openCalls.map (fun call => .call call.1 call.2) ++
        posts.map .mail ++ b.agenda := by
  have hnone : (b.controller.mailbox ++ b.inbox).filter Mail.isAnswer = [] := by
    rw [List.filter_append, h.answers_eq_nil.2.1, h.answers_eq_nil.2.2, List.append_nil]
  -- where only requests are held, they are the agenda
  have hown : b.agenda = b.mails.map Work.mail := by
    rw [agenda, h.outbox, h.openCalls, hnone, List.filter_eq_self.mpr h.mails]
    rfl
  rw [agenda, answers, requests, hown]

/-- A bearer gets an answer as one does that has nothing else to do. -/
theorem agenda_answer (h : b.OnlyRequests) {mail : Mail} (answer : mail.isAnswer = true) :
    (b.send [mail]).agenda = (b.standing.bearer.send [mail]).agenda ++ b.agenda := by
  have hrequest := Mail.isRequest_of_isAnswer answer
  rw [h.agenda_of [mail]]
  · simp [send, h.outbox, h.openCalls, standing, Standing.bearer, agenda, Bearer.mails, answer,
      hrequest]
  · simp [send, answer, h.answers_eq_nil]
  · simp [send, Bearer.mails, hrequest, h.requests_eq_self]

/-- A bearer carries out a command as one does that has nothing else to do. -/
theorem agenda_dispatch (h : b.OnlyRequests) (s : Setting) (command : Command) :
    (b.dispatch s command).1.agenda =
      (b.standing.bearer.dispatch s command).1.agenda ++ b.agenda := by
  rw [dispatch.eq_def, dispatch.eq_def]
  split
  · next id reason purpose _ =>
    have hanswer : (Mail.releaseDone purpose).isAnswer = true := rfl
    have hrequest : (Mail.releaseDone purpose).isRequest = false := rfl
    rw [h.agenda_of [.releaseDone purpose]]
    · simp [Controller.post, h.outbox, h.openCalls, standing, Standing.bearer, agenda, Bearer.mails,
        hanswer, hrequest]
    · simp [Controller.post, hanswer, h.answers_eq_nil]
    · simp [Controller.post, Bearer.mails, hrequest, h.requests_eq_self]
  · rw [h.agenda_of []]
    · simp [call, h.outbox, h.openCalls, standing, Standing.bearer, agenda, Bearer.mails]
    · simp [call, h.answers_eq_nil]
    · simp [call, Bearer.mails, h.requests_eq_self]

/-- A bearer handles a piece of mail as one does that has nothing else to do. -/
theorem agenda_after (h : b.OnlyRequests) (s : Setting) (mail : Mail) {r : Reaction ι}
    (halt : r.halt = none) (waits : r.waits = false)
    (posts : ∀ post ∈ r.posts, post.isAnswer = true) :
    (b.withController (b.controller.after s mail r).1).agenda =
      (b.standing.bearer.withController
        (b.standing.bearer.controller.after s mail r).1).agenda ++ b.agenda := by
  have hanswers : r.posts.filter Mail.isAnswer = r.posts := List.filter_eq_self.mpr posts
  have hrequests := filter_isRequest_of_answers posts
  rw [Controller.after, Controller.after, halt]
  -- a change of phase brings back what was deferred, which was ahead of the mailbox anyway
  cases r.next with
  | none =>
    rw [h.agenda_of r.posts]
    · simp [Controller.absorb, withController, h.outbox, h.openCalls, standing, Standing.bearer,
        agenda, Bearer.mails, waits, hanswers, hrequests]
    · simp [Controller.absorb, withController, hanswers, h.answers_eq_nil]
    · simp [Controller.absorb, withController, Bearer.mails, waits, hrequests,
        h.requests_eq_self]
  | some next =>
    rw [h.agenda_of r.posts]
    · simp [Controller.move, Controller.absorb, withController, h.outbox, h.openCalls, standing,
        Standing.bearer, agenda, Bearer.mails, waits, hanswers, hrequests]
    · simp [Controller.move, Controller.absorb, withController, waits, hanswers,
        h.answers_eq_nil]
    · simp [Controller.move, Controller.absorb, withController, Bearer.mails, waits, hrequests,
        h.requests_eq_self]

end Bearer.OnlyRequests

/-- What a bearer holds makes no difference to the command that it carries out. -/
theorem Bearer.dispatch_standing (s : Setting) (b : Bearer ι) (command : Command) :
    (b.dispatch s command).1.standing = (b.standing.bearer.dispatch s command).1.standing ∧
      (b.dispatch s command).2 = (b.standing.bearer.dispatch s command).2 := by
  rw [dispatch.eq_def, dispatch.eq_def]
  split
  · exact ⟨rfl, rfl⟩
  · exact ⟨rfl, rfl⟩

/-- What a bearer holds makes no difference to the reaction, as long as nothing is dropped. -/
theorem Bearer.after_standing (s : Setting) (b : Bearer ι) (mail : Mail) {r : Reaction ι}
    (halt : r.halt = none) :
    (b.withController (b.controller.after s mail r).1).standing =
        (b.standing.bearer.withController
          (b.standing.bearer.controller.after s mail r).1).standing ∧
      (b.controller.after s mail r).2 = (b.standing.bearer.controller.after s mail r).2 := by
  rw [Controller.after, Controller.after, halt]
  cases r.next with
  | none => exact ⟨rfl, rfl⟩
  | some next => exact ⟨rfl, rfl⟩

namespace Bearer

/-! ### Agendas with a first thing to do -/

/-- The first piece of mail is the first thing to do, if it does not have to wait. -/
theorem agenda_first {mail : Mail} {rest : List Mail}
    (first : b.controller.mailbox = mail :: rest)
    (free : (b.withController (b.controller.withMailbox rest)).OnlyRequests)
    (place : mail.isAnswer = true ∨ mail.isRequest = true ∧ b.controller.deferred = []) :
    b.agenda =
      .mail mail :: (b.withController (b.controller.withMailbox rest)).agenda := by
  have hanswers := free.answers_eq_nil
  have hout := free.outbox
  have hcalls := free.openCalls
  simp only [withController, Controller.withMailbox] at hanswers hout hcalls
  rcases place with hanswer | ⟨hrequest, hnone⟩
  · have hnot := Mail.isRequest_of_isAnswer hanswer
    simp [agenda, mails, withController, Controller.withMailbox, first, hout, hcalls, hanswers,
      hanswer, hnot]
  · have hnot := Mail.isAnswer_of_isRequest hrequest
    simp [agenda, mails, withController, Controller.withMailbox, first, hout, hcalls, hanswers,
      hrequest, hnot, hnone]

theorem agenda_call {call : Nat} {command : Command}
    (calls : b.openCalls = [(call, command)]) (free : (b.close call).OnlyRequests) :
    b.agenda = .call call command :: (b.close call).agenda := by
  have hout := free.outbox
  simp only [close] at hout
  simp [agenda, mails, close, hout, calls]

theorem agenda_order {command : Command} (outbox : b.controller.outbox = [command])
    (free : b.clearOutbox.OnlyRequests) : b.agenda = .order command :: b.clearOutbox.agenda := by
  have hcalls := free.openCalls
  simp only [clearOutbox] at hcalls
  simp [agenda, mails, clearOutbox, outbox, hcalls]

end Bearer

end

end PacketBearer
