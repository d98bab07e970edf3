/-
Talk does not steer a bearer.

An inquiry is talk unless it is a reset, and so is what the radio reports of itself.  Talk changes
the link, the radio's version and the owner's intent at most (`Connection.answer_eq`), and these are
read again where a reply is negotiated and where a set-up is intercepted.

* `react_hushed` — of a reaction nothing but these same fields depends on them;
* `step_of_aside`, `step_of_main` — an act that deals with talk changes nothing else, and all other
  acts do the same whatever has been talked of;
* `run_mainActs` — a run takes the course of its main acts;
* `exists_attended` — talk may be put anywhere between the acts of a run;
* `talk_never_steers` — so that two runs that differ in talk only take the same course.

Design notes: an inquiry goes with the acts by which the bearer takes and handles it, and a report,
which does not wait in the inbox, with the turn that handles it.  All these are asides, and so are
acts that are not possible.  What a bearer shows and holds is compared without the answers to
inquiries, and without their numbers.
-/
import PacketBearer.Proofs.Lateness
import PacketBearer.Proofs.Tidy

namespace PacketBearer

/-! ### Talk -/

/-- The mail is an inquiry that is no reset, or what the radio reports of itself. -/
def Mail.isTalk : Mail → Bool
  | radioConnected _ => true
  | inquiry _ question => decide (question ≠ .reset)
  | _ => false

/-- The owner inquires without a reset, or the bearer hears of the radio. -/
def Act.isTalk {ι : Type} : Act ι → Bool
  | hear _ => true
  | inquire question => decide (question ≠ .reset)
  | _ => false

/-- The bearer works: it takes mail, or has a turn. -/
def Act.isWork {ι : Type} : Act ι → Bool
  | take | turn => true
  | _ => false

/-- The event is the answer to an inquiry. -/
def Event.isAnswer : Event → Bool
  | .answered _ _ => true
  | _ => false

/-- What shows of events apart from the answers to inquiries. -/
def lifecycle (events : List Event) : List Event := events.filter (!·.isAnswer)

/-- The reply of a radio whose version is not known. -/
def SetupReply.unversioned (reply : SetupReply) : SetupReply := { reply with version := -1 }

/-- The mail without the number of an inquiry and the version of a reply. -/
def Mail.hushed : Mail → Mail
  | setUpDone request result => setUpDone request (result.map SetupReply.unversioned)
  | inquiry _ question => inquiry 0 question
  | mail => mail

/-- The mail that is no talk. -/
def hush (mails : List Mail) : List Mail := (mails.filter (!·.isTalk)).map Mail.hushed

/-- The record without what talk can change. -/
def Connection.hushed (c : Connection) : Connection :=
  { c with link := {}, radioVersion := -1, reconnectIntent := none }

/-- An interceptor that looks at the radio's version does no more with it than repeat it. -/
def Interceptor.Blind (ι : Type) [Interceptor ι] : Prop :=
  ∀ order version version' (i : ι),
    (intercept order version i).2 = (intercept order version' i).2 ∧
      (intercept order version i).1.map SetupReply.unversioned =
        (intercept order version' i).1.map SetupReply.unversioned

/-- A countdown counts down whatever the radio's version, and so does none. -/
theorem FailureCountdown.blind : Interceptor.Blind (Option FailureCountdown) := by
  intro order version version' i
  cases i with
  | none => exact ⟨rfl, rfl⟩
  | some countdown =>
    show some (intercept version countdown).2 = some (intercept version' countdown).2 ∧
      (intercept version countdown).1.map SetupReply.unversioned =
        (intercept version' countdown).1.map SetupReply.unversioned
    rw [intercept, intercept]
    split
    · exact ⟨rfl, rfl⟩
    · exact ⟨rfl, rfl⟩

section

variable {ι : Type}

/-- The reaction without what is talk. -/
def Reaction.hushed (r : Reaction ι) : Reaction ι :=
  { r with connection := r.connection.hushed, posts := hush r.posts, events := lifecycle r.events }

/-- The controller without what is talk. -/
def Controller.hushed (m : Controller ι) : Controller ι :=
  { m with
    connection := m.connection.hushed, mailbox := hush m.mailbox, deferred := hush m.deferred }

/-- The bearer without what is talk. -/
def Bearer.hushed (b : Bearer ι) : Bearer ι :=
  { b with controller := b.controller.hushed, inbox := hush b.inbox }

/-- The scene without what is talk. -/
def Scene.hushed (w : Scene ι) : Scene ι := { w with bearer := w.bearer.hushed, inquiries := 0 }

end

@[simp] theorem lifecycle_append (first second : List Event) :
    lifecycle (first ++ second) = lifecycle first ++ lifecycle second :=
  List.filter_append _ _

@[simp] theorem lifecycle_lifecycle (events : List Event) :
    lifecycle (lifecycle events) = lifecycle events := by
  rw [lifecycle, lifecycle, List.filter_filter]
  simp only [Bool.and_self]

@[simp] theorem hush_nil : hush [] = [] := rfl

@[simp] theorem hush_append (first second : List Mail) :
    hush (first ++ second) = hush first ++ hush second := by
  simp only [hush, List.filter_append, List.map_append]

theorem hush_singleton {mail : Mail} (h : mail.isTalk = false) : hush [mail] = [mail.hushed] := by
  simp [hush, h]

theorem hush_cons {mail : Mail} (h : mail.isTalk = false) (mails : List Mail) :
    hush (mail :: mails) = mail.hushed :: hush mails := by
  simp [hush, h]

theorem hush_cons_of_talk {mail : Mail} (h : mail.isTalk = true) (mails : List Mail) :
    hush (mail :: mails) = hush mails := by
  simp [hush, h]

@[simp] theorem Mail.isTalk_hushed (mail : Mail) : mail.hushed.isTalk = mail.isTalk := by
  cases mail with
  | setUpDone request result => cases result <;> rfl
  | _ => rfl

@[simp] theorem Mail.hushed_hushed (mail : Mail) : mail.hushed.hushed = mail.hushed := by
  cases mail with
  | setUpDone request result => cases result <;> rfl
  | _ => rfl

theorem Mail.request?_hushed (mail : Mail) : mail.hushed.request? = mail.request? := by
  cases mail with
  | setUpDone request result => cases result <;> rfl
  | _ => rfl

theorem Mail.request?_of_isTalk {mail : Mail} (h : mail.isTalk = true) : mail.request? = none := by
  cases mail <;> first | rfl | cases h

@[simp] theorem hush_hush (mails : List Mail) : hush (hush mails) = hush mails := by
  simp only [hush, List.filter_map, List.map_map, List.filter_filter]
  have hmap : Mail.hushed ∘ Mail.hushed = Mail.hushed := funext Mail.hushed_hushed
  have hfilter : ((fun mail : Mail => !mail.isTalk) ∘ Mail.hushed) = fun mail => !mail.isTalk := by
    funext mail
    rw [Function.comp_apply, Mail.isTalk_hushed]
  simp only [hmap, hfilter, Bool.and_self]

/-- Talk carries no request. -/
theorem filterMap_request?_hush (mails : List Mail) :
    (hush mails).filterMap Mail.request? = mails.filterMap Mail.request? := by
  induction mails with
  | nil => rfl
  | cons mail mails ih =>
    cases htalk : mail.isTalk with
    | true =>
      rw [hush_cons_of_talk htalk, ih, List.filterMap_cons_none (Mail.request?_of_isTalk htalk)]
    | false =>
      rw [hush_cons htalk, List.filterMap_cons, List.filterMap_cons, ih, Mail.request?_hushed]

/-! ### Reactions -/

section

variable {ι : Type}

theorem Reaction.hushed_eq {r r' : Reaction ι}
    (connection : r.connection.hushed = r'.connection.hushed) (posts : hush r.posts = hush r'.posts)
    (same : { r with connection := r'.connection, posts := r'.posts } = r') :
    r.hushed = r'.hushed := by
  rw [← same]
  simp only [hushed, connection, posts]

variable (s : Setting)

theorem leave_hushed (c : Connection) (i : ι) (request : TearDown) :
    (leave c.hushed i request).hushed = (leave c i request).hushed := by
  have hclients : c.hushed.clients = c.clients := rfl
  simp only [leave, hclients]
  cases request.client with
  | none => rfl
  | some client =>
    dsimp only
    split
    · rfl
    · split
      · rfl
      · rfl

/-- Neither the version of the radio nor the link before is negotiated. -/
theorem onSetUpDone_hushed (c : Connection) (i : ι) (request : BringUp)
    (result : Except RadioError SetupReply) :
    (onSetUpDone s c.hushed i request (result.map SetupReply.unversioned)).hushed =
      (onSetUpDone s c i request result).hushed := by
  cases result with
  | error error =>
    cases error with
    | rejected reply =>
      simp only [Except.map, onSetUpDone]
      split
      · rfl
      · rfl
    | _ => rfl
  | ok reply =>
    have hstatus : reply.unversioned.status = reply.status := rfl
    have hagreed : negotiate reply.unversioned (s.fallback c.hushed reply.unversioned.interface) =
      negotiate reply (s.fallback c reply.interface) := rfl
    by_cases hzero : reply.status = 0
    · cases hlink : negotiate reply (s.fallback c reply.interface) with
      | ok link =>
        simp only [Except.map, onSetUpDone, Connection.updateLink, hagreed, hstatus, if_pos hzero,
          hlink]
        rfl
      | error rejection =>
        simp only [Except.map, onSetUpDone, Connection.updateLink, hagreed, hstatus, if_pos hzero,
          hlink]
        rfl
    · simp only [Except.map, onSetUpDone, Connection.updateLink, hstatus, if_neg hzero]
      rfl

variable [Interceptor ι]

theorem launch_hushed (blind : Interceptor.Blind ι) (c : Connection) (i : ι) (request : BringUp) :
    (launch s c.hushed i request).hushed = (launch s c i request).hushed := by
  cases horder : s.technology.orderFor? request.accessPoint with
  | none =>
    simp only [launch, horder]
    rfl
  | some order =>
    -- what the interceptor says repeats the version of the radio at most
    obtain ⟨hstate, hreply⟩ := blind order c.hushed.radioVersion c.radioVersion i
    cases hleft : Interceptor.intercept order c.hushed.radioVersion i with
    | mk left j =>
    cases hright : Interceptor.intercept order c.radioVersion i with
    | mk right k =>
      rw [hleft, hright] at hstate hreply
      obtain rfl : j = k := hstate
      cases left with
      | none =>
        obtain rfl : right = none := Option.map_eq_none_iff.mp hreply.symm
        simp only [launch, horder, hleft, hright]
        rfl
      | some reply =>
        obtain ⟨reply', rfl, hsame⟩ := Option.map_eq_some_iff.mp hreply.symm
        simp only [launch, horder, hleft, hright]
        refine Reaction.hushed_eq rfl ?_ rfl
        have hresult : (Except.ok reply : Except RadioError SetupReply).map SetupReply.unversioned =
          (Except.ok reply').map SetupReply.unversioned := congrArg Except.ok hsame.symm
        rw [hush_singleton rfl, hush_singleton rfl, Mail.hushed, Mail.hushed, hresult]
        rfl

/-- Nothing but the same fields depends on what talk can change. -/
theorem react_hushed (blind : Interceptor.Blind ι) (p : Phase) (c : Connection) (i : ι)
    {mail : Mail} (plain : mail.isTalk = false) :
    (react s p c.hushed i mail.hushed).hushed = (react s p c i mail).hushed := by
  have hgeneration : c.hushed.generation = c.generation := rfl
  cases mail with
  | bringUp request =>
    cases p with
    | idle => exact launch_hushed s blind c i request
    | up | settingUp | releasing | cleaningUp => rfl
  | tearDown request =>
    cases p with
    | up => exact leave_hushed c i request
    | idle | settingUp | releasing | cleaningUp => rfl
  | setUpDone request result =>
    simp only [Mail.hushed, react, hgeneration]
    split
    · exact onSetUpDone_hushed s c i request result
    · rfl
  | lastCauseDone request result =>
    simp only [Mail.hushed, react, hgeneration]
    split
    · cases result <;> rfl
    · rfl
  | releaseDone purpose =>
    simp only [Mail.hushed, react, hgeneration]
    split
    · rfl
    · rfl
  | radioConnected result => cases plain
  | inquiry number question =>
    obtain rfl : question = .reset := by simpa [Mail.isTalk] using plain
    rfl
  | stop => rfl

/-- All that comes of talk is the answer to an inquiry. -/
theorem react_of_talk (p : Phase) (c : Connection) (i : ι) {mail : Mail}
    (talk : mail.isTalk = true) :
    ∃ c' events, react s p c i mail = { connection := c', interceptor := i, events } ∧
      c'.hushed = c.hushed ∧ lifecycle events = [] := by
  cases mail with
  | radioConnected result => exact ⟨_, _, rfl, rfl, rfl⟩
  | inquiry number question =>
    have hquestion : ¬ (question = .reset ∧ p ≠ .idle) := fun h => of_decide_eq_true talk h.1
    obtain ⟨link, intent, hanswer⟩ := c.answer_eq s p question
    refine ⟨{ c with link, reconnectIntent := intent },
      [.answered number (c.answer s p question).1], ?_, rfl, rfl⟩
    simp only [react, if_neg hquestion, hanswer]
  | bringUp | tearDown | setUpDone | lastCauseDone | releaseDone | stop => cases talk

end

/-! ### The controller and the bearer -/

section

variable {ι : Type} (s : Setting)

theorem Connection.enter_hushed (c : Connection) (target : Phase) (arrival : Arrival) :
    ((c.hushed.enter s target arrival).1.hushed = (c.enter s target arrival).1.hushed) ∧
      (c.hushed.enter s target arrival).2 = (c.enter s target arrival).2 := by
  cases target with
  | idle => cases arrival <;> exact ⟨rfl, rfl⟩
  | up => cases arrival <;> exact ⟨rfl, rfl⟩
  | settingUp | releasing | cleaningUp => exact ⟨rfl, rfl⟩

theorem Controller.requests_hushed (m : Controller ι) : m.hushed.requests = m.requests := by
  simp only [requests, hushed, List.filterMap_append, filterMap_request?_hush]

theorem Controller.move_hushed (m : Controller ι) (target : Phase) (arrival : Arrival) :
    (m.hushed.move s target arrival).1.hushed = (m.move s target arrival).1.hushed ∧
      (m.hushed.move s target arrival).2 = (m.move s target arrival).2 := by
  obtain ⟨hconnection, hentered⟩ := m.connection.enter_hushed s target arrival
  refine ⟨?_, congrArg (Event.moved m.phase target :: ·) hentered⟩
  simp only [move, hushed, hush_append, hush_hush, hconnection]

theorem Controller.absorb_hushed (m : Controller ι) {mail : Mail} (plain : mail.isTalk = false)
    (r : Reaction ι) :
    (m.hushed.absorb mail.hushed r.hushed).hushed = (m.absorb mail r).hushed := by
  have hwaits : hush (if r.hushed.waits then [mail.hushed] else []) =
      hush (if r.waits then [mail] else []) := by
    cases hwait : r.waits with
    | false => simp [Reaction.hushed, hwait]
    | true => simp [Reaction.hushed, hwait, hush, plain]
  simp only [absorb, hushed, hush_append, hush_hush, hwaits]
  simp only [Reaction.hushed, hush_hush]
  rfl

/-- A reaction does the same whether talk waits behind the mail or not. -/
theorem Controller.after_hushed (m : Controller ι) {mail : Mail} (plain : mail.isTalk = false)
    (r : Reaction ι) :
    (m.hushed.after s mail.hushed r.hushed).1.hushed = (m.after s mail r).1.hushed ∧
      lifecycle (m.hushed.after s mail.hushed r.hushed).2 = lifecycle (m.after s mail r).2 := by
  have hevents : r.hushed.events = lifecycle r.events := rfl
  have habsorb := m.absorb_hushed plain r
  rw [after, after, show r.hushed.halt = r.halt from rfl, show r.hushed.next = r.next from rfl]
  cases r.halt with
  | some halt =>
    refine ⟨rfl, ?_⟩
    simp only [requests_hushed, hevents, lifecycle_append, lifecycle_lifecycle]
  | none =>
    cases r.next with
    | none => exact ⟨habsorb, lifecycle_lifecycle r.events⟩
    | some next =>
      obtain ⟨target, arrival⟩ := next
      obtain ⟨hleft, hleft'⟩ :=
        (m.hushed.absorb mail.hushed r.hushed).move_hushed s target arrival
      obtain ⟨hright, hright'⟩ := (m.absorb mail r).move_hushed s target arrival
      rw [habsorb] at hleft hleft'
      refine ⟨hleft.symm.trans hright, ?_⟩
      simp only [lifecycle_append, hevents, lifecycle_lifecycle]
      rw [← hleft', hright']

@[simp] theorem Controller.hushed_hushed (m : Controller ι) : m.hushed.hushed = m.hushed := by
  simp only [hushed, hush_hush]
  rfl

namespace Bearer

@[simp] theorem hushed_hushed (b : Bearer ι) : b.hushed.hushed = b.hushed := by
  simp only [hushed, hush_hush, Controller.hushed_hushed]

theorem send_hushed (b : Bearer ι) {mail mail' : Mail} (same : hush [mail'] = hush [mail]) :
    (b.hushed.send [mail']).hushed = (b.send [mail]).hushed := by
  simp only [hushed, send, hush_append, hush_hush, Controller.hushed_hushed, same]

theorem send_of_talk (b : Bearer ι) {mail : Mail} (talk : mail.isTalk = true) :
    (b.send [mail]).hushed = b.hushed := by
  simp only [hushed, send, hush_append, hush_cons_of_talk talk, hush_nil, List.append_nil]

theorem accept_hushed (b : Bearer ι) {mail : Mail} (plain : mail.isTalk = false) :
    b.hushed.accept mail.hushed = ((b.accept mail).1.hushed, (b.accept mail).2) := by
  rw [accept, accept, show b.hushed.isHalted = b.isHalted from rfl, Mail.request?_hushed]
  split
  · rfl
  · simp only [withController, hushed, Controller.hushed, Controller.post, hush_append,
      hush_singleton plain]

theorem accept_of_talk (b : Bearer ι) {mail : Mail} (talk : mail.isTalk = true) :
    (b.accept mail).1.hushed = b.hushed ∧ (b.accept mail).2 = [] := by
  rw [accept]
  split
  · rw [Mail.request?_of_isTalk talk]
    exact ⟨rfl, rfl⟩
  · refine ⟨?_, rfl⟩
    simp only [withController, hushed, Controller.hushed, Controller.post, hush_append,
      hush_cons_of_talk talk, hush_nil, List.append_nil]

theorem dispatch_hushed (b : Bearer ι) (command : Command) :
    b.hushed.dispatch s command = ((b.dispatch s command).1.hushed, (b.dispatch s command).2) := by
  rw [dispatch.eq_def, dispatch.eq_def]
  split
  · simp only [hushed, Controller.hushed, Controller.post, hush_append]
    rfl
  · rfl

/-- To carry out commands does the same whether there is talk or not. -/
theorem dispatchAll_hushed (b : Bearer ι) (commands : List Command) :
    b.hushed.dispatchAll s commands =
      ((b.dispatchAll s commands).1.hushed, (b.dispatchAll s commands).2) := by
  induction commands generalizing b with
  | nil => rfl
  | cons command commands ih =>
    simp only [dispatchAll, dispatch_hushed, ih]

end Bearer

end

/-! ### Acts -/

namespace Scene

section

variable {ι : Type}

/-- The act is not possible, or deals with talk and nothing else. -/
def isAside (w : Scene ι) : Act ι → Bool
  | .take => !decide w.Resting || w.bearer.inbox.head?.all Mail.isTalk
  | .turn => match w.controller.mailbox with
    | mail :: _ => mail.isTalk
    | [] => w.controller.outbox.isEmpty
  | act => act.isTalk

/-- The acts of a run without the asides. -/
def mainActs [Interceptor ι] (w : Scene ι) : List (Act ι) → List (Act ι)
  | [] => []
  | act :: acts =>
    if w.isAside act then (w.step act).1.mainActs acts
    else act :: (w.step act).1.mainActs acts

/-- There is no talk around the bearer. -/
def Terse (w : Scene ι) : Prop := ∀ mail ∈ w.bearer.mails, mail.isTalk = false

@[simp] theorem hushed_hushed (w : Scene ι) : w.hushed.hushed = w.hushed := by
  simp only [hushed, Bearer.hushed_hushed]

/-- No talk is in the way of the act. -/
def Clear (w : Scene ι) : Act ι → Prop
  | .turn => ∀ mail rest, w.controller.mailbox = mail :: rest → mail.isTalk = false
  | .take => w.hushed.Resting → w.Resting ∧
    ∀ mail rest, w.bearer.inbox = mail :: rest → mail.isTalk = false
  | _ => True

variable {w f : Scene ι} {act : Act ι}

theorem Resting.hushed (rests : w.Resting) : w.hushed.Resting := by
  refine ⟨?_, rests.2⟩
  show hush w.controller.mailbox = []
  rw [rests.1, hush_nil]

/-- Where no talk is in the way, an act is an aside or not whatever has been talked of. -/
theorem Clear.isAside (clear : w.Clear act) : w.hushed.isAside act = w.isAside act := by
  cases act with
  | turn =>
    cases hmailbox : w.controller.mailbox with
    | nil =>
      have hmailbox' : w.hushed.controller.mailbox = [] := congrArg hush hmailbox
      rw [Scene.isAside, Scene.isAside, hmailbox, hmailbox']
      rfl
    | cons mail rest =>
      have hplain := clear mail rest hmailbox
      have hmailbox' : w.hushed.controller.mailbox = mail.hushed :: hush rest :=
        (congrArg hush hmailbox).trans (hush_cons hplain rest)
      rw [Scene.isAside, Scene.isAside, hmailbox, hmailbox']
      exact mail.isTalk_hushed
  | take =>
    rw [Scene.isAside, Scene.isAside]
    by_cases hrests : w.hushed.Resting
    · obtain ⟨hrests', hhead⟩ := clear hrests
      rw [decide_eq_true hrests, decide_eq_true hrests']
      cases hinbox : w.bearer.inbox with
      | nil =>
        have hinbox' : w.hushed.bearer.inbox = [] := congrArg hush hinbox
        rw [hinbox']
      | cons mail rest =>
        have hplain := hhead mail rest hinbox
        have hinbox' : w.hushed.bearer.inbox = mail.hushed :: hush rest :=
          (congrArg hush hinbox).trans (hush_cons hplain rest)
        rw [hinbox']
        exact mail.isTalk_hushed
    · have hbusy : ¬ w.Resting := fun h => hrests h.hushed
      rw [decide_eq_false hrests, decide_eq_false hbusy]
      rfl
  | ask | inquire | stop | hear | answer | switchRadio | closeTracker | rearm => rfl

theorem isTalk_of_main (main : w.isAside act = false) : act.isTalk = false := by
  cases act with
  | take | turn => rfl
  | _ => exact main

theorem Clear.of_main (main : w.isAside act = false) : w.Clear act := by
  cases act with
  | turn =>
    intro mail rest hmailbox
    rw [Scene.isAside, hmailbox] at main
    exact main
  | take =>
    rw [Scene.isAside, Bool.or_eq_false_iff, Bool.not_eq_false', decide_eq_true_iff] at main
    intro _
    refine ⟨main.1, fun mail rest hinbox => ?_⟩
    rw [hinbox] at main
    exact main.2
  | ask | inquire | stop | hear | answer | switchRadio | closeTracker | rearm => trivial

theorem Terse.clear (terse : f.Terse) : f.Clear act := by
  have hmailbox : ∀ mail rest, f.controller.mailbox = mail :: rest → mail.isTalk = false :=
    fun mail rest first => terse mail (Bearer.mem_mails_of_first first)
  cases act with
  | turn => exact hmailbox
  | take =>
    intro hrests
    refine ⟨⟨?_, hrests.2⟩, fun mail rest hinbox => terse mail (by simp [Bearer.mails, hinbox])⟩
    cases hfirst : f.controller.mailbox with
    | nil => rfl
    | cons mail rest =>
      have hnil : hush (mail :: rest) = [] := hfirst ▸ hrests.1
      rw [hush_cons (hmailbox mail rest hfirst)] at hnil
      cases hnil
  | ask | inquire | stop | hear | answer | switchRadio | closeTracker | rearm => trivial

/-- What is no aside is none where there is no talk. -/
theorem Terse.main (terse : f.Terse) (same : w.hushed = f.hushed)
    (main : w.isAside act = false) : f.isAside act = false := by
  rw [← terse.clear.isAside, ← same, (Clear.of_main main).isAside, main]

end

section

variable {ι : Type} [Interceptor ι] {w w' f : Scene ι} {act : Act ι} {events : List Event}

/-- The bearer handles talk. -/
theorem turn_of_talk {mail : Mail} {rest : List Mail} (first : w.controller.mailbox = mail :: rest)
    (talk : mail.isTalk = true) :
    ∃ c events, w.step .turn =
        (w.withController { w.controller with connection := c, mailbox := rest }, events) ∧
      c.hushed = w.controller.connection.hushed ∧ lifecycle events = [] := by
  obtain ⟨r, hr, -, hstep⟩ := step_turn first
  obtain ⟨c, events, hreact, hconnection, hevents⟩ := react_of_talk w.setting w.controller.phase
    w.controller.connection w.controller.interceptor talk
  rw [hr] at hreact
  subst hreact
  refine ⟨c, events, ?_, hconnection, hevents⟩
  rw [hstep]
  simp [Controller.after, Controller.absorb, Controller.withMailbox]

theorem turn_of_aside (aside : w.isAside .turn = true) :
    (w.step .turn).1.hushed = w.hushed ∧ lifecycle (w.step .turn).2 = [] := by
  cases hmailbox : w.controller.mailbox with
  | cons mail rest =>
    rw [isAside, hmailbox] at aside
    obtain ⟨c, events, hstep, hconnection, hevents⟩ := turn_of_talk hmailbox aside
    rw [hstep]
    refine ⟨?_, hevents⟩
    have hrest : hush w.controller.mailbox = hush rest := by
      rw [hmailbox, hush_cons_of_talk aside]
    simp only [hushed, withController, Bearer.hushed, Bearer.withController, Controller.hushed,
      hconnection, hrest]
  | nil =>
    rw [isAside, hmailbox] at aside
    have houtbox : w.controller.outbox = [] := List.isEmpty_iff.mp aside
    rw [step_turn_of_rest ⟨hmailbox, houtbox⟩]
    exact ⟨rfl, rfl⟩

theorem take_of_aside (aside : w.isAside .take = true) :
    (w.step .take).1.hushed = w.hushed ∧ lifecycle (w.step .take).2 = [] := by
  by_cases hrests : w.Resting
  · cases hinbox : w.bearer.inbox with
    | nil =>
      rw [step_take_of_nil hinbox]
      exact ⟨rfl, rfl⟩
    | cons mail rest =>
      rw [isAside, decide_eq_true hrests, hinbox] at aside
      have htalk : mail.isTalk = true := aside
      obtain ⟨hbearer, hevents⟩ := (w.bearer.withInbox rest).accept_of_talk htalk
      have hrest : (w.bearer.withInbox rest).hushed = w.bearer.hushed := by
        simp only [Bearer.withInbox, Bearer.hushed, hinbox, hush_cons_of_talk htalk]
      rw [step_take hrests hinbox, hevents]
      refine ⟨?_, rfl⟩
      simp only [hushed, hbearer, hrest]
  · rw [step_take_of_busy hrests]
    exact ⟨rfl, rfl⟩

/-- Talk changes nothing else. -/
theorem step_of_aside (aside : w.isAside act = true) :
    (w.step act).1.hushed = w.hushed ∧ lifecycle (w.step act).2 = [] := by
  cases act with
  | turn => exact turn_of_aside aside
  | take => exact take_of_aside aside
  | inquire question =>
    have hsent : (w.bearer.send [.inquiry w.inquiries question]).hushed = w.bearer.hushed :=
      w.bearer.send_of_talk aside
    refine ⟨?_, rfl⟩
    simp only [step, hushed, send, hsent]
  | hear result =>
    by_cases hrests : w.Resting
    · have htalk : (Mail.radioConnected result).isTalk = true := rfl
      obtain ⟨hbearer, hevents⟩ := w.bearer.accept_of_talk htalk
      rw [step_hear hrests, hevents]
      refine ⟨?_, rfl⟩
      simp only [hushed, hbearer]
    · rw [step_hear_of_busy hrests]
      exact ⟨rfl, rfl⟩
  | ask | stop | answer | switchRadio | closeTracker | rearm => cases aside

theorem turn_of_main (blind : Interceptor.Blind ι) (main : w.isAside .turn = false) :
    (w.hushed.step .turn).1.hushed = (w.step .turn).1.hushed ∧
      lifecycle (w.hushed.step .turn).2 = lifecycle (w.step .turn).2 := by
  cases hmailbox : w.controller.mailbox with
  | cons mail rest =>
    rw [isAside, hmailbox] at main
    have hmailbox' : w.hushed.controller.mailbox = mail.hushed :: hush rest := by
      show hush w.controller.mailbox = _
      rw [hmailbox, hush_cons main]
    have hplain : mail.hushed.isTalk = false := mail.isTalk_hushed.trans main
    obtain ⟨r, hr, -, hstep⟩ := step_turn hmailbox
    obtain ⟨r', hr', -, hstep'⟩ := step_turn hmailbox'
    have hreact : r'.hushed = r.hushed := by
      rw [← hr, ← hr']
      exact react_hushed w.setting blind w.controller.phase w.controller.connection
        w.controller.interceptor main
    -- what the reaction does to the controller is hushed on either side
    obtain ⟨hright, hrightEvents⟩ :=
      (w.controller.withMailbox rest).after_hushed w.setting main r
    obtain ⟨hleft, hleftEvents⟩ :=
      (w.controller.withMailbox rest).hushed.after_hushed w.setting hplain r'
    rw [Controller.hushed_hushed, Mail.hushed_hushed, hreact] at hleft hleftEvents
    have hrest : w.hushed.controller.withMailbox (hush rest) =
      (w.controller.withMailbox rest).hushed := rfl
    rw [hstep, hstep', hrest]
    constructor
    · have hcontroller := hleft.symm.trans hright
      simp only [hushed, withController, Bearer.hushed, Bearer.withController, hush_hush]
      rw [hcontroller]
    · exact hleftEvents.symm.trans hrightEvents
  | nil =>
    rw [isAside, hmailbox] at main
    have houtbox : w.controller.outbox ≠ [] := List.isEmpty_eq_false_iff.mp main
    have hmailbox' : w.hushed.controller.mailbox = [] := by
      show hush w.controller.mailbox = _
      rw [hmailbox, hush_nil]
    have hdispatched : w.hushed.bearer.clearOutbox.dispatchAll w.hushed.setting
        w.hushed.controller.outbox = _ :=
      w.bearer.clearOutbox.dispatchAll_hushed w.setting w.controller.outbox
    rw [step, step, Bearer.turn_of_nil hmailbox houtbox, Bearer.turn_of_nil hmailbox' houtbox,
      hdispatched]
    refine ⟨?_, rfl⟩
    simp only [hushed, Bearer.hushed_hushed]

theorem take_of_main (main : w.isAside .take = false) :
    w.hushed.step .take = ((w.step .take).1.hushed, (w.step .take).2) := by
  rw [isAside, Bool.or_eq_false_iff, Bool.not_eq_false', decide_eq_true_iff] at main
  obtain ⟨hrests, hhead⟩ := main
  cases hinbox : w.bearer.inbox with
  | nil =>
    rw [hinbox] at hhead
    cases hhead
  | cons mail rest =>
    rw [hinbox] at hhead
    have hplain : mail.isTalk = false := hhead
    have hinbox' : w.hushed.bearer.inbox = mail.hushed :: hush rest := by
      show hush w.bearer.inbox = _
      rw [hinbox, hush_cons hplain]
    have haccepted : (w.hushed.bearer.withInbox (hush rest)).accept mail.hushed = _ :=
      (w.bearer.withInbox rest).accept_hushed hplain
    rw [step_take hrests hinbox, step_take hrests.hushed hinbox', haccepted]
    rfl

theorem answer_of_main (w : Scene ι) (call : Nat) (given : RadioAnswers) :
    (w.hushed.step (.answer call given)).1.hushed = (w.step (.answer call given)).1.hushed ∧
      (w.hushed.step (.answer call given)).2 = (w.step (.answer call given)).2 := by
  cases hfind : w.bearer.openCalls.find? fun c => c.1 == call with
  | none =>
    have hfind' : w.hushed.bearer.openCalls.find? (fun c => c.1 == call) = none := hfind
    rw [step, step, hfind, hfind']
    exact ⟨w.hushed_hushed, rfl⟩
  | some found =>
    obtain ⟨number, command⟩ := found
    have hfind' : w.hushed.bearer.openCalls.find? (fun c => c.1 == call) =
      some (number, command) := hfind
    cases hready : command.completion? given with
    | none =>
      rw [step, step, hfind, hfind']
      dsimp only
      rw [hready]
      exact ⟨w.hushed_hushed, rfl⟩
    | some mail =>
      rw [step_answer hfind hready, step_answer hfind' hready]
      refine ⟨?_, rfl⟩
      have hsent := (w.bearer.close call).send_hushed (rfl : hush [mail] = hush [mail])
      simp only [hushed, send]
      exact congrArg (Scene.mk w.setting · w.bringUps w.tearDowns 0) hsent

/-- All other acts do the same whatever has been talked of. -/
theorem step_of_main (blind : Interceptor.Blind ι) (main : w.isAside act = false) :
    (w.hushed.step act).1.hushed = (w.step act).1.hushed ∧
      lifecycle (w.hushed.step act).2 = lifecycle (w.step act).2 := by
  cases act with
  | turn => exact turn_of_main blind main
  | take =>
    rw [take_of_main main]
    exact ⟨hushed_hushed _, rfl⟩
  | ask wish =>
    have hsent := w.bearer.send_hushed (rfl : hush [w.mailOf wish] = hush [w.mailOf wish])
    refine ⟨?_, rfl⟩
    cases wish with
    | bringUp => exact congrArg (Scene.mk w.setting · (w.bringUps + 1) w.tearDowns 0) hsent
    | tearDown => exact congrArg (Scene.mk w.setting · w.bringUps (w.tearDowns + 1) 0) hsent
  | inquire question =>
    obtain rfl : question = .reset := by simpa [isAside, Act.isTalk] using main
    have hsame : hush [.inquiry 0 .reset] = hush [.inquiry w.inquiries .reset] := rfl
    have hsent := w.bearer.send_hushed hsame
    exact ⟨congrArg (Scene.mk w.setting · w.bringUps w.tearDowns 0) hsent, rfl⟩
  | stop =>
    have hsent := w.bearer.send_hushed (rfl : hush [.stop] = hush [.stop])
    exact ⟨congrArg (Scene.mk w.setting · w.bringUps w.tearDowns 0) hsent, rfl⟩
  | answer call given =>
    obtain ⟨hscene, hevents⟩ := w.answer_of_main call given
    exact ⟨hscene, congrArg lifecycle hevents⟩
  | hear result => cases main
  | switchRadio on =>
    exact ⟨hushed_hushed { w with setting := { w.setting with radioOn := on } }, rfl⟩
  | closeTracker =>
    exact ⟨hushed_hushed { w with setting := { w.setting with trackerOpen := false } }, rfl⟩
  | rearm interceptor =>
    exact ⟨hushed_hushed (w.withController { w.controller with interceptor }), rfl⟩

/-! ### Runs -/

theorem Change.terse (h : Change w act w' events) (terse : w.Terse)
    (plain : act.isTalk = false) : w'.Terse := by
  intro mail hmail
  rcases h.mem_or_sends mail hmail with hold | hsent | hanswer
  · exact terse mail hold
  · cases hsent with
    | ask wish => cases wish <;> rfl
    | inquire => exact plain
    | stop => rfl
    | hear => cases plain
  · cases mail <;> first | rfl | cases hanswer

variable {acts : List (Act ι)}

/-- A run takes the course of its main acts. -/
theorem run_mainActs (blind : Interceptor.Blind ι) (terse : f.Terse) (same : w.hushed = f.hushed)
    (acts : List (Act ι)) :
    (w.run acts).1.hushed = (f.run (w.mainActs acts)).1.hushed ∧
      lifecycle (w.run acts).2 = lifecycle (f.run (w.mainActs acts)).2 ∧
      f.mainActs (w.mainActs acts) = w.mainActs acts := by
  induction acts generalizing w f with
  | nil => exact ⟨same, rfl, rfl⟩
  | cons act acts ih =>
    rw [run_cons, mainActs, lifecycle_append]
    cases haside : w.isAside act with
    | true =>
      obtain ⟨hscene, hevents⟩ := step_of_aside haside
      rw [if_pos rfl, hevents, List.nil_append]
      exact ih terse (hscene.trans same)
    | false =>
      have hmain := terse.main same haside
      obtain ⟨hscene, hevents⟩ := step_of_main blind haside
      obtain ⟨hscene', hevents'⟩ := step_of_main blind hmain
      rw [same] at hscene hevents
      have hterse := (f.change_step act).terse terse (isTalk_of_main haside)
      have hrest := ih hterse (hscene.symm.trans hscene')
      rw [if_neg Bool.false_ne_true, run_cons, mainActs, hmain, if_neg Bool.false_ne_true,
        lifecycle_append, ← hevents, hevents', hrest.2.1, hrest.2.2]
      exact ⟨hrest.1, rfl, rfl⟩

theorem isTalk_of_mem_mainActs (h : act ∈ w.mainActs acts) : act.isTalk = false := by
  induction acts generalizing w with
  | nil => cases h
  | cons first acts ih =>
    rw [mainActs] at h
    split at h
    · exact ih h
    · next hmain =>
      rcases List.mem_cons.mp h with rfl | hlater
      · exact isTalk_of_main (Bool.eq_false_iff.mpr hmain)
      · exact ih hlater

/-! ### Talk that is put between the acts of a run -/

theorem mainActs_append (first second : List (Act ι)) :
    w.mainActs (first ++ second) = w.mainActs first ++ (w.run first).1.mainActs second := by
  induction first generalizing w with
  | nil => rfl
  | cons act first ih =>
    rw [List.cons_append, mainActs, mainActs, run_cons, ih]
    split
    · rfl
    · rfl

theorem hushed_of_asides {asides : List (Act ι)} (none : w.mainActs asides = []) :
    (w.run asides).1.hushed = w.hushed := by
  induction asides generalizing w with
  | nil => rfl
  | cons act asides ih =>
    rw [mainActs] at none
    split at none
    · next haside => exact (ih none).trans (step_of_aside haside).1
    · cases none

/-- The bearer works off the talk that is first in its mailbox. -/
theorem exists_clear_mailbox (w : Scene ι) :
    ∃ asides : List (Act ι), (∀ aside ∈ asides, aside.isWork = true) ∧ w.mainActs asides = [] ∧
      (w.run asides).1.Clear .turn := by
  generalize hmailbox : w.controller.mailbox = mailbox
  induction mailbox generalizing w with
  | nil =>
    refine ⟨[], by simp, rfl, fun mail rest first => ?_⟩
    rw [run_nil, hmailbox] at first
    cases first
  | cons mail rest ih =>
    cases htalk : mail.isTalk with
    | false =>
      refine ⟨[], by simp, rfl, fun mail' rest' first => ?_⟩
      rw [run_nil, hmailbox] at first
      cases first
      exact htalk
    | true =>
      obtain ⟨c, events, hstep, -, -⟩ := turn_of_talk hmailbox htalk
      obtain ⟨asides, hwork, hnone, hclear⟩ := ih (w.step .turn).1 (by rw [hstep]; rfl)
      have haside : w.isAside .turn = true := by
        rw [isAside, hmailbox]
        exact htalk
      refine ⟨.turn :: asides, ?_, ?_, hclear⟩
      · intro aside haside
        rcases List.mem_cons.mp haside with rfl | hmem
        · rfl
        · exact hwork aside hmem
      · rw [mainActs, if_pos haside, hnone]

/-- A bearer that rests takes talk and handles it, and rests again. -/
theorem take_turn_of_talk {mail : Mail} {rest : List Mail} (rests : w.Resting)
    (first : w.bearer.inbox = mail :: rest) (talk : mail.isTalk = true) :
    w.mainActs [.take, .turn] = [] ∧ (w.run [.take, .turn]).1.Resting ∧
      (w.run [.take, .turn]).1.bearer.inbox = rest := by
  have htake : w.isAside .take = true := by
    rw [isAside, first]
    exact Bool.or_eq_true_iff.mpr (Or.inr talk)
  -- a bearer that has halted is rid of the talk at once
  have htaken : (w.step .take).1.controller.outbox = [] ∧ (w.step .take).1.bearer.inbox = rest ∧
      ((w.step .take).1.controller.mailbox = [] ∨
        (w.step .take).1.controller.mailbox = [mail]) := by
    rw [step_take rests first, controller, Bearer.accept]
    split
    · exact ⟨rests.2, rfl, Or.inl rests.1⟩
    · exact ⟨rests.2, rfl, Or.inr (congrArg (· ++ [mail]) rests.1)⟩
  rw [mainActs, if_pos htake, mainActs, run_cons, run_cons, run_nil]
  generalize (w.step .take).1 = taken at htaken
  obtain ⟨houtbox, hinbox, hmailbox | hmailbox⟩ := htaken
  · have hturn : taken.isAside .turn = true := by
      rw [isAside, hmailbox, houtbox]
      rfl
    have hstep : taken.step .turn = (taken, []) := step_turn_of_rest ⟨hmailbox, houtbox⟩
    rw [if_pos hturn, hstep]
    exact ⟨rfl, ⟨hmailbox, houtbox⟩, hinbox⟩
  · have hturn : taken.isAside .turn = true := by
      rw [isAside, hmailbox]
      exact talk
    obtain ⟨c, events, hstep, -, -⟩ := turn_of_talk hmailbox talk
    rw [if_pos hturn, hstep]
    exact ⟨rfl, ⟨rfl, houtbox⟩, hinbox⟩

/-- The bearer takes the talk that is first in its inbox, and works it off. -/
theorem exists_clear_inbox (w : Scene ι) (rests : w.Resting) :
    ∃ asides : List (Act ι), (∀ aside ∈ asides, aside.isWork = true) ∧ w.mainActs asides = [] ∧
      (w.run asides).1.Clear .take := by
  generalize hinbox : w.bearer.inbox = inbox
  induction inbox generalizing w with
  | nil =>
    refine ⟨[], by simp, rfl, fun _ => ⟨rests, fun mail rest first => ?_⟩⟩
    rw [run_nil, hinbox] at first
    cases first
  | cons mail rest ih =>
    cases htalk : mail.isTalk with
    | false =>
      refine ⟨[], by simp, rfl, fun _ => ⟨rests, fun mail' rest' first => ?_⟩⟩
      rw [run_nil, hinbox] at first
      cases first
      exact htalk
    | true =>
      obtain ⟨hasides, hrests, hrest⟩ := take_turn_of_talk rests hinbox htalk
      obtain ⟨asides, hwork, hnone, hclear⟩ := ih _ hrests hrest
      refine ⟨[.take, .turn] ++ asides, ?_, ?_, ?_⟩
      · intro aside haside
        rcases List.mem_append.mp haside with hmem | hmem
        · simp only [List.mem_cons, List.not_mem_nil, or_false] at hmem
          rcases hmem with rfl | rfl
          · rfl
          · rfl
        · exact hwork aside hmem
      · rw [mainActs_append, hasides, hnone, List.append_nil]
      · rw [run_append]
        exact hclear

/-- The bearer works off the talk that is in the way of an act. -/
theorem exists_clear (w : Scene ι) (act : Act ι) :
    ∃ asides : List (Act ι), (∀ aside ∈ asides, aside.isWork = true) ∧ w.mainActs asides = [] ∧
      (w.run asides).1.Clear act := by
  cases act with
  | turn => exact w.exists_clear_mailbox
  | take =>
    obtain ⟨asides, hwork, hnone, hclear⟩ := w.exists_clear_mailbox
    by_cases hrests : (w.run asides).1.Resting
    · obtain ⟨others, hwork', hnone', hclear'⟩ := exists_clear_inbox _ hrests
      refine ⟨asides ++ others, ?_, ?_, ?_⟩
      · intro aside haside
        rcases List.mem_append.mp haside with hmem | hmem
        · exact hwork aside hmem
        · exact hwork' aside hmem
      · rw [mainActs_append, hnone, hnone', List.append_nil]
      · rw [run_append]
        exact hclear'
    · refine ⟨asides, hwork, hnone, fun hquiet => absurd ⟨?_, hquiet.2⟩ hrests⟩
      cases hmailbox : (w.run asides).1.controller.mailbox with
      | nil => rfl
      | cons mail rest =>
        have hnil : hush (mail :: rest) = [] := hmailbox ▸ hquiet.1
        rw [hush_cons (hclear mail rest hmailbox)] at hnil
        cases hnil
  | ask | inquire | stop | hear | answer | switchRadio | closeTracker | rearm =>
    exact ⟨[], by simp, rfl, trivial⟩

/-- Where no talk is in the way, an act that is no talk does the same, and is an aside or not,
whatever has been talked of. -/
theorem Clear.step (clear : w.Clear act) (plain : act.isTalk = false) (terse : f.Terse)
    (same : w.hushed = f.hushed) (blind : Interceptor.Blind ι) :
    w.isAside act = f.isAside act ∧ (w.step act).1.hushed = (f.step act).1.hushed ∧
      (f.step act).1.Terse := by
  have haside : w.isAside act = f.isAside act := by
    rw [← clear.isAside, ← terse.clear.isAside, same]
  refine ⟨haside, ?_, (f.change_step act).terse terse plain⟩
  cases hw : w.isAside act with
  | true =>
    have hf := haside.symm.trans hw
    exact (step_of_aside hw).1.trans (same.trans (step_of_aside hf).1.symm)
  | false =>
    have hf := haside.symm.trans hw
    have hstep := (step_of_main blind hw).1
    rw [same] at hstep
    exact hstep.symm.trans (step_of_main blind hf).1

/-- Talk may be put anywhere between the acts of a run, as long as the bearer has the time to work
it off. -/
theorem exists_attended (blind : Interceptor.Blind ι) (acts : List (Act ι)) (terse : f.Terse)
    (same : w.hushed = f.hushed) :
    ∃ attended : List (Act ι), acts.Sublist attended ∧
      attended.filter (!·.isWork) = acts.filter (!·.isWork) ∧
      w.mainActs attended = f.mainActs (acts.filter (!·.isTalk)) := by
  induction acts generalizing w f with
  | nil => exact ⟨[], List.Sublist.refl [], rfl, rfl⟩
  | cons act acts ih =>
    obtain ⟨asides, hwork, hnone, hclear⟩ := w.exists_clear act
    have hquiet := (hushed_of_asides hnone).trans same
    have hkept : asides.filter (!·.isWork) = [] := by
      rw [List.filter_eq_nil_iff]
      intro aside haside
      rw [hwork aside haside]
      exact Bool.false_ne_true
    -- the act comes after the asides, whatever comes of it
    have hattended : ∀ attended : List (Act ι), acts.Sublist attended →
        attended.filter (!·.isWork) = acts.filter (!·.isWork) →
        (act :: acts).Sublist (asides ++ act :: attended) ∧
          (asides ++ act :: attended).filter (!·.isWork) = (act :: acts).filter (!·.isWork) := by
      intro attended hsub hfilter
      refine ⟨(hsub.cons_cons act).trans (List.sublist_append_right asides _), ?_⟩
      rw [List.filter_append, hkept, List.nil_append, List.filter_cons, List.filter_cons, hfilter]
    cases htalk : act.isTalk with
    | true =>
      have haside : (w.run asides).1.isAside act = true := by
        cases act with
        | inquire | hear => exact htalk
        | _ => cases htalk
      obtain ⟨attended, hsub, hfilter, hmain⟩ :=
        ih terse ((step_of_aside haside).1.trans hquiet)
      obtain ⟨hsub', hfilter'⟩ := hattended attended hsub hfilter
      refine ⟨_, hsub', hfilter', ?_⟩
      rw [mainActs_append, hnone, List.nil_append, mainActs, if_pos haside, hmain,
        List.filter_cons_of_neg (by rw [htalk]; exact Bool.false_ne_true)]
    | false =>
      obtain ⟨haside, hscene, hterse⟩ := hclear.step htalk terse hquiet blind
      obtain ⟨attended, hsub, hfilter, hmain⟩ := ih hterse hscene
      obtain ⟨hsub', hfilter'⟩ := hattended attended hsub hfilter
      refine ⟨_, hsub', hfilter', ?_⟩
      rw [mainActs_append, hnone, List.nil_append, mainActs, haside, hmain,
        List.filter_cons_of_pos (by rw [htalk]; rfl), mainActs]

end

theorem terse_start {ι : Type} (s : Setting) (i : ι) : (start s i).Terse :=
  fun _ hmail => absurd hmail List.not_mem_nil

end Scene

/-- Two scenes are the same but for what is talked of. -/
structure Scene.SameLife {ι : Type} (w f : Scene ι) : Prop where
  phase : w.controller.phase = f.controller.phase
  generation : w.controller.connection.generation = f.controller.connection.generation
  bearerId : w.controller.connection.bearerId = f.controller.connection.bearerId
  accessPoint : w.controller.connection.accessPoint = f.controller.connection.accessPoint
  clients : w.controller.connection.clients = f.controller.connection.clients
  halt : w.controller.halt = f.controller.halt

theorem Scene.sameLife_of_hushed {ι : Type} {w f : Scene ι} (same : w.hushed = f.hushed) :
    w.SameLife f where
  phase := (congrArg (fun v : Scene ι => v.controller.phase) same :)
  generation := (congrArg (fun v : Scene ι => v.controller.connection.generation) same :)
  bearerId := (congrArg (fun v : Scene ι => v.controller.connection.bearerId) same :)
  accessPoint := (congrArg (fun v : Scene ι => v.controller.connection.accessPoint) same :)
  clients := (congrArg (fun v : Scene ι => v.controller.connection.clients) same :)
  halt := (congrArg (fun v : Scene ι => v.controller.halt) same :)

/-- Talk does not steer a bearer.  Two runs with the same main acts take the same course, and there
is no talk among the main acts, which are a run of their own.  And wherever talk is put between the
acts of a run, the run takes its course if the bearer has the time to work the talk off. -/
theorem talk_never_steers (s : Setting) (i : Option FailureCountdown)
    (acts : List (Act (Option FailureCountdown))) :
    ((Scene.start s i).mainActs ((Scene.start s i).mainActs acts) =
        (Scene.start s i).mainActs acts ∧
      ∀ act ∈ (Scene.start s i).mainActs acts, act.isTalk = false) ∧
    (∀ others, (Scene.start s i).mainActs others = (Scene.start s i).mainActs acts →
      lifecycle ((Scene.start s i).run others).2 = lifecycle ((Scene.start s i).run acts).2 ∧
        ((Scene.start s i).run others).1.SameLife ((Scene.start s i).run acts).1) ∧
    ∃ attended : List (Act (Option FailureCountdown)), acts.Sublist attended ∧
      attended.filter (!·.isWork) = acts.filter (!·.isWork) ∧
      lifecycle ((Scene.start s i).run attended).2 =
        lifecycle ((Scene.start s i).run (acts.filter (!·.isTalk))).2 ∧
      ((Scene.start s i).run attended).1.SameLife
        ((Scene.start s i).run (acts.filter (!·.isTalk))).1 := by
  have hterse := Scene.terse_start s i
  have hrun := Scene.run_mainActs FailureCountdown.blind hterse
    (rfl : (Scene.start s i).hushed = (Scene.start s i).hushed)
  -- runs with the same main acts take the course of those
  have hsame : ∀ {first second : List (Act (Option FailureCountdown))},
      (Scene.start s i).mainActs first = (Scene.start s i).mainActs second →
        lifecycle ((Scene.start s i).run first).2 = lifecycle ((Scene.start s i).run second).2 ∧
          ((Scene.start s i).run first).1.SameLife ((Scene.start s i).run second).1 := by
    intro first second hmain
    obtain ⟨hleft, hleft', -⟩ := hrun first
    obtain ⟨hright, hright', -⟩ := hrun second
    rw [hmain] at hleft hleft'
    exact ⟨hleft'.trans hright'.symm, Scene.sameLife_of_hushed (hleft.trans hright.symm)⟩
  refine ⟨⟨(hrun acts).2.2, fun act => Scene.isTalk_of_mem_mainActs⟩, fun others => hsame, ?_⟩
  obtain ⟨attended, hsub, hfilter, hmain⟩ :=
    Scene.exists_attended FailureCountdown.blind acts hterse rfl
  exact ⟨attended, hsub, hfilter, hsame hmain⟩

/-- An attempt that the countdown makes fail. -/
def bare : List (Act (Option FailureCountdown)) :=
  [.ask (.bringUp "a" {}), .take, .turn, .turn]

/-- The same attempt with talk before, in and after it. -/
def gossipy : List (Act (Option FailureCountdown)) :=
  [.hear (.ok 15), .turn, .inquire (.updateLink plainReply), .ask (.bringUp "a" {}), .take, .turn,
    .take, .turn, .inquire .link, .turn, .take, .turn, .hear (.error .genericFailure), .turn]

/-- The talk before, in and after the attempt makes no difference. -/
theorem talk_never_steers_gossipy :
    ((Scene.start .cellular (some { remaining := 1 })).mainActs gossipy =
      (Scene.start .cellular (some { remaining := 1 })).mainActs bare) ∧
    lifecycle ((Scene.start .cellular (some { remaining := 1 })).run gossipy).2 =
      lifecycle ((Scene.start .cellular (some { remaining := 1 })).run bare).2 :=
  ⟨rfl, ((talk_never_steers .cellular (some { remaining := 1 }) bare).2.1 gossipy rfl).1⟩

end PacketBearer
