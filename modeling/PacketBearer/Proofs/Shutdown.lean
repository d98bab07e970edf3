/-
The end of a bearer.

A bearer that is told to stop has seen to all that was sent before, drops what it has put aside, and
from then on drops whatever reaches it.  Its owner sees the same end from outside: what is asked
behind the order to stop is not answered, what is asked later is refused by the handle, and nobody
listens for the radio's version any more.

* `AtRest.settle_stop` — a bearer answers no inquiry that is behind the order to stop;
* `over_run` — a bearer that has halted drops what it takes, and that is all that can be seen;
* `act_stop` — an inquiry behind the order has a number that no answer has;
* `stop_is_final` — the end, as the bearer and as its owner sees it.
-/
import PacketBearer.Proofs.Inbox
import PacketBearer.Proofs.Service

namespace PacketBearer

/-! ### An inbox with the order to stop -/

namespace Bearer

variable {ι : Type} [Interceptor ι] {s : Setting} {b b' : Bearer ι}

/-- A bearer that has halted stays so. -/
theorem isHalted_turn {now : List Event} (h : b.turn s = some (b', now))
    (halted : b.isHalted = true) : b'.isHalted = true := by
  rcases turn_cases h with ⟨mail, rest, r, -, -, rfl, -⟩ | ⟨-, -, rfl, -⟩
  · refine Bool.of_not_eq_false fun live => ?_
    exact absurd halted (Bool.eq_false_iff.mp (Controller.live_after_iff.mp live).2)
  · obtain ⟨purposes, hcontroller⟩ := controller_dispatchAll s b.clearOutbox b.controller.outbox
    rw [isHalted, hcontroller]
    exact halted

/-- A bearer that takes the order to stop has halted then. -/
theorem AtRest.take_stop (h : b.AtRest) : (b.take s .stop).1.isHalted = true := by
  cases hhalted : b.isHalted with
  | true =>
    rw [Bearer.take, if_pos hhalted]
    exact hhalted
  | false =>
    rw [take_of_live hhalted, drive_of_turn (turn_of_cons (h.mailbox_post _))]
    exact holds_drive (P := fun b => b.isHalted = true) isHalted_turn _ rfl

/-- A bearer that has halted drops its inbox. -/
theorem settle_of_halted (halted : b.isHalted = true) :
    (b.settle s).1.isHalted = true ∧
      ∀ event ∈ (b.settle s).2, ∃ request, event = .dropped request := by
  induction hinbox : b.inbox generalizing b with
  | nil =>
    rw [settle_of_inbox s hinbox]
    exact ⟨halted, fun event hevent => absurd hevent List.not_mem_nil⟩
  | cons mail rest ih =>
    have htake : (b.withInbox rest).take s mail =
        (b.withInbox rest, (mail.request?.map Event.dropped).toList) := if_pos halted
    obtain ⟨hend, hevents⟩ := ih (b := b.withInbox rest) halted rfl
    rw [settle_of_cons s hinbox, htake]
    refine ⟨hend, fun event hevent => ?_⟩
    rcases List.mem_append.mp hevent with hnow | hlater
    · obtain ⟨request, -, rfl⟩ := Option.map_eq_some_iff.mp (Option.mem_toList.mp hnow)
      exact ⟨request, rfl⟩
    · exact hevents event hlater

/-- A bearer that finds the order to stop in its inbox answers the inquiries before it at most, and
has halted in the end. -/
theorem AtRest.settle_stop (h : b.AtRest) {before behind : List Mail}
    (inbox : b.inbox = before ++ .stop :: behind) :
    (b.settle s).1.isHalted = true ∧
      ∀ number answer, Event.answered number answer ∈ (b.settle s).2 →
        ∃ inquiry, .inquiry number inquiry ∈ before := by
  have hbefore : (b.withInbox before).AtRest := h.of_controller rfl
  obtain ⟨hend, hanswered⟩ := hbefore.settle (s := s)
  obtain ⟨b', hinbox, hakin, hsettle⟩ := settle_append (s := s) inbox
  -- once the order is taken, all that shows is what is dropped
  have hrest : (b'.withInbox behind).AtRest := hend.of_controller hakin.controller
  obtain ⟨-, hnone⟩ := hrest.take (s := s) .stop
  obtain ⟨hhalted, hdropped⟩ := settle_of_halted (s := s) hrest.take_stop
  rw [hsettle, settle_of_cons s hinbox]
  refine ⟨hhalted, fun number answer answered => ?_⟩
  rcases List.mem_append.mp answered with hfront | hbehind
  · exact hanswered number answer hfront
  rcases List.mem_append.mp hbehind with hnow | hlater
  · obtain ⟨inquiry, hstop⟩ := hnone number answer hnow
    cases hstop
  · obtain ⟨request, hrequest⟩ := hdropped _ hlater
    cases hrequest

end Bearer

/-! ### A bearer that is over -/

namespace Scene

variable {ι : Type} [Interceptor ι]

/-- Nothing comes of a bearer any more. -/
structure Over (w : Scene ι) : Prop where
  halted : w.bearer.isHalted = true
  /-- Whatever happens, all that can be seen is that requests are dropped as they are taken. -/
  shows : ∀ acts : List (Act ι), (w.run acts).2 = epitaph (w.received acts)
  /-- What reaches the bearer is taken in the order in which it is sent. -/
  keeps : ∀ acts : List (Act ι),
    w.bearer.inbox ++ w.sent acts = w.received acts ++ (w.run acts).1.bearer.inbox
  phase : ∀ acts : List (Act ι), (w.run acts).1.controller.phase = w.controller.phase
  /-- All that is in the inbox is dropped. -/
  drops : (w.run (List.replicate w.bearer.inbox.length .take)).2 = epitaph w.bearer.inbox ∧
    (w.run (List.replicate w.bearer.inbox.length .take)).1.bearer.inbox = []
  /-- A request that an open call owns is dropped once the radio has answered. -/
  answers : ∀ {call : Nat} {command : Command} {given : RadioAnswers} {mail : Mail},
    (call, command) ∈ w.bearer.openCalls → command.completion? given = some mail →
      (w.run (.answer call given :: List.replicate (w.bearer.inbox.length + 1) .take)).2 =
        epitaph w.bearer.inbox ++ [.dropped command.request]

theorem over_of_halted {w : Scene ι} (spent : w.controller.Spent) (numbered : w.bearer.Numbered)
    (halted : w.bearer.isHalted = true) : w.Over where
  halted := halted
  shows acts := (run_of_halted spent halted acts).1
  keeps acts := w.inbox_run acts
  phase acts := by
    obtain ⟨-, interceptor, hcontroller⟩ := run_of_halted spent halted acts
    rw [hcontroller]
  drops := run_takes spent halted
  answers {call command given mail} isOpen ready := by
    have hstep := step_answer (numbered.find? isOpen) ready
    let v : Scene ι := { w with bearer := w.bearer.close call }.send mail
    have hinbox : v.bearer.inbox = w.bearer.inbox ++ [mail] := rfl
    have hlength : v.bearer.inbox.length = w.bearer.inbox.length + 1 := List.length_append
    obtain ⟨htakes, -⟩ := run_takes (w := v) spent halted
    have hmail : epitaph [mail] = [.dropped command.request] := by
      rw [epitaph, List.filterMap_cons_some (Command.request?_completion ready)]
      rfl
    rw [run_cons, hstep, ← hlength, htakes, hinbox, ← hmail]
    exact epitaph_append _ _

/-- Once it is over, it is over for good. -/
theorem over_run {w : Scene ι} (spent : w.controller.Spent) (numbered : w.bearer.Numbered)
    (halted : w.bearer.isHalted = true) (acts : List (Act ι)) : (w.run acts).1.Over :=
  over_of_halted (spent_run acts spent) (w.numbered_run acts numbered)
    (isHalted_run spent halted acts)

end Scene

/-! ### What the owner finds -/

namespace Session

/-- A report shows nothing but that requests were dropped. -/
structure Report.Silent (r : Report) : Prop where
  transitions : r.transitions = []
  deferred : r.deferred = []
  ignored : r.ignored = []
  calls : r.calls = []
  notices : r.notices = []
  bringUps : ∀ entry ∈ r.bringUps, entry.2 = .dropped
  tearDowns : ∀ entry ∈ r.tearDowns, entry.2 = .dropped

/-- What the owner of a bearer that has halted finds. -/
structure Closed (s : Session) : Prop where
  ended : s.scene.Over
  /-- Whatever would be sent is refused, wherever it stands in a batch. -/
  refuses : s.handleHeld = true → ∀ before call after, Call.isLocal call = false →
    (s.act (before ++ .call call :: after)).2.1[before.length]? = some (.failed .closed)
  tells : s.handleHeld = true → ∀ before after,
    (s.act (before ++ .call .isClosed :: after)).2.1[before.length]? = some (.closed true)
  unsubscribed : s.isSubscribed = false
  unheard : ∀ result, (s.step (.radioConnected result)).2.result = .delivered false
  silent : ∀ step, (s.step step).2.Silent

theorem silent_of_dropped (s : Session) (result : StepResult) {events : List Event}
    (drops : ∀ event ∈ events, ∃ request, event = .dropped request) :
    (s.conclude result events).2.Silent := by
  have nothing : ∀ {α : Type} (f : Event → Option α), (∀ request, f (.dropped request) = none) →
      events.filterMap f = [] := by
    intro α f hf
    refine List.filterMap_eq_nil_iff.mpr fun event hevent => ?_
    obtain ⟨request, rfl⟩ := drops event hevent
    exact hf request
  refine ⟨nothing _ fun _ => rfl, nothing _ fun _ => rfl, nothing _ fun _ => rfl,
    nothing _ fun _ => rfl, nothing _ fun _ => rfl, fun entry hentry => ?_, fun entry hentry => ?_⟩
  · obtain ⟨n, -, hentry⟩ := List.mem_filterMap.mp hentry
    obtain ⟨resolution, hresolution, rfl⟩ := Option.map_eq_some_iff.mp hentry
    obtain ⟨event, hevent, hfound⟩ := List.exists_of_findSome?_eq_some hresolution
    obtain ⟨request, rfl⟩ := drops event hevent
    cases request with
    | bringUp request =>
      dsimp only at hfound
      split at hfound
      · exact (Option.some.inj hfound).symm
      · cases hfound
    | tearDown request => cases hfound
  · obtain ⟨n, -, hentry⟩ := List.mem_filterMap.mp hentry
    obtain ⟨resolution, hresolution, rfl⟩ := Option.map_eq_some_iff.mp hentry
    obtain ⟨event, hevent, hfound⟩ := List.exists_of_findSome?_eq_some hresolution
    obtain ⟨request, rfl⟩ := drops event hevent
    cases request with
    | bringUp request => cases hfound
    | tearDown request =>
      dsimp only at hfound
      split at hfound
      · exact (Option.some.inj hfound).symm
      · cases hfound

theorem closed_of_halted {s : Session} (rested : s.Rested) (spent : s.bearer.controller.Spent)
    (halted : s.bearer.isHalted = true) : s.Closed where
  ended := Scene.over_of_halted spent rested.numbered halted
  refuses held before call after sends := by
    rw [result_eq, sendAction_held held, halted, sends]
    rfl
  tells held before after := by rw [result_isClosed held, halted]
  unsubscribed := by rw [isSubscribed, halted]; rfl
  unheard result := by
    have hnobody : s.isSubscribed = false := by rw [isSubscribed, halted]; rfl
    rw [step, hnobody]
    rfl
  silent step := by
    obtain ⟨acts, s', result, hstep, -, -⟩ := exists_run_step rested step
    obtain ⟨hevents, -⟩ := Scene.run_of_halted (w := s.scene) spent halted acts
    rw [hstep]
    refine s'.silent_of_dropped result fun event hevent => ?_
    rw [hevents, Scene.epitaph] at hevent
    obtain ⟨request, -, rfl⟩ := List.mem_map.mp hevent
    exact ⟨request, rfl⟩

/-- What the order to stop comes to for the owner of a bearer that works; inquiries before the order
are answered like any others. -/
structure Stops (s : Session) : Prop extends Serves s where
  ordered : s.handleHeld = true → ∀ before after,
    (s.act (before ++ .call .stop :: after)).1.bearer.isHalted = true
  /-- An inquiry behind the order is not answered. -/
  unanswered : s.handleHeld = true → ∀ before between inquiry after,
    (s.act (before ++ .call .stop :: between ++ .call (.inquire inquiry) :: after)).2.1[
      (before ++ .call .stop :: between).length]? = some (.failed .unanswered)
  /-- To drop the handle is to order the bearer to stop. -/
  dropped : (s.step .dropHandle).1.bearer.isHalted = true

/-- A batch with an order to stop leaves the bearer halted, and no inquiry is answered but those
before the order. -/
theorem act_stop {s : Session} (rest : s.bearer.AtRest) (inbox : s.bearer.inbox = [])
    (live : s.bearer.isHalted = false) (held : s.handleHeld = true) (before after : List Action) :
    (s.act (before ++ .call .stop :: after)).1.bearer.isHalted = true ∧
      ∀ number answer,
        Event.answered number answer ∈ (s.act (before ++ .call .stop :: after)).2.2 →
          number < (s.sendAll before).1.inquiries := by
  have hrest : (s.loaded (before ++ .call .stop :: after)).AtRest :=
    rest.of_controller (s.controller_loaded _)
  obtain ⟨behind, hinbox⟩ := inbox_loaded inbox live held before after .stop
  obtain ⟨hend, hanswered⟩ := hrest.settle_stop (s := s.setting) hinbox
  obtain ⟨hbearer, hevents⟩ := s.act_eq (before ++ .call .stop :: after)
  rw [hbearer, hevents]
  refine ⟨hend, fun number answer answered => ?_⟩
  obtain ⟨inquiry, hmem⟩ := hanswered number answer answered
  exact (s.posts_all before).numbers number inquiry hmem

theorem stops {s : Session} (rest : s.bearer.AtRest) (inbox : s.bearer.inbox = [])
    (live : s.bearer.isHalted = false) : s.Stops where
  toServes := serves rest inbox live
  ordered held before after := (act_stop rest inbox live held before after).1
  unanswered held before between inquiry after := by
    have hpending : ((s.sendAll (before ++ .call .stop :: between)).1.sendCall
        (.inquire inquiry)).pending =
          .awaited (s.sendAll (before ++ .call .stop :: between)).1.inquiries := rfl
    -- its number is higher than that of any inquiry before the order
    have hlater : (s.sendAll before).1.inquiries ≤
        (s.sendAll (before ++ .call .stop :: between)).1.inquiries := by
      rw [sendAll_append]
      exact (posts_all _ _).inquiries
    obtain ⟨-, hanswered⟩ := act_stop rest inbox live held before
      (between ++ .call (.inquire inquiry) :: after)
    rw [← List.cons_append, ← List.append_assoc] at hanswered
    rw [result_eq, sendAction_call live held, hpending, Pending.result,
      List.findSome?_eq_none_iff.mpr]
    · rfl
    · intro event hevent
      split
      · next number answer =>
        exact if_neg (Nat.ne_of_lt ((hanswered number answer hevent).trans_le hlater))
      · rfl
  dropped := by
    have hrest : (s.bearer.send [.stop]).AtRest := rest.of_controller rfl
    have hinbox : (s.bearer.send [.stop]).inbox = [] ++ .stop :: [] := by
      show s.bearer.inbox ++ [Mail.stop] = _
      rw [inbox]
    exact (hrest.settle_stop (s := s.setting) hinbox).1

/-- A session that has found its bearer halted finds it so ever after. -/
theorem halted_run {s : Session} (rested : s.Rested) (spent : s.bearer.controller.Spent)
    (halted : s.bearer.isHalted = true) (steps : List Step) : (s.run steps).1.Closed := by
  obtain ⟨acts, hscene, -, hrested⟩ := exists_run rested steps
  have hspent := Scene.spent_run (w := s.scene) acts spent
  have hhalted := Scene.isHalted_run (w := s.scene) spent halted acts
  rw [hscene] at hspent hhalted
  exact closed_of_halted hrested hspent hhalted

end Session

/-! ### Shutdown -/

/-- All that was sent before the order to stop was received before it, in order, and was seen to or
put aside. -/
structure Scene.InOrder {ι : Type} [Interceptor ι] (w : Scene ι) (acts : List (Act ι)) : Prop where
  order : ∃ before, Mail.stop ∉ before ∧ w.received acts = before ++ [.stop] ∧
    w.sent acts = before ++ .stop :: (w.run acts).1.bearer.inbox
  alone : (w.run acts).1.controller.mailbox = [.stop] ∧ (w.run acts).1.controller.outbox = []

/-- A bearer that handles the order to stop has seen to all that was sent before the order, drops
what it has put aside, and is over.  Its owner finds it so: inquiries in front of the order are
answered, those behind it are not, whatever is sent later is refused, and the radio's version is not
heard of any more. -/
theorem stop_is_final {ι : Type} [Interceptor ι] (s : Setting) (i : ι) (acts : List (Act ι))
    {act : Act ι} (told : ((Scene.start s i).run acts).1.Handles act .stop) (setting : Setting)
    (countdown : Option FailureCountdown) (steps : List Session.Step) :
    let w := ((Scene.start s i).run acts).1
    let t := ((Session.start setting countdown).run steps).1
    (Scene.start s i).InOrder acts ∧
      (w.step act).2 = Scene.epitaph w.controller.deferred ∧
      (w.step act).1.controller.phase = w.controller.phase ∧
      (w.step act).1.bearer.inbox = w.bearer.inbox ∧
      (∀ later, ((w.step act).1.run later).1.Over) ∧
      (t.bearer.isHalted = false → t.Stops) ∧
      (t.bearer.isHalted = true → ∀ more, (t.run more).1.Closed) := by
  intro w t
  obtain ⟨rfl, rest, first⟩ := told
  have hattentive : w.controller.Attentive := Scene.attentive_run acts (Scene.attentive_start s i)
  obtain ⟨rfl, houtbox⟩ := hattentive.alone first rfl
  obtain ⟨before, hbefore, hreceived⟩ := Scene.stop_run first
  have hsent : (Scene.start s i).sent acts = before ++ .stop :: w.bearer.inbox := by
    have hall := (Scene.start s i).inbox_run acts
    rw [hreceived, List.append_assoc] at hall
    exact hall
  have hstep := Scene.step_stop first
  refine ⟨⟨⟨before, hbefore, hreceived, hsent⟩, first, houtbox⟩, ?_, ?_, ?_, fun later => ?_,
    fun live => ?_, fun halted more => ?_⟩
  · have hrequests : (w.controller.withMailbox []).requests =
        w.controller.deferred.filterMap Mail.request? := by
      show ([] ++ w.controller.deferred).filterMap Mail.request? ++
        w.controller.outbox.map Command.request = _
      rw [houtbox, List.nil_append, List.map_nil, List.append_nil]
    rw [hstep, hrequests]
    rfl
  · rw [hstep]
    rfl
  · rw [hstep]
    rfl
  · have hspent : (w.step .turn).1.controller.Spent :=
      (w.change_step .turn).spent (Scene.spent_run acts (Scene.spent_start s i))
    have hnumbered : (w.step .turn).1.bearer.Numbered :=
      (w.change_step .turn).numbered (Scene.numbered_run _ acts (Bearer.numbered_start i))
    refine Scene.over_run hspent hnumbered ?_ later
    rw [hstep]
    rfl
  · obtain ⟨hrested, hrest, -⟩ := Session.reached setting countdown steps
    exact Session.stops hrest hrested.inbox live
  · obtain ⟨hrested, -, hspent⟩ := Session.reached setting countdown steps
    exact Session.halted_run hrested hspent halted more

/-- A bearer is told to stop while it is set up and a request waits; more is sent behind. -/
def farewell : List (Act FailureCountdown) :=
  [.ask (.bringUp "a" {}), .take, .turn, .turn, .ask (.bringUp "b" {}), .take, .turn, .stop,
    .ask (.bringUp "c" {}), .inquire .clients, .take]

/-- The request that waits is dropped at once, and all else as it comes.  An owner who asks who is
attached before ordering the bearer to stop is told, and finds a request refused afterwards, as well
as one who has dropped the handle finds the bearer closed. -/
theorem stop_is_final_farewell :
    let w := ((Scene.start .cellular ({} : FailureCountdown)).run farewell).1
    let t := (Session.start .cellular none).run [.dropHandle]
    let u := (Session.start .cellular none).run [.single (.call .stop)]
    (w.Handles .turn .stop ∧ w.controller.deferred.length = 1 ∧ w.bearer.inbox.length = 2 ∧
        w.bearer.openCalls.length = 1) ∧
      (Scene.start .cellular ({} : FailureCountdown)).InOrder farewell ∧
      (w.step .turn).2 = Scene.epitaph w.controller.deferred ∧
      (w.step .turn).1.controller.phase = .settingUp ∧
      (w.step .turn).1.bearer.inbox = w.bearer.inbox ∧
      (∀ later, ((w.step .turn).1.run later).1.Over) ∧
      ((Session.start .cellular none).Stops ∧
        ((Session.start .cellular none).act [.call (.bringUp "a" {}), .call (.inquire .clients),
          .call .stop]).2.1[1]? = some (.answer (.clients ["a"]))) ∧
      (∀ more, (t.1.run more).1.Closed) ∧
      (u.1.handleHeld = true ∧ (∀ more, (u.1.run more).1.Closed) ∧
        (u.1.act [.call (.bringUp "a" {})]).2.1[0]? = some (.failed .closed)) := by
  intro w t u
  have told : w.Handles .turn .stop := ⟨rfl, [], rfl⟩
  obtain ⟨horder, hdrops, hphase, hinbox, hover, hstops, -⟩ :=
    stop_is_final .cellular ({} : FailureCountdown) farewell told .cellular none []
  obtain ⟨-, -, -, -, -, -, hclosed⟩ :=
    stop_is_final .cellular ({} : FailureCountdown) farewell told .cellular none [.dropHandle]
  obtain ⟨-, -, -, -, -, -, hrefused⟩ := stop_is_final .cellular ({} : FailureCountdown) farewell
    told .cellular none [.single (.call .stop)]
  have hstart : (Session.start .cellular none).Stops := hstops rfl
  have hended : ∀ more, (u.1.run more).1.Closed := hrefused (hstart.ordered rfl [] [])
  have hharmless : ∀ mail ∈ [Mail.bringUp ⟨0, "a", {}, 0⟩], mail.Harmless .cellular := by
    intro mail hmail
    rw [List.mem_singleton.mp hmail]
    exact ⟨by rintro ⟨⟩, by rintro request ⟨rfl⟩ ⟨⟩⟩
  have hanswered := hstart.answered rfl [.call (.bringUp "a" {})] .clients [.call .stop] hharmless
  refine ⟨⟨told, rfl, rfl, rfl⟩, horder, hdrops, hphase, hinbox, hover, ⟨hstart, ?_⟩,
    hclosed hstart.dropped, rfl, hended, (hended []).refuses rfl [] (.bringUp "a" {}) [] rfl⟩
  -- the client is attached as soon as the request in front of the inquiry has been seen to
  have hnames : (((Bearer.start (none : Option FailureCountdown)).send
      [.bringUp ⟨0, "a", {}, 0⟩]).settle .cellular).1.controller.connection.clients.names =
        ["a"] := by
    rw [Bearer.settle_one .cellular _ _ rfl, Bearer.take_of_live rfl, Bearer.drive_of_turn rfl,
      Bearer.drive_of_turn rfl, Bearer.drive_of_rest rfl]
    rfl
  exact hanswered.trans
    (congrArg (fun names => some (Session.ActionResult.answer (.clients names))) hnames)

end PacketBearer
