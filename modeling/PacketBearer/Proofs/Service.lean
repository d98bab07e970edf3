/-
What a bearer does for its owner as long as it works.

The actions of a batch are all sent before the bearer takes any of them, and then it sees to them in
order.  So an inquiry is answered by what was sent in front of it: what is sent behind it makes no
difference, not even the order to stop.  The owner of a bearer that works is never refused, and the
bearer listens for the radio's version as long as there is somebody to report it.

* `Rule.live_of_harmless` — mail that halts no bearer;
* `settle_append` — a bearer sees to the first part of its inbox as if there were no other;
* `AtRest.settle` — it answers the inquiries in its inbox, and nothing else;
* `AtRest.settle_inquiry` — and each by the record as it is when the inquiry is reached;
* `result_eq` — an action of a batch is sent in the session that the actions before it have left;
* `serves` — what the owner finds, inquiries and all.
-/
import PacketBearer.Proofs.Quiescence

namespace PacketBearer

/-! ### Bearers that do the same -/

namespace Bearer

section

variable {ι : Type} {s : Setting} {b b' c : Bearer ι} {now : List Event}

/-- Two bearers that do the same: only what they have been sent and which calls are open may
differ. -/
structure Akin (b b' : Bearer ι) : Prop where
  controller : b.controller = b'.controller
  calls : b.calls = b'.calls

theorem Akin.trans {b'' : Bearer ι} (first : b.Akin b') (second : b'.Akin b'') : b.Akin b'' :=
  ⟨first.controller.trans second.controller, first.calls.trans second.calls⟩

theorem Akin.dispatch (h : b.Akin b') (command : Command) :
    (b.dispatch s command).1.Akin (b'.dispatch s command).1 ∧
      (b.dispatch s command).2 = (b'.dispatch s command).2 := by
  have hcall : (b.call command).1.Akin (b'.call command).1 ∧
      (b.call command).2 = (b'.call command).2 := by
    refine ⟨⟨h.controller, congrArg (· + 1) h.calls⟩, ?_⟩
    rw [Bearer.call, Bearer.call, h.calls]
  rw [dispatch.eq_def, dispatch.eq_def]
  split
  · next purpose _ =>
    exact ⟨⟨congrArg (Controller.post · (.releaseDone purpose)) h.controller, h.calls⟩, rfl⟩
  · exact hcall

theorem Akin.dispatchAll (h : b.Akin b') (commands : List Command) :
    (b.dispatchAll s commands).1.Akin (b'.dispatchAll s commands).1 ∧
      (b.dispatchAll s commands).2 = (b'.dispatchAll s commands).2 := by
  induction commands generalizing b b' with
  | nil => exact ⟨h, rfl⟩
  | cons command commands ih =>
    obtain ⟨hafter, hnow⟩ := h.dispatch (s := s) command
    obtain ⟨hend, hlater⟩ := ih hafter
    refine ⟨hend, ?_⟩
    rw [Bearer.dispatchAll, Bearer.dispatchAll]
    dsimp only
    rw [hnow, hlater]

variable [Interceptor ι]

theorem Akin.turn (h : b.Akin b') (turn : b.turn s = some (c, now)) :
    ∃ c', b'.turn s = some (c', now) ∧ c.Akin c' := by
  cases hmailbox : b.controller.mailbox with
  | cons mail rest =>
    rw [turn_of_cons hmailbox] at turn
    cases turn
    rw [turn_of_cons (h.controller ▸ hmailbox), ← h.controller]
    exact ⟨_, rfl, rfl, h.calls⟩
  | nil =>
    by_cases hnone : b.controller.outbox = []
    · rw [turn_eq_none_iff.mpr ⟨hmailbox, hnone⟩] at turn
      cases turn
    · have hclear : b.clearOutbox.Akin b'.clearOutbox :=
        ⟨congrArg (fun m => { m with outbox := [] }) h.controller, h.calls⟩
      obtain ⟨hafter, hnow⟩ := hclear.dispatchAll (s := s) b.controller.outbox
      rw [turn_of_nil hmailbox hnone] at turn
      obtain ⟨rfl, rfl⟩ := Prod.mk.inj (Option.some.inj turn)
      rw [turn_of_nil (h.controller ▸ hmailbox) (h.controller ▸ hnone), ← h.controller]
      exact ⟨_, congrArg some (Prod.ext rfl hnow.symm), hafter⟩

theorem Akin.drive (h : b.Akin b') :
    (b.drive s).1.Akin (b'.drive s).1 ∧ (b.drive s).2 = (b'.drive s).2 := by
  fun_induction Bearer.drive s b generalizing b' with
  | case1 b hrest =>
    rw [turn_eq_none_iff, h.controller, ← turn_eq_none_iff] at hrest
    rw [drive_of_rest hrest]
    exact ⟨h, rfl⟩
  | case2 b c now hturn _ c' later hdrive ih =>
    obtain ⟨d, hturn', hafter⟩ := h.turn hturn
    obtain ⟨hend, hlater⟩ := ih hafter
    rw [hdrive] at hend hlater
    rw [drive_of_turn hturn', ← hlater]
    exact ⟨hend, rfl⟩

theorem Akin.take (h : b.Akin b') (mail : Mail) :
    (b.take s mail).1.Akin (b'.take s mail).1 ∧ (b.take s mail).2 = (b'.take s mail).2 := by
  rw [Bearer.take, Bearer.take, isHalted, isHalted, h.controller]
  split
  · exact ⟨h, rfl⟩
  · exact Akin.drive ⟨rfl, h.calls⟩

/-- Bearers that have been sent the same, too, do the same with it. -/
theorem Akin.settle (h : b.Akin b') (inbox : b.inbox = b'.inbox) :
    (b.settle s).1.Akin (b'.settle s).1 ∧ (b.settle s).2 = (b'.settle s).2 := by
  induction hinbox : b.inbox generalizing b b' with
  | nil =>
    rw [settle_of_inbox s hinbox, settle_of_inbox s (inbox.symm.trans hinbox)]
    exact ⟨h, rfl⟩
  | cons mail rest ih =>
    have hrest : (b.withInbox rest).Akin (b'.withInbox rest) := ⟨h.controller, h.calls⟩
    obtain ⟨hafter, hnow⟩ := hrest.take (s := s) mail
    have hkept := (b.withInbox rest).inbox_take s mail
    obtain ⟨hend, hlater⟩ :=
      ih hafter (hkept.trans ((b'.withInbox rest).inbox_take s mail).symm) hkept
    rw [settle_of_cons s hinbox, settle_of_cons s (inbox.symm.trans hinbox), hnow, hlater]
    exact ⟨hend, rfl⟩

/-- A bearer sees to the first part of its inbox as if there were no other. -/
theorem settle_append {front rest : List Mail} (inbox : b.inbox = front ++ rest) :
    ∃ b' : Bearer ι, b'.inbox = rest ∧ b'.Akin ((b.withInbox front).settle s).1 ∧
      b.settle s = ((b'.settle s).1, ((b.withInbox front).settle s).2 ++ (b'.settle s).2) := by
  induction front generalizing b with
  | nil =>
    rw [settle_of_inbox s (b := b.withInbox []) rfl]
    exact ⟨b, inbox, ⟨rfl, rfl⟩, rfl⟩
  | cons mail front ih =>
    rw [List.cons_append] at inbox
    -- the mail is taken alike, whatever else is in the inbox
    have hsame : (b.withInbox (front ++ rest)).Akin (b.withInbox front) := ⟨rfl, rfl⟩
    obtain ⟨hafter, hnow⟩ := hsame.take (s := s) mail
    obtain ⟨b', hinbox, hakin, hsettle⟩ := ih ((b.withInbox (front ++ rest)).inbox_take s mail)
    have hfront : (((b.withInbox (front ++ rest)).take s mail).1.withInbox front).Akin
        ((b.withInbox front).take s mail).1 := ⟨hafter.controller, hafter.calls⟩
    obtain ⟨hend, hlater⟩ := hfront.settle (s := s) ((b.withInbox front).inbox_take s mail).symm
    refine ⟨b', hinbox, ?_, ?_⟩
    · rw [settle_of_cons s (b := b.withInbox (mail :: front)) rfl]
      exact hakin.trans hend
    · rw [settle_of_cons s inbox, hsettle,
        settle_of_cons s (b := b.withInbox (mail :: front)) rfl, hnow, hlater, List.append_assoc]
      rfl

end

end Bearer

/-! ### A bearer that works through its inbox -/

/-- Mail that halts no bearer: it is not the order to stop, and no bring-up whose order cannot be
expressed. -/
structure Mail.Harmless (s : Setting) (mail : Mail) : Prop where
  proceeds : mail ≠ .stop
  ordered : ∀ request, mail = .bringUp request →
    s.technology.orderFor? request.accessPoint ≠ none

theorem Mail.harmless_of_isAnswer {s : Setting} {mail : Mail} (h : mail.isAnswer = true) :
    mail.Harmless s where
  proceeds := by
    rintro rfl
    cases h
  ordered := by
    rintro request rfl
    cases h

section

variable {ι : Type} [Interceptor ι] {s : Setting} {b b' : Bearer ι} {mail : Mail} {number : Nat}
  {answer : Answer}

/-- Mail that halts no bearer does not halt this one. -/
theorem Rule.live_of_harmless {c : Connection} {i : ι} {p : Phase} {r : Reaction ι}
    (h : Rule s c i p mail r) (harmless : mail.Harmless s) : r.halt = none := by
  cases h with
  | impossible order => exact absurd order (harmless.ordered _ rfl)
  | stops => exact absurd rfl harmless.proceeds
  | _ => rfl

/-- A reaction answers the inquiry that is handled. -/
theorem Rule.inquiry_of_answered {c : Connection} {i : ι} {p : Phase} {r : Reaction ι}
    (h : Rule s c i p mail r) (answered : Event.answered number answer ∈ r.events) :
    ∃ inquiry, mail = .inquiry number inquiry := by
  cases h with
  | @answers _ _ inquiry =>
    cases List.mem_singleton.mp answered
    exact ⟨inquiry, rfl⟩
  | resets =>
    cases List.mem_singleton.mp answered
    exact ⟨.reset, rfl⟩
  | ignores =>
    rcases List.mem_cons.mp answered with hignored | hdropped
    · cases hignored
    · obtain ⟨request, -, hrequest⟩ := Option.map_eq_some_iff.mp (Option.mem_toList.mp hdropped)
      cases hrequest
  | joins | vacuous | strange | leaves =>
    rcases List.mem_cons.mp answered with hhandled | hlast
    · cases hhandled
    · cases List.mem_singleton.mp hlast
  | waits | impossible | intercepted | ordered | releases => cases List.mem_singleton.mp answered
  | fails | asks | accepts | refuses | released | hears | stops => cases answered

omit [Interceptor ι] in
/-- An answer that can be seen of a reaction is the reaction's own. -/
theorem Controller.answered_after {m : Controller ι} {r : Reaction ι}
    (answered : Event.answered number answer ∈ (m.after s mail r).2) :
    Event.answered number answer ∈ r.events := by
  rcases Controller.mem_after answered with
    hown | ⟨-, _, hdropped⟩ | ⟨-, _, _, -, hmoved | hentered⟩
  · exact hown
  · cases hdropped
  · cases hmoved
  · rcases Connection.mem_enter hentered with ⟨_, _, h⟩ | ⟨_, h⟩ | ⟨_, h⟩ | ⟨_, h⟩ <;> cases h

namespace Bearer

/-- What a controller holds after a turn it has held before, but for answers in the radio's
place. -/
theorem mem_of_turn {now : List Event} (h : b.turn s = some (b', now)) {other : Mail}
    (mem : other ∈ b'.controller.deferred ++ b'.controller.mailbox) :
    other ∈ b.controller.deferred ++ b.controller.mailbox ∨ other.isAnswer = true := by
  rcases turn_cases h with ⟨mail, rest, r, first, hrule, rfl, -⟩ | ⟨empty, -, rfl, -⟩
  · rw [first]
    cases hhalt : r.halt with
    | some halt =>
      rw [Controller.after, hhalt] at mem
      cases mem
    | none =>
      -- looked at alone, so that the inbox does not count
      have hheld : other ∈ (Bearer.withController { controller := b.controller.withMailbox rest }
          ((b.controller.withMailbox rest).after s mail r).1).mails :=
        List.mem_append_left _ mem
      rcases mem_mails_after hhalt hheld with ⟨-, rfl⟩ | hpost | hold
      · exact Or.inl (List.mem_append_right _ List.mem_cons_self)
      · exact Or.inr (hrule.isAnswer_of_mem_posts hpost)
      · rw [mails, List.append_nil] at hold
        refine Or.inl ((List.mem_append.mp hold).elim (List.mem_append_left _) fun hrest => ?_)
        exact List.mem_append_right _ (List.mem_cons_of_mem _ hrest)
  · obtain ⟨purposes, hcontroller⟩ :=
      controller_dispatchAll s b.clearOutbox b.controller.outbox
    rw [hcontroller] at mem
    rcases List.mem_append.mp mem with hdeferred | hmailbox
    · exact Or.inl (List.mem_append_left _ hdeferred)
    · rcases List.mem_append.mp hmailbox with hold | hnew
      · exact Or.inl (List.mem_append_right _ hold)
      · obtain ⟨purpose, -, rfl⟩ := List.mem_map.mp hnew
        exact Or.inr rfl

/-- A bearer answers the inquiries that its controller holds. -/
theorem answered_drive (b : Bearer ι)
    (answered : Event.answered number answer ∈ (b.drive s).2) :
    ∃ inquiry, .inquiry number inquiry ∈ b.controller.deferred ++ b.controller.mailbox := by
  fun_induction Bearer.drive s b with
  | case1 => cases answered
  | case2 b b' now h _ b'' later hdrive ih =>
    rcases List.mem_append.mp answered with hnow | hlater
    · rcases turn_cases h with ⟨mail, rest, r, first, hrule, -, rfl⟩ | ⟨-, -, -, rfl⟩
      · obtain ⟨inquiry, rfl⟩ := hrule.inquiry_of_answered (Controller.answered_after hnow)
        rw [first]
        exact ⟨inquiry, List.mem_append_right _ List.mem_cons_self⟩
      · obtain ⟨call, command, -, hcalled⟩ := called_of_mem_dispatchAll hnow
        cases hcalled
    · rw [hdrive] at ih
      obtain ⟨inquiry, hmem⟩ := ih hlater
      rcases mem_of_turn h hmem with hold | hanswer
      · exact ⟨inquiry, hold⟩
      · cases hanswer

/-- What no turn spoils holds still when nothing is left to do. -/
theorem holds_drive {P : Bearer ι → Prop}
    (turns : ∀ {b b' : Bearer ι} {now : List Event}, b.turn s = some (b', now) → P b → P b')
    (b : Bearer ι) (h : P b) : P (b.drive s).1 := by
  fun_induction Bearer.drive s b with
  | case1 => exact h
  | case2 b b' now hturn _ b'' later hdrive ih =>
    have hlater := ih (turns hturn h)
    rw [hdrive] at hlater
    exact hlater

/-- A bearer between two pieces of mail. -/
structure AtRest (b : Bearer ι) : Prop where
  mailbox : b.controller.mailbox = []
  outbox : b.controller.outbox = []
  attentive : b.controller.Attentive

omit [Interceptor ι] in
theorem AtRest.of_controller (h : b.AtRest) (same : b'.controller = b.controller) : b'.AtRest :=
  ⟨by rw [same]; exact h.mailbox, by rw [same]; exact h.outbox, by rw [same]; exact h.attentive⟩

omit [Interceptor ι] in
/-- The mail that a bearer takes is all that it has to handle. -/
theorem AtRest.mailbox_post (h : b.AtRest) (mail : Mail) :
    (b.withController (b.controller.post mail)).controller.mailbox = [mail] :=
  congrArg (· ++ [mail]) h.mailbox

/-- A bearer that takes a piece of mail comes to rest again, and answers nothing else. -/
theorem AtRest.take (h : b.AtRest) (mail : Mail) :
    (b.take s mail).1.AtRest ∧ ∀ number answer, Event.answered number answer ∈ (b.take s mail).2 →
      ∃ inquiry, mail = .inquiry number inquiry := by
  cases hhalted : b.isHalted with
  | true =>
    rw [Bearer.take, if_pos hhalted]
    refine ⟨h, fun number answer answered => ?_⟩
    obtain ⟨request, -, hrequest⟩ := Option.map_eq_some_iff.mp (Option.mem_toList.mp answered)
    cases hrequest
  | false =>
    have hposted := h.attentive.post h.mailbox h.outbox mail
    obtain ⟨hmailbox, houtbox⟩ :=
      turn_eq_none_iff.mp (turn_drive s (b.withController (b.controller.post mail)))
    rw [take_of_live hhalted]
    refine ⟨⟨hmailbox, houtbox, holds_drive (P := fun b => b.controller.Attentive)
      (fun hturn hb => (turn_calls hturn hb).1) _ hposted⟩, fun number answer answered => ?_⟩
    obtain ⟨inquiry, hmem⟩ := answered_drive _ answered
    refine ⟨inquiry, ?_⟩
    rw [h.mailbox_post] at hmem
    rcases List.mem_append.mp hmem with hdeferred | hmailbox
    · cases h.attentive.waiting _ hdeferred
    · exact (List.mem_singleton.mp hmailbox).symm

/-- A bearer sees to its inbox, and answers the inquiries in it at most. -/
theorem AtRest.settle (h : b.AtRest) :
    (b.settle s).1.AtRest ∧ ∀ number answer, Event.answered number answer ∈ (b.settle s).2 →
      ∃ inquiry, .inquiry number inquiry ∈ b.inbox := by
  induction hinbox : b.inbox generalizing b with
  | nil =>
    rw [settle_of_inbox s hinbox]
    exact ⟨h, fun number answer answered => absurd answered List.not_mem_nil⟩
  | cons mail rest ih =>
    have hrest : (b.withInbox rest).AtRest := h.of_controller rfl
    obtain ⟨hafter, hnow⟩ := hrest.take (s := s) mail
    obtain ⟨hend, hlater⟩ := ih hafter ((b.withInbox rest).inbox_take s mail)
    rw [settle_of_cons s hinbox]
    refine ⟨hend, fun number answer answered => ?_⟩
    rcases List.mem_append.mp answered with hfirst | hothers
    · obtain ⟨inquiry, rfl⟩ := hnow number answer hfirst
      exact ⟨inquiry, List.mem_cons_self⟩
    · obtain ⟨inquiry, hmem⟩ := hlater number answer hothers
      exact ⟨inquiry, List.mem_cons_of_mem _ hmem⟩

/-- A bearer that takes an inquiry answers it, by the record as it is then. -/
theorem AtRest.take_inquiry (h : b.AtRest) (live : b.isHalted = false) (number : Nat)
    (inquiry : Inquiry) :
    ∃ later, (b.take s (.inquiry number inquiry)).2 = .answered number
      (b.controller.connection.answer s b.controller.phase inquiry).1 :: later := by
  rw [take_of_live live, drive_of_turn (turn_of_cons (h.mailbox_post _)), Controller.handle]
  dsimp only
  split
  · next hhalt => cases hhalt
  · exact ⟨_, rfl⟩
  · exact ⟨_, rfl⟩

/-- A bearer that hears of the radio's version remembers it. -/
theorem AtRest.take_version (h : b.AtRest) (live : b.isHalted = false)
    (result : Except RadioError Int32) :
    (b.take s (.radioConnected result)).1.controller.connection.radioVersion =
      result.toOption.getD (-1) := by
  rw [take_of_live live, drive_of_turn (turn_of_cons (h.mailbox_post _)), drive_of_rest]
  · rfl
  · exact turn_eq_none_iff.mpr ⟨rfl, (List.append_nil _).trans h.outbox⟩

/-- A bearer that works, and whose controller holds nothing that could halt it. -/
structure Safe (s : Setting) (b : Bearer ι) : Prop where
  live : b.isHalted = false
  held : ∀ mail ∈ b.controller.deferred ++ b.controller.mailbox, mail.Harmless s

theorem Safe.turn {now : List Event} (h : b.Safe s) (turn : b.turn s = some (b', now)) :
    b'.Safe s := by
  refine ⟨?_, fun mail mem => ?_⟩
  · rcases turn_cases turn with ⟨mail, rest, r, first, hrule, rfl, -⟩ | ⟨-, -, rfl, -⟩
    · have hmail : mail ∈ b.controller.deferred ++ b.controller.mailbox := by
        rw [first]
        exact List.mem_append_right _ List.mem_cons_self
      exact Controller.live_after_iff.mpr ⟨hrule.live_of_harmless (h.held mail hmail), h.live⟩
    · obtain ⟨purposes, hcontroller⟩ := controller_dispatchAll s b.clearOutbox b.controller.outbox
      rw [isHalted, hcontroller]
      exact h.live
  · rcases mem_of_turn turn mem with hold | hanswer
    · exact h.held mail hold
    · exact Mail.harmless_of_isAnswer hanswer

theorem Safe.take (h : b.Safe s) (harmless : mail.Harmless s) : (b.take s mail).1.Safe s := by
  rw [take_of_live h.live]
  refine holds_drive (P := fun b => b.Safe s) (fun hturn hb => hb.turn hturn) _
    ⟨h.live, fun other mem => ?_⟩
  have hmem : other ∈ b.controller.deferred ++ (b.controller.mailbox ++ [mail]) := mem
  rw [← List.append_assoc] at hmem
  rcases List.mem_append.mp hmem with hold | hnew
  · exact h.held other hold
  · rw [List.mem_singleton.mp hnew]
    exact harmless

/-- A bearer that is sent nothing that could halt it works on. -/
theorem Safe.settle (h : b.Safe s) (harmless : ∀ mail ∈ b.inbox, mail.Harmless s) :
    (b.settle s).1.Safe s := by
  induction hinbox : b.inbox generalizing b with
  | nil =>
    rw [settle_of_inbox s hinbox]
    exact h
  | cons mail rest ih =>
    rw [hinbox] at harmless
    obtain ⟨hmail, hrest⟩ := List.forall_mem_cons.mp harmless
    have hsafe : (b.withInbox rest).Safe s := ⟨h.live, h.held⟩
    have hkept : ((b.withInbox rest).take s mail).1.inbox = rest :=
      (b.withInbox rest).inbox_take s mail
    rw [settle_of_cons s hinbox]
    refine ih (hsafe.take hmail) ?_ hkept
    rw [hkept]
    exact hrest

/-- An inquiry is answered by the record as it is when all that is in front of the inquiry has been
seen to. -/
theorem AtRest.settle_inquiry (h : b.AtRest) {front behind : List Mail} {inquiry : Inquiry}
    (inbox : b.inbox = front ++ .inquiry number inquiry :: behind)
    (live : ((b.withInbox front).settle s).1.isHalted = false) :
    let m := ((b.withInbox front).settle s).1.controller
    ∃ later, (b.settle s).2 = ((b.withInbox front).settle s).2 ++
      .answered number (m.connection.answer s m.phase inquiry).1 :: later := by
  intro m
  have hfront : (b.withInbox front).AtRest := h.of_controller rfl
  obtain ⟨hend, -⟩ := hfront.settle (s := s)
  obtain ⟨b', hinbox, hakin, hsettle⟩ := settle_append (s := s) inbox
  have hrest : (b'.withInbox behind).AtRest := hend.of_controller hakin.controller
  have hlive : (b'.withInbox behind).isHalted = false :=
    (congrArg Controller.isHalted hakin.controller).trans live
  obtain ⟨later, htake⟩ := hrest.take_inquiry (s := s) hlive number inquiry
  rw [show (b'.withInbox behind).controller = m from hakin.controller] at htake
  rw [hsettle, settle_of_cons s hinbox, htake]
  exact ⟨_, rfl⟩

end Bearer

end

/-! ### What the owner finds -/

namespace Session

/-- What sending leaves alone, and the numbers that it gives. -/
structure Posts (s s' : Session) (mail : List Mail) : Prop where
  handleHeld : s'.handleHeld = s.handleHeld
  setting : s'.setting = s.setting
  akin : s'.bearer.Akin s.bearer
  inbox : s'.bearer.inbox = s.bearer.inbox
  inquiries : s.inquiries ≤ s'.inquiries
  numbers : ∀ number inquiry, Mail.inquiry number inquiry ∈ mail → number < s'.inquiries

variable {s s' s'' : Session} {mail mail' : List Mail}

theorem Posts.append (first : Posts s s' mail) (second : Posts s' s'' mail') :
    Posts s s'' (mail ++ mail') where
  handleHeld := second.handleHeld.trans first.handleHeld
  setting := second.setting.trans first.setting
  akin := second.akin.trans first.akin
  inbox := second.inbox.trans first.inbox
  inquiries := first.inquiries.trans second.inquiries
  numbers number inquiry h := by
    rcases List.mem_append.mp h with hfirst | hsecond
    · exact (first.numbers number inquiry hfirst).trans_le second.inquiries
    · exact second.numbers number inquiry hsecond

theorem posts_nothing (s : Session) : Posts s s [] :=
  ⟨rfl, rfl, ⟨rfl, rfl⟩, rfl, le_rfl, fun _ _ h => absurd h List.not_mem_nil⟩

theorem posts_action (s : Session) (action : Action) :
    Posts s (s.sendAction action).session (s.sendAction action).mail := by
  -- only the mail of an inquiry has a number that matters
  have other : ∀ {s' : Session} {message : Mail}, s'.handleHeld = s.handleHeld →
      s'.setting = s.setting → s'.bearer = s.bearer → s'.inquiries = s.inquiries →
      (∀ number inquiry, message ≠ .inquiry number inquiry) → Posts s s' [message] :=
    fun handleHeld setting bearer inquiries kind => ⟨handleHeld, setting,
      ⟨congrArg Bearer.controller bearer, congrArg Bearer.calls bearer⟩,
      congrArg Bearer.inbox bearer, inquiries.ge, fun number inquiry h =>
        absurd (List.mem_singleton.mp h).symm (kind number inquiry)⟩
  cases action with
  | call call =>
    rw [sendAction, useHandle]
    split
    · exact s.posts_nothing
    · split
      · exact s.posts_nothing
      · cases call with
        | inquire inquiry =>
          refine ⟨rfl, rfl, ⟨rfl, rfl⟩, rfl, Nat.le_succ _, fun number other h => ?_⟩
          cases List.mem_singleton.mp h
          exact Nat.lt_succ_self _
        | isClosed => exact s.posts_nothing
        | redial call =>
          exact ⟨rfl, rfl, ⟨rfl, rfl⟩, rfl, le_rfl, fun _ _ h => absurd h List.not_mem_nil⟩
        | bringUp | tearDown | tearDownAll | stop =>
          exact other rfl rfl rfl rfl (by rintro _ _ ⟨⟩)
  | respond choice given =>
    rw [sendAction, respond]
    split
    · exact s.posts_nothing
    · split
      · exact s.posts_nothing
      · exact ⟨rfl, rfl, ⟨rfl, rfl⟩, rfl, le_rfl, fun _ _ h => absurd h List.not_mem_nil⟩

theorem posts_all (s : Session) (actions : List Action) :
    Posts s (s.sendAll actions).1 (s.sendAll actions).2.2.1 := by
  induction actions generalizing s with
  | nil => exact s.posts_nothing
  | cons action actions ih => exact (s.posts_action action).append (ih _)

theorem Posts.isHalted (h : Posts s s' mail) : s'.bearer.isHalted = s.bearer.isHalted :=
  congrArg Controller.isHalted h.akin.controller

theorem sendAll_append (s : Session) (first second : List Action) :
    s.sendAll (first ++ second) =
      (((s.sendAll first).1.sendAll second).1,
        (s.sendAll first).2.1 ++ ((s.sendAll first).1.sendAll second).2.1,
        (s.sendAll first).2.2.1 ++ ((s.sendAll first).1.sendAll second).2.2.1,
        (s.sendAll first).2.2.2 ++ ((s.sendAll first).1.sendAll second).2.2.2) := by
  induction first generalizing s with
  | nil => rfl
  | cons action first ih =>
    rw [List.cons_append, sendAll, ih, sendAll]
    simp only [List.cons_append, List.append_assoc]

theorem length_sendAll (s : Session) (actions : List Action) :
    (s.sendAll actions).2.1.length = actions.length := by
  induction actions generalizing s with
  | nil => rfl
  | cons action actions ih => exact congrArg (· + 1) (ih _)

/-- An action is sent in the session that the actions before it have left. -/
theorem pending_eq (s : Session) (before after : List Action) (action : Action) :
    (s.sendAll (before ++ action :: after)).2.1[before.length]? =
      some ((s.sendAll before).1.sendAction action).pending := by
  rw [sendAll_append]
  dsimp only
  rw [List.getElem?_append_right (s.length_sendAll before).le, length_sendAll, Nat.sub_self]
  rfl

/-- What an action of a batch results in. -/
theorem result_eq (s : Session) (before after : List Action) (action : Action) :
    (s.act (before ++ action :: after)).2.1[before.length]? =
      some (((s.sendAll before).1.sendAction action).pending.result
        (s.act (before ++ action :: after)).2.2) := by
  have hresults : (s.act (before ++ action :: after)).2.1 =
      (s.sendAll (before ++ action :: after)).2.1.map
        (Pending.result (s.act (before ++ action :: after)).2.2) := rfl
  rw [hresults, List.getElem?_map, pending_eq]
  rfl

/-- What holds of a session between two steps. -/
theorem reached (setting : Setting) (countdown : Option FailureCountdown) (steps : List Step) :
    let t := ((start setting countdown).run steps).1
    t.Rested ∧ t.bearer.AtRest ∧ t.bearer.controller.Spent := by
  intro t
  obtain ⟨acts, hscene, -, hrested⟩ := exists_run (rested_start setting countdown) steps
  have hattentive := Scene.attentive_run acts (Scene.attentive_start setting countdown)
  have hspent := Scene.spent_run acts (Scene.spent_start setting countdown)
  rw [show (Scene.start setting countdown).run acts =
    (start setting countdown).scene.run acts from rfl, hscene] at hattentive hspent
  exact ⟨hrested, ⟨hrested.resting.1, hrested.resting.2, hattentive⟩, hspent⟩

/-! ### Batches of a bearer that works -/

/-- What a call other than an inquiry sends, and what the owner is told of it at once. -/
inductive Call.SentAs : Call → Mail → ActionResult → Prop
  | bringUp (number : Nat) (client : String) (accessPoint : AccessPoint) :
    SentAs (.bringUp client accessPoint) (.bringUp { number, client, accessPoint }) (.sent number)
  | tearDown (number : Nat) (client reason : String) :
    SentAs (.tearDown client reason) (.tearDown { number, client := some client, reason })
      (.sent number)
  | tearDownAll (number : Nat) (reason : String) :
    SentAs (.tearDownAll reason) (.tearDown { number, client := none, reason }) (.sent number)
  | stop : SentAs .stop .stop .done

/-- What a bearer that works does for its owner. -/
structure Serves (s : Session) : Prop where
  /-- The bearer hears of the radio's version as long as the source of such events exists. -/
  subscribed : s.isSubscribed = s.sourceOpen
  heard : ∀ result, (s.step (.radioConnected result)).2.result = .delivered s.sourceOpen ∧
    (s.sourceOpen = true →
      (s.step (.radioConnected result)).1.bearer.controller.connection.radioVersion =
        result.toOption.getD (-1))
  tells : s.handleHeld = true → ∀ before after,
    (s.act (before ++ .call .isClosed :: after)).2.1[before.length]? = some (.closed false)
  /-- Requests and the order to stop are sent, wherever they stand in a batch. -/
  sends : s.handleHeld = true → ∀ before call after, Call.isLocal call = false →
    (∀ inquiry, call ≠ .inquire inquiry) → ∃ mail result, call.SentAs mail result ∧
      mail ∈ (s.sendAll (before ++ .call call :: after)).2.2.1 ∧
      (s.act (before ++ .call call :: after)).2.1[before.length]? = some result
  /-- An inquiry is answered, whatever is behind it, by the record as it is when all that is in
  front of it has been seen to, unless something there could halt the bearer. -/
  answered : s.handleHeld = true → ∀ before inquiry after,
    (∀ mail ∈ s.bearer.controller.deferred ++ (s.sendAll before).2.2.1,
      mail.Harmless s.setting) →
      let m := ((s.sendAll before).1.settle (s.sendAll before).2.2.1).1.bearer.controller
      (s.act (before ++ .call (.inquire inquiry) :: after)).2.1[before.length]? =
        some (.answer (m.connection.answer s.setting m.phase inquiry).1)

/-- A handle that is held refuses what would have to be sent, if the bearer has halted. -/
theorem sendAction_held (held : s.handleHeld = true) (before : List Action) (call : Call) :
    (s.sendAll before).1.sendAction (.call call) =
      if s.bearer.isHalted && !call.isLocal then
        { session := (s.sendAll before).1, pending := .known (.failed .closed) }
      else (s.sendAll before).1.sendCall call := by
  have hbefore := s.posts_all before
  rw [sendAction, useHandle, hbefore.handleHeld, hbefore.isHalted, held]
  rfl

/-- The handle of a bearer that works sends what it is used for. -/
theorem sendAction_call (live : s.bearer.isHalted = false) (held : s.handleHeld = true)
    (before : List Action) (call : Call) :
    (s.sendAll before).1.sendAction (.call call) = (s.sendAll before).1.sendCall call := by
  rw [sendAction_held held, live]
  rfl

/-- The handle tells whether the bearer has halted, wherever in a batch it is asked. -/
theorem result_isClosed (held : s.handleHeld = true) (before after : List Action) :
    (s.act (before ++ .call .isClosed :: after)).2.1[before.length]? =
      some (.closed s.bearer.isHalted) := by
  have hlocal : (s.bearer.isHalted && !Call.isLocal .isClosed) = false := Bool.and_false _
  rw [result_eq, sendAction_held held, hlocal, ← (s.posts_all before).isHalted]
  rfl

/-- The mail of a call is behind that of the calls before it. -/
theorem mail_sendAll (live : s.bearer.isHalted = false) (held : s.handleHeld = true)
    (before after : List Action) (call : Call) :
    ∃ behind, (s.sendAll (before ++ .call call :: after)).2.2.1 =
      (s.sendAll before).2.2.1 ++ (((s.sendAll before).1.sendCall call).mail ++ behind) := by
  rw [sendAll_append, sendAll, sendAction_call live held]
  exact ⟨_, rfl⟩

/-- The bearer as it starts on a batch: all of it has been sent. -/
def loaded (s : Session) (actions : List Action) : Bearer (Option FailureCountdown) :=
  (s.sendAll actions).1.bearer.send ((s.sendAll actions).2.2.1 ++ (s.sendAll actions).2.2.2)

theorem controller_loaded (s : Session) (actions : List Action) :
    (s.loaded actions).controller = s.bearer.controller :=
  (s.posts_all actions).akin.controller

/-- To act is to see to all that has been sent. -/
theorem act_eq (s : Session) (actions : List Action) :
    (s.act actions).1.bearer = ((s.loaded actions).settle s.setting).1 ∧
      (s.act actions).2.2 = ((s.loaded actions).settle s.setting).2 := by
  rw [← (s.posts_all actions).setting]
  exact ⟨rfl, rfl⟩

theorem inbox_loaded (inbox : s.bearer.inbox = []) (live : s.bearer.isHalted = false)
    (held : s.handleHeld = true) (before after : List Action) (call : Call) :
    ∃ behind, (s.loaded (before ++ .call call :: after)).inbox =
      (s.sendAll before).2.2.1 ++ (((s.sendAll before).1.sendCall call).mail ++ behind) := by
  have hposts := s.posts_all (before ++ .call call :: after)
  obtain ⟨behind, hmail⟩ := mail_sendAll live held before after call
  refine ⟨behind ++ (s.sendAll (before ++ .call call :: after)).2.2.2, ?_⟩
  rw [loaded, Bearer.send, hposts.inbox, inbox, hmail, List.nil_append, List.append_assoc,
    List.append_assoc]

theorem sent_call (live : s.bearer.isHalted = false) (held : s.handleHeld = true)
    (before after : List Action) {call : Call} (sends : call.isLocal = false)
    (other : ∀ inquiry, call ≠ .inquire inquiry) :
    ∃ mail result, call.SentAs mail result ∧
      mail ∈ (s.sendAll (before ++ .call call :: after)).2.2.1 ∧
      (s.act (before ++ .call call :: after)).2.1[before.length]? = some result := by
  have hsent : ∃ mail result, call.SentAs mail result ∧
      ((s.sendAll before).1.sendCall call).mail = [mail] ∧
      ((s.sendAll before).1.sendCall call).pending = .known result := by
    cases call with
    | bringUp client accessPoint => exact ⟨_, _, .bringUp _ client accessPoint, rfl, rfl⟩
    | tearDown client reason => exact ⟨_, _, .tearDown _ client reason, rfl, rfl⟩
    | tearDownAll reason => exact ⟨_, _, .tearDownAll _ reason, rfl, rfl⟩
    | stop => exact ⟨_, _, .stop, rfl, rfl⟩
    | inquire inquiry => exact absurd rfl (other inquiry)
    | isClosed | redial => cases sends
  obtain ⟨mail, result, hsentAs, hmail, hpending⟩ := hsent
  obtain ⟨behind, hall⟩ := mail_sendAll live held before after call
  refine ⟨mail, result, hsentAs, ?_, ?_⟩
  · rw [hall, hmail]
    exact List.mem_append_right _ List.mem_cons_self
  · rw [result_eq, sendAction_call live held, hpending]
    rfl

/-- The first answer with a number is the one that counts. -/
theorem result_awaited {number : Nat} {answer : Answer} {earlier later : List Event}
    (first : ∀ other, Event.answered number other ∉ earlier) :
    (Pending.awaited number).result (earlier ++ .answered number answer :: later) =
      .answer answer := by
  rw [Pending.result, List.findSome?_append, List.findSome?_eq_none_iff.mpr]
  · simp
  · intro event hevent
    split
    · next other answer =>
      refine if_neg fun hsame => first answer ?_
      rw [← hsame]
      exact hevent
    · rfl

theorem answered_inquiry (rest : s.bearer.AtRest) (inbox : s.bearer.inbox = [])
    (live : s.bearer.isHalted = false) (held : s.handleHeld = true) (before : List Action)
    (inquiry : Inquiry) (after : List Action)
    (harmless : ∀ mail ∈ s.bearer.controller.deferred ++ (s.sendAll before).2.2.1,
      mail.Harmless s.setting) :
    let m := ((s.sendAll before).1.settle (s.sendAll before).2.2.1).1.bearer.controller
    (s.act (before ++ .call (.inquire inquiry) :: after)).2.1[before.length]? =
      some (.answer (m.connection.answer s.setting m.phase inquiry).1) := by
  intro m
  let front := (s.sendAll before).2.2.1
  let number := (s.sendAll before).1.inquiries
  let b := s.loaded (before ++ .call (.inquire inquiry) :: after)
  have hbefore := s.posts_all before
  have hposts := s.posts_all (before ++ .call (.inquire inquiry) :: after)
  obtain ⟨behind, hinbox⟩ := inbox_loaded inbox live held before after (.inquire inquiry)
  -- what is in front of the inquiry is seen to as if it were alone
  have rest' : b.AtRest := rest.of_controller (s.controller_loaded _)
  have hsafe : (b.withInbox front).Safe s.setting := by
    refine ⟨(hposts.isHalted :).trans live, fun mail mem => harmless mail ?_⟩
    rw [show (b.withInbox front).controller = s.bearer.controller from hposts.akin.controller,
      rest.mailbox, List.append_nil] at mem
    exact List.mem_append_left _ mem
  have halone : ((b.withInbox front).settle s.setting).1.controller = m := by
    have hakin : (b.withInbox front).Akin ((s.sendAll before).1.bearer.send front) :=
      ⟨hposts.akin.controller.trans hbefore.akin.controller.symm,
        hposts.akin.calls.trans hbefore.akin.calls.symm⟩
    have hsame : (b.withInbox front).inbox = ((s.sendAll before).1.bearer.send front).inbox := by
      show front = (s.sendAll before).1.bearer.inbox ++ front
      rw [hbefore.inbox, inbox, List.nil_append]
    refine ((hakin.settle hsame).1.controller).trans ?_
    show _ = (((s.sendAll before).1.bearer.send front).settle
      (s.sendAll before).1.setting).1.controller
    rw [hbefore.setting]
  have hlive := (hsafe.settle fun mail mem => harmless mail (List.mem_append_right _ mem)).live
  obtain ⟨later, hsettle⟩ := rest'.settle_inquiry hinbox hlive
  rw [halone] at hsettle
  obtain ⟨-, hevents⟩ := s.act_eq (before ++ .call (.inquire inquiry) :: after)
  have hpending : ((s.sendAll before).1.sendCall (.inquire inquiry)).pending = .awaited number :=
    rfl
  rw [result_eq, sendAction_call live held, hpending, hevents, hsettle, result_awaited]
  -- the inquiries in front have lower numbers
  intro other hother
  have hfront : (b.withInbox front).AtRest := rest'.of_controller rfl
  obtain ⟨inquiry', hmem⟩ := hfront.settle.2 number other hother
  exact absurd (hbefore.numbers number inquiry' hmem) (Nat.lt_irrefl _)

theorem serves (rest : s.bearer.AtRest) (inbox : s.bearer.inbox = [])
    (live : s.bearer.isHalted = false) : s.Serves where
  subscribed := by rw [isSubscribed, live]; rfl
  heard result := by
    have hsubscribed : s.isSubscribed = s.sourceOpen := by rw [isSubscribed, live]; rfl
    refine ⟨congrArg StepResult.delivered hsubscribed, fun sourceOpen => ?_⟩
    rw [step, hsubscribed, sourceOpen]
    show ((s.bearer.send [.radioConnected result]).settle
      s.setting).1.controller.connection.radioVersion = _
    rw [Bearer.settle_one s.setting s.bearer _ inbox]
    exact rest.take_version live result
  tells held before after := by rw [result_isClosed held, live]
  sends held before call after sends other := sent_call live held before after sends other
  answered held before inquiry after harmless :=
    answered_inquiry rest inbox live held before inquiry after harmless

end Session

end PacketBearer
