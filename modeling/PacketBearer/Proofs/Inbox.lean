/-
The inbox, and the order to stop.

What is sent to a bearer goes to the end of its inbox, and the bearer takes it from the front when
it rests.  So what it has taken and what it has not yet taken make up all that was sent, in order.
The order to stop is no exception: whatever was sent before it is seen to before it.  Once it is
handled the bearer drops what it has put aside, and then whatever it takes.

* `inbox_run` — what was received and the inbox are what was sent, in order;
* `stop_run` — an order to stop that is handled is the only one, and the last thing received;
* `step_stop` — it halts the bearer in any phase, and what was put aside is dropped;
* `run_of_halted` — from then on all that can be seen is that requests are dropped as they are
  taken.
-/
import PacketBearer.Proofs.Attention

namespace PacketBearer

/-- What is in the mailbox after a reaction was there before, was put aside, or was posted. -/
theorem Controller.mem_mailbox_after {ι : Type} {s : Setting} {m : Controller ι}
    {mail other : Mail} {r : Reaction ι} (h : other ∈ (m.after s mail r).1.mailbox) :
    other ∈ m.mailbox ∨ other ∈ r.posts ∨ other ∈ m.deferred ∨ r.waits = true ∧ other = mail := by
  cases hhalt : r.halt with
  | some halt =>
    rw [after, hhalt] at h
    cases h
  | none =>
    obtain ⟨-, -, hstays, hmoves⟩ := m.after_eq s mail hhalt
    by_cases hnext : r.next = none
    · rw [(hstays hnext).1, List.mem_append] at h
      exact h.imp_right Or.inl
    · rw [(hmoves hnext).1] at h
      rcases List.mem_append.mp h with hwaited | hold
      · rcases List.mem_append.mp hwaited with hdeferred | hnew
        · exact Or.inr (Or.inr (Or.inl hdeferred))
        · split at hnew
          · next hwaits => exact Or.inr (Or.inr (Or.inr ⟨hwaits, List.mem_singleton.mp hnew⟩))
          · cases hnew
      · exact (List.mem_append.mp hold).imp_right Or.inl

namespace Scene

variable {ι : Type}

/-- The mail that is put into the inbox at an act. -/
def sending (w : Scene ι) : Act ι → List Mail
  | .ask wish => [w.mailOf wish]
  | .inquire inquiry => [.inquiry w.inquiries inquiry]
  | .stop => [.stop]
  | .answer call answers =>
    ((w.bearer.openCalls.find? fun c => c.1 == call).bind fun c => c.2.completion? answers).toList
  | .hear _ | .take | .turn | .switchRadio _ | .closeTracker | .rearm _ => []

/-- The mail that is taken from the inbox at an act. -/
def receiving (w : Scene ι) : Act ι → List Mail
  | .take =>
    match w.controller.mailbox, w.controller.outbox with
    | [], [] => w.bearer.inbox.head?.toList
    | _, _ => []
  | _ => []

variable [Interceptor ι]

/-- The mail that is sent in a run, in the order in which it is. -/
def sent (w : Scene ι) : List (Act ι) → List Mail
  | [] => []
  | act :: acts => w.sending act ++ (w.step act).1.sent acts

/-- The mail that is received in a run, in the order in which it is. -/
def received (w : Scene ι) : List (Act ι) → List Mail
  | [] => []
  | act :: acts => w.receiving act ++ (w.step act).1.received acts

theorem received_concat (w : Scene ι) (acts : List (Act ι)) (act : Act ι) :
    w.received (acts ++ [act]) = w.received acts ++ (w.run acts).1.receiving act := by
  induction acts generalizing w with
  | nil => exact List.append_nil _
  | cons first acts ih =>
    rw [List.cons_append, received, ih, received, List.append_assoc]
    rfl

/-! ### Conservation -/

omit [Interceptor ι] in
theorem receiving_of_resting {w : Scene ι} (resting : w.Resting) :
    w.receiving .take = w.bearer.inbox.head?.toList := by
  rw [receiving, resting.1, resting.2]

omit [Interceptor ι] in
theorem receiving_of_busy {w : Scene ι} (busy : ¬ w.Resting) : w.receiving .take = [] := by
  rw [receiving]
  split
  · next hmailbox houtbox => exact absurd ⟨hmailbox, houtbox⟩ busy
  · rfl

omit [Interceptor ι] in
theorem inbox_accept (b : Bearer ι) (mail : Mail) : (b.accept mail).1.inbox = b.inbox := by
  rw [Bearer.accept]
  split <;> rfl

/-- An act puts mail at the end of the inbox, or takes it from the front. -/
theorem inbox_step (w : Scene ι) (act : Act ι) :
    w.bearer.inbox ++ w.sending act = w.receiving act ++ (w.step act).1.bearer.inbox := by
  have untouched : ∀ {w' : Scene ι}, w'.bearer.inbox = w.bearer.inbox →
      w.bearer.inbox ++ [] = [] ++ w'.bearer.inbox := by
    intro w' h
    rw [h, List.append_nil, List.nil_append]
  cases act with
  | ask wish => cases wish <;> rfl
  | inquire | stop => rfl
  | hear result =>
    refine untouched ?_
    by_cases resting : w.Resting
    · rw [step_hear resting]
      exact inbox_accept w.bearer _
    · rw [step_hear_of_busy resting]
  | answer call answers =>
    rw [sending, step]
    cases w.bearer.openCalls.find? fun c => c.1 == call with
    | none => exact untouched rfl
    | some found =>
      dsimp only [Option.bind_some]
      cases found.2.completion? answers with
      | none => exact untouched rfl
      | some mail => rfl
  | take =>
    by_cases resting : w.Resting
    · rw [receiving_of_resting resting]
      cases hinbox : w.bearer.inbox with
      | nil =>
        rw [step_take_of_nil hinbox, hinbox]
        rfl
      | cons mail rest =>
        rw [step_take resting hinbox]
        show _ = [mail] ++ ((w.bearer.withInbox rest).accept mail).1.inbox
        rw [inbox_accept]
        exact List.append_nil _
    · rw [receiving_of_busy resting, step_take_of_busy resting]
      exact untouched rfl
  | turn =>
    refine untouched ?_
    rw [step]
    cases hturn : w.bearer.turn w.setting with
    | none => rfl
    | some next => exact Bearer.inbox_turn hturn
  | switchRadio | closeTracker | rearm => exact untouched rfl

/-- What was received and the inbox are what was sent, in order. -/
theorem inbox_run (w : Scene ι) (acts : List (Act ι)) :
    w.bearer.inbox ++ w.sent acts = w.received acts ++ (w.run acts).1.bearer.inbox := by
  induction acts generalizing w with
  | nil => exact List.append_nil _
  | cons act acts ih =>
    rw [sent, received, run_cons, ← List.append_assoc, inbox_step, List.append_assoc, ih,
      List.append_assoc]

/-! ### The order to stop -/

variable {w w' : Scene ι} {act : Act ι} {events : List Event}

/-- The order to stop halts the bearer in any phase, and what was put aside is dropped. -/
theorem step_stop {rest : List Mail} (first : w.controller.mailbox = .stop :: rest) :
    w.step .turn = (w.withController (w.controller.halted .told),
      (w.controller.withMailbox rest).requests.map Event.dropped) := by
  obtain ⟨r, hr, -, hstep⟩ := step_turn first
  rw [hstep, ← hr]
  rfl

/-- The order to stop comes into the mailbox only when it is taken from the inbox. -/
theorem Change.stop_notMem (h : Change w act w' events) (attentive : w.controller.Attentive)
    (other : act ≠ .take) (before : Mail.stop ∉ w.controller.mailbox) :
    Mail.stop ∉ w'.controller.mailbox := by
  cases h with
  | still | inquired | stopSent | answered | switched | trackerClosed | rearmed => exact before
  | asked wish => cases wish <;> exact before
  | taken | refused => exact absurd rfl other
  | heard result resting =>
    have hmailbox : (w.controller.post (.radioConnected result)).mailbox =
        [.radioConnected result] := congrArg (· ++ _) resting.1
    show Mail.stop ∉ (w.controller.post (.radioConnected result)).mailbox
    rw [hmailbox]
    intro hmem
    cases List.mem_singleton.mp hmem
  | @handled mail rest r first rule =>
    intro hmem
    rcases Controller.mem_mailbox_after hmem with hrest | hpost | hdeferred | ⟨hwaits, rfl⟩
    · rw [first] at before
      exact before (List.mem_cons_of_mem _ hrest)
    · cases rule.isAnswer_of_mem_posts hpost
    · cases attentive.waiting _ hdeferred
    · cases (rule.busy_of_waits hwaits).2
  | dispatched empty =>
    obtain ⟨purposes, hcontroller⟩ :=
      Bearer.controller_dispatchAll w.setting w.bearer.clearOutbox w.controller.outbox
    rw [controller, hcontroller]
    intro hmem
    rcases List.mem_append.mp hmem with hold | hnew
    · exact before hold
    · obtain ⟨purpose, -, hpurpose⟩ := List.mem_map.mp hnew
      cases hpurpose

/-- The order to stop has not been received, or it is the last thing received and the only one to
be handled. -/
def Bidden (w : Scene ι) (received : List Mail) : Prop :=
  (Mail.stop ∉ received ∧ Mail.stop ∉ w.controller.mailbox) ∨
    ∃ before, received = before ++ [.stop] ∧ Mail.stop ∉ before ∧ w.controller.mailbox = [.stop]

theorem bidden_step {received : List Mail} (attentive : w.controller.Attentive)
    (live : (w.step act).1.bearer.isHalted = false) (bidden : w.Bidden received) :
    (w.step act).1.Bidden (received ++ w.receiving act) := by
  by_cases htake : act = .take
  · subst htake
    by_cases resting : w.Resting
    · -- a bearer that rests has not been told to stop, and may be by the next piece of mail
      have hbefore : Mail.stop ∉ received := by
        rcases bidden with ⟨hnone, -⟩ | ⟨before, -, -, hmailbox⟩
        · exact hnone
        · rw [resting.1] at hmailbox
          cases hmailbox
      rw [receiving_of_resting resting]
      cases hinbox : w.bearer.inbox with
      | nil =>
        rw [step_take_of_nil hinbox]
        refine Or.inl ⟨?_, ?_⟩
        · rw [List.head?_nil, Option.toList_none, List.append_nil]
          exact hbefore
        · rw [resting.1]
          exact List.not_mem_nil
      | cons mail rest =>
        rw [step_take resting hinbox] at live ⊢
        have hlive : ¬ (w.bearer.withInbox rest).isHalted = true := by
          intro halted
          rw [Bearer.accept, if_pos halted] at live
          exact Bool.eq_false_iff.mp live halted
        have hmailbox : ((w.bearer.withInbox rest).accept mail).1.controller.mailbox = [mail] := by
          rw [Bearer.accept, if_neg hlive]
          exact congrArg (· ++ [mail]) resting.1
        by_cases hstop : mail = .stop
        · rw [hstop] at hmailbox ⊢
          exact Or.inr ⟨received, rfl, hbefore, hmailbox⟩
        · refine Or.inl ⟨fun hmem => ?_, fun hmem => ?_⟩
          · rcases List.mem_append.mp hmem with hold | hnew
            · exact hbefore hold
            · exact hstop (List.mem_singleton.mp hnew).symm
          · rw [show (Scene.controller _).mailbox = [mail] from hmailbox] at hmem
            exact hstop (List.mem_singleton.mp hmem).symm
    · rw [receiving_of_busy resting, step_take_of_busy resting, List.append_nil]
      exact bidden
  · have hnothing : w.receiving act = [] := by
      cases act with
      | take => exact absurd rfl htake
      | _ => rfl
    rw [hnothing, List.append_nil]
    rcases bidden with ⟨hnone, hmailbox⟩ | ⟨before, hreceived, hbefore, hmailbox⟩
    · exact Or.inl ⟨hnone, (w.change_step act).stop_notMem attentive htake hmailbox⟩
    · -- all that can happen to the order is that it is handled
      refine Or.inr ⟨before, hreceived, hbefore, ?_⟩
      have hturn : act ≠ .turn := by
        rintro rfl
        rw [step_stop hmailbox] at live
        cases live
      have hchange := w.change_step act
      generalize (w.step act).1 = w', (w.step act).2 = events at hchange ⊢
      cases hchange with
      | still | inquired | stopSent | answered | switched | trackerClosed | rearmed =>
        exact hmailbox
      | asked wish => cases wish <;> exact hmailbox
      | taken | refused => exact absurd rfl htake
      | heard result resting =>
        rw [resting.1] at hmailbox
        cases hmailbox
      | handled | dispatched => exact absurd rfl hturn

/-- An order to stop that is handled is the only one received, and the last thing; it is alone. -/
theorem stop_run {s : Setting} {i : ι} {acts : List (Act ι)} {rest : List Mail}
    (first : ((start s i).run acts).1.controller.mailbox = .stop :: rest) :
    ∃ before, Mail.stop ∉ before ∧ (start s i).received acts = before ++ [.stop] := by
  have hbidden : ∀ acts : List (Act ι), ((start s i).run acts).1.bearer.isHalted = false →
      ((start s i).run acts).1.Bidden ((start s i).received acts) := by
    intro acts
    induction acts using List.reverseRecOn with
    | nil => exact fun _ => Or.inl ⟨List.not_mem_nil, List.not_mem_nil⟩
    | append_singleton acts act ih =>
      intro live
      rw [run_concat] at live ⊢
      rw [received_concat]
      have hbefore := ih ((((start s i).run acts).1.change_step act).live live)
      exact bidden_step (attentive_run acts (attentive_start s i)) live hbefore
  rcases hbidden acts (live_of_mailbox first) with ⟨-, hnone⟩ | ⟨before, hreceived, hbefore, -⟩
  · rw [first] at hnone
    exact absurd List.mem_cons_self hnone
  · exact ⟨before, hbefore, hreceived⟩

/-! ### The end -/

/-- What a bearer that has halted shows of a piece of mail that it takes. -/
def epitaph (mails : List Mail) : List Event :=
  (mails.filterMap Mail.request?).map Event.dropped

theorem epitaph_append (first second : List Mail) :
    epitaph (first ++ second) = epitaph first ++ epitaph second := by
  rw [epitaph, List.filterMap_append, List.map_append]
  rfl

/-- A bearer that has halted drops a piece of mail as it takes it. -/
theorem step_take_of_halted {mail : Mail} {rest : List Mail} (spent : w.controller.Spent)
    (halted : w.bearer.isHalted = true) (first : w.bearer.inbox = mail :: rest) :
    w.step .take = (w.withBearer (w.bearer.withInbox rest), epitaph [mail]) := by
  obtain ⟨hmailbox, -, houtbox⟩ := spent halted
  have hsame : (w.bearer.withInbox rest).accept mail =
      (w.bearer.withInbox rest, (mail.request?.map Event.dropped).toList) := if_pos halted
  rw [step_take ⟨hmailbox, houtbox⟩ first, hsame]
  cases mail <;> rfl

/-- From the end on an act changes nothing in the record, and shows what it drops. -/
theorem step_of_halted (spent : w.controller.Spent) (halted : w.bearer.isHalted = true)
    (act : Act ι) :
    (w.step act).2 = epitaph (w.receiving act) ∧
      ∃ interceptor, (w.step act).1.controller = { w.controller with interceptor } := by
  obtain ⟨hmailbox, -, houtbox⟩ := spent halted
  have resting : w.Resting := ⟨hmailbox, houtbox⟩
  cases act with
  | take =>
    rw [receiving_of_resting resting]
    cases hinbox : w.bearer.inbox with
    | nil =>
      rw [step_take_of_nil hinbox]
      exact ⟨rfl, w.controller.interceptor, rfl⟩
    | cons mail rest =>
      rw [step_take_of_halted spent halted hinbox]
      exact ⟨rfl, w.controller.interceptor, rfl⟩
  | hear result =>
    have hsame : w.bearer.accept (.radioConnected result) = (w.bearer, []) := if_pos halted
    rw [step_hear resting, hsame]
    exact ⟨rfl, w.controller.interceptor, rfl⟩
  | turn =>
    rw [step_turn_of_rest resting]
    exact ⟨rfl, w.controller.interceptor, rfl⟩
  | answer call given =>
    have hchange := w.change_step (.answer call given)
    generalize (w.step (.answer call given)).1 = w', (w.step (.answer call given)).2 = events at *
    cases hchange with
    | still => exact ⟨rfl, w.controller.interceptor, rfl⟩
    | answered => exact ⟨rfl, w.controller.interceptor, rfl⟩
  | ask wish => cases wish <;> exact ⟨rfl, w.controller.interceptor, rfl⟩
  | rearm interceptor => exact ⟨rfl, interceptor, rfl⟩
  | inquire | stop | switchRadio | closeTracker => exact ⟨rfl, w.controller.interceptor, rfl⟩

/-- A bearer that has halted drops what it takes, and nothing else can be seen of it. -/
theorem run_of_halted (spent : w.controller.Spent) (halted : w.bearer.isHalted = true)
    (acts : List (Act ι)) :
    (w.run acts).2 = epitaph (w.received acts) ∧
      ∃ interceptor, (w.run acts).1.controller = { w.controller with interceptor } := by
  induction acts generalizing w with
  | nil => exact ⟨rfl, w.controller.interceptor, rfl⟩
  | cons act acts ih =>
    obtain ⟨hevents, interceptor, hcontroller⟩ := step_of_halted spent halted act
    have hhalted : (w.step act).1.bearer.isHalted = true := by
      rw [Bearer.isHalted, show (w.step act).1.bearer.controller = _ from hcontroller]
      exact halted
    obtain ⟨hlater, last, hlast⟩ := ih ((w.change_step act).spent spent) hhalted
    refine ⟨?_, last, ?_⟩
    · rw [run_cons, hevents, hlater, received, epitaph_append]
    · rw [run_cons, hlast, hcontroller]

/-- What has halted does not work again. -/
theorem isHalted_run (spent : w.controller.Spent) (halted : w.bearer.isHalted = true)
    (acts : List (Act ι)) : (w.run acts).1.bearer.isHalted = true := by
  obtain ⟨-, interceptor, hcontroller⟩ := run_of_halted spent halted acts
  rw [Bearer.isHalted, show (w.run acts).1.bearer.controller = _ from hcontroller]
  exact halted

/-- With as many takes as there is mail in its inbox a bearer that has halted drops all of it. -/
theorem run_takes (spent : w.controller.Spent) (halted : w.bearer.isHalted = true) :
    (w.run (List.replicate w.bearer.inbox.length .take)).2 = epitaph w.bearer.inbox ∧
      (w.run (List.replicate w.bearer.inbox.length .take)).1.bearer.inbox = [] := by
  induction hinbox : w.bearer.inbox generalizing w with
  | nil => exact ⟨rfl, hinbox⟩
  | cons mail rest ih =>
    obtain ⟨hlater, hend⟩ := ih (w := w.withBearer (w.bearer.withInbox rest)) spent halted rfl
    rw [List.length_cons, List.replicate_succ, run_cons, step_take_of_halted spent halted hinbox]
    refine ⟨?_, hend⟩
    rw [hlater, ← epitaph_append]
    rfl

end Scene

end PacketBearer
