/-
Set-ups that are made to fail.

A countdown answers the next set-ups in the radio's place.  Its answer is not handled specially: it
waits in the mailbox behind the requests that were put aside before, and is looked at like an answer
of the radio.  But while it waits the bearer does nothing else than put these requests aside once
more (`Leads`), whatever happens around it.  A failure for no cause is no failure, though: the
answer then reads like a success without addresses, and the bearer has the radio release it.

* `interceptor_run` — each admission uses up one failure, and nothing else does;
* `Faces.leads` — what a busy bearer is about to do comes next, after nothing but deferrals;
* `fails_in_turn` — so after the countdown is armed exactly as many admissions fail as it says, with
  its cause, in turn and without the radio, if there is a cause; all others reach the radio;
* `causeless_released` — where there is none the radio is told to release a bearer.
-/
import PacketBearer.Proofs.Outcome
import PacketBearer.Proofs.Quiescence

namespace PacketBearer

/-! ### Counting down -/

/-- A bring-up is admitted: the bearer is idle and handles it. -/
def Event.isAdmission : Event → Bool
  | .handled .idle (.bringUp _) => true
  | _ => false

/-- How many bring-ups have been admitted. -/
def admissions (events : List Event) : Nat := events.countP Event.isAdmission

theorem admissions_append (first second : List Event) :
    admissions (first ++ second) = admissions first + admissions second :=
  List.countP_append

theorem admissions_eq_zero {events : List Event}
    (h : ∀ event ∈ events, event.isAdmission = false) : admissions events = 0 :=
  List.countP_eq_zero.mpr fun event hevent => by rw [h event hevent]; exact Bool.false_ne_true

namespace FailureCountdown

/-- The countdown after a number of set-ups. -/
def after (c : FailureCountdown) (n : Nat) : FailureCountdown :=
  { c with remaining := UInt32.ofNat (c.remaining.toNat - n) }

@[simp] theorem after_zero (c : FailureCountdown) : c.after 0 = c := by
  rw [after, Nat.sub_zero, UInt32.ofNat_toNat]

theorem toNat_after (c : FailureCountdown) (n : Nat) :
    (c.after n).remaining.toNat = c.remaining.toNat - n := by
  have hlt := c.remaining.toNat_lt
  rw [after, UInt32.toNat_ofNat']
  exact Nat.mod_eq_of_lt (by omega)

theorem after_after (c : FailureCountdown) (m n : Nat) :
    (c.after m).after n = c.after (m + n) := by
  have hremaining := c.toNat_after m
  rw [after, hremaining, Nat.sub_sub]
  rfl

/-- A set-up is answered as long as failures are left, and uses one of them up. -/
theorem intercept_eq (version : Int32) (c : FailureCountdown) :
    c.intercept version =
      (if c.remaining = 0 then none else some (.failure version c.cause c.suggestedRetry),
        c.after 1) := by
  rw [intercept]
  split
  · next hnone =>
    have hsame : c.after 1 = c := by
      rw [after, hnone]
      exact congrArg (fun n => { c with remaining := n }) hnone.symm
    rw [hsame]
  · next hsome =>
    have hpos : 1 ≤ c.remaining.toNat :=
      Nat.one_le_iff_ne_zero.mpr fun hzero => hsome (UInt32.toNat_inj.mp hzero)
    rw [after, UInt32.ofNat_sub hpos, UInt32.ofNat_toNat]
    rfl

end FailureCountdown

/-! ### Admissions -/

section

variable {ι : Type} [Interceptor ι] {s : Setting} {m : Controller ι} {mail : Mail} {r : Reaction ι}

omit [Interceptor ι] in
/-- What is admitted by a reaction is admitted by the reaction itself. -/
theorem Controller.admissions_after (s : Setting) (m : Controller ι) (mail : Mail)
    (r : Reaction ι) : admissions (m.after s mail r).2 = admissions r.events := by
  rw [after]
  cases r.halt with
  | some halt =>
    have hdropped : admissions (m.requests.map Event.dropped) = 0 := by
      refine admissions_eq_zero fun event hevent => ?_
      obtain ⟨request, -, rfl⟩ := List.mem_map.mp hevent
      rfl
    exact (admissions_append _ _).trans (congrArg (_ + ·) hdropped)
  | none =>
    cases r.next with
    | none => rfl
    | some next =>
      have hentered : admissions (.moved m.phase next.1 ::
          (r.connection.enter s next.1 next.2).2) = 0 := by
        refine admissions_eq_zero fun event hevent => ?_
        rcases List.mem_cons.mp hevent with rfl | hentered
        · rfl
        · rcases Connection.mem_enter hentered with ⟨_, _, rfl⟩ | ⟨_, rfl⟩ | ⟨_, rfl⟩ | ⟨_, rfl⟩
          · rfl
          · rfl
          · rfl
          · rfl
      exact (admissions_append _ _).trans (congrArg (_ + ·) hentered)

/-- A reaction admits a bring-up if it intercepts it or orders it of the radio. -/
theorem Rule.admits {c : Connection} {i : ι} {p : Phase} {request : BringUp}
    (h : Rule s c i p mail r) (admitted : Event.handled .idle (.bringUp request) ∈ r.events) :
    p = .idle ∧ r.halt = none ∧ r.next = some (.settingUp, .quiet) ∧
      request.generation = r.connection.generation ∧
      ∃ order, (∃ reply, (Interceptor.intercept order c.radioVersion i).1 = some reply ∧
          r.posts = [.setUpDone request (.ok reply)] ∧ r.commands = []) ∨
        (Interceptor.intercept order c.radioVersion i).1 = none ∧
          r.posts = [] ∧ r.commands = [.setUp order request] := by
  cases h with
  | @intercepted _ order reply i' ordered caught =>
    cases List.mem_singleton.mp admitted
    exact ⟨rfl, rfl, rfl, rfl, order, Or.inl ⟨reply, by rw [caught], rfl, rfl⟩⟩
  | @ordered _ order i' ordered passed =>
    cases List.mem_singleton.mp admitted
    exact ⟨rfl, rfl, rfl, rfl, order, Or.inr ⟨by rw [passed], rfl, rfl⟩⟩
  | ignores =>
    rcases List.mem_cons.mp admitted with hignored | hdropped
    · cases hignored
    · obtain ⟨request, -, hrequest⟩ := Option.map_eq_some_iff.mp (Option.mem_toList.mp hdropped)
      cases hrequest
  | joins | vacuous | strange | leaves =>
    rcases List.mem_cons.mp admitted with hhandled | hlast
    · cases hhandled
    · cases List.mem_singleton.mp hlast
  | waits | impossible | releases | answers | resets => cases List.mem_singleton.mp admitted
  | fails | asks | accepts | refuses | released | hears | stops => cases admitted

/-- A reaction that halts the controller leaves the interceptor alone. -/
theorem Rule.interceptor_of_halt {c : Connection} {i : ι} {p : Phase} (h : Rule s c i p mail r)
    (halts : r.halt ≠ none) : r.interceptor = i := by
  cases h with
  | impossible | stops => rfl
  | _ => exact absurd rfl halts

end

/-- Each admission uses up one failure. -/
theorem Rule.interceptor_eq {s : Setting} {c : Connection} {i : FailureCountdown} {p : Phase}
    {mail : Mail} {r : Reaction FailureCountdown} (h : Rule s c i p mail r) :
    r.interceptor = i.after (admissions r.events) := by
  cases h with
  | intercepted ordered caught =>
    exact (congrArg Prod.snd caught).symm.trans (congrArg Prod.snd (i.intercept_eq _))
  | ordered ordered passed =>
    exact (congrArg Prod.snd passed).symm.trans (congrArg Prod.snd (i.intercept_eq _))
  | ignores =>
    have hnone : admissions (ignore c i mail).events = 0 := by
      refine admissions_eq_zero fun event hevent => ?_
      rcases List.mem_cons.mp hevent with rfl | hdropped
      · rfl
      · obtain ⟨request, -, rfl⟩ := Option.map_eq_some_iff.mp (Option.mem_toList.mp hdropped)
        rfl
    rw [hnone]
    exact i.after_zero.symm
  | _ => exact i.after_zero.symm

namespace Scene

variable {w w' : Scene FailureCountdown} {act : Act FailureCountdown} {events : List Event}

theorem Change.interceptor_eq (h : Change w act w' events)
    (armed : ∀ c, act ≠ .rearm c) :
    w'.controller.interceptor = w.controller.interceptor.after (admissions events) := by
  have same : ∀ {events : List Event}, (∀ event ∈ events, event.isAdmission = false) →
      w.controller.interceptor = w.controller.interceptor.after (admissions events) := by
    intro events hevents
    rw [admissions_eq_zero hevents, FailureCountdown.after_zero]
  cases h with
  | @handled mail rest r first rule =>
    have hrule := rule.interceptor_eq
    rw [Controller.admissions_after, ← hrule]
    show (Controller.after _ _ _ _).1.interceptor = _
    rw [Controller.after]
    cases hhalt : r.halt with
    | some halt =>
      have hhalts : r.halt ≠ none := by
        rw [hhalt]
        exact Option.some_ne_none halt
      exact (rule.interceptor_of_halt hhalts).symm
    | none => cases r.next <;> rfl
  | dispatched empty =>
    obtain ⟨purposes, hcontroller⟩ :=
      Bearer.controller_dispatchAll w.setting w.bearer.clearOutbox w.controller.outbox
    have hcalls : ∀ event ∈ (w.bearer.clearOutbox.dispatchAll w.setting w.controller.outbox).2,
        event.isAdmission = false := by
      intro event hevent
      obtain ⟨call, command, -, rfl⟩ := Bearer.called_of_mem_dispatchAll hevent
      rfl
    rw [← same hcalls, controller, hcontroller]
    rfl
  | refused first halted =>
    refine same fun event hevent => ?_
    obtain ⟨request, -, rfl⟩ := Option.map_eq_some_iff.mp (Option.mem_toList.mp hevent)
    rfl
  | rearmed c => exact absurd rfl (armed c)
  | asked wish => cases wish <;> exact same fun _ hevent => absurd hevent List.not_mem_nil
  | _ => exact same fun _ hevent => absurd hevent List.not_mem_nil

theorem interceptor_run (w : Scene FailureCountdown) {acts : List (Act FailureCountdown)}
    (armed : ∀ c, .rearm c ∉ acts) :
    (w.run acts).1.controller.interceptor =
      w.controller.interceptor.after (admissions (w.run acts).2) := by
  induction acts generalizing w with
  | nil => exact w.controller.interceptor.after_zero.symm
  | cons act acts ih =>
    have hfirst := (w.change_step act).interceptor_eq fun c hact =>
      armed c (by rw [hact]; exact List.mem_cons_self)
    rw [run_cons, ih _ fun c hmem => armed c (List.mem_cons_of_mem _ hmem), hfirst,
      FailureCountdown.after_after, admissions_append]

end Scene

/-! ### What comes next -/

/-- What a bearer is about to do as soon as the requests before it are put aside. -/
structure Errand where
  phase : Phase
  connection : Connection
  mail : List Mail
  commands : List Command
  /-- The number of the next call. -/
  calls : Nat

namespace Scene

variable {ι : Type}

/-- The bearer is about to go on an errand; these requests are before it. -/
structure Faces (w : Scene ι) (e : Errand) (requests : List Mail) : Prop where
  phase : w.controller.phase = e.phase
  connection : w.controller.connection = e.connection
  mailbox : w.controller.mailbox = requests ++ e.mail
  outbox : w.controller.outbox = e.commands
  calls : w.bearer.calls = e.calls
  waiting : ∀ mail ∈ requests, mail.isRequest = true

variable [Interceptor ι]

/-- Whatever happens, nothing but deferrals can be seen until these events are; and the bearer gets
to them by itself. -/
structure Leads (w : Scene ι) (next : List Event) : Prop where
  always : ∀ acts, ∃ waits rest, (w.run acts).2 = waits ++ rest ∧
    (∀ event ∈ waits, event.isDeferral = true) ∧ (rest = [] ∨ ∃ more, rest = next ++ more)
  reached : ∃ n waits, (w.run (List.replicate n .turn)).2 = waits ++ next ∧
    ∀ event ∈ waits, event.isDeferral = true

variable {w : Scene ι} {e : Errand} {requests : List Mail} {act : Act ι}

/-- What is about to be done is not put off by anything that happens around the bearer. -/
theorem Faces.stays (h : w.Faces e requests) (something : e.mail ≠ [] ∨ e.commands ≠ [])
    (around : act ≠ .turn) : (w.step act).2 = [] ∧ (w.step act).1.Faces e requests := by
  have hbusy : ¬ w.Resting := by
    rintro ⟨hmailbox, houtbox⟩
    rw [h.mailbox, List.append_eq_nil_iff] at hmailbox
    exact something.elim (fun hmail => hmail hmailbox.2)
      fun hcommands => hcommands (h.outbox.symm.trans houtbox)
  cases act with
  | turn => exact absurd rfl around
  | take =>
    rw [step_take_of_busy hbusy]
    exact ⟨rfl, h⟩
  | hear result =>
    rw [step_hear_of_busy hbusy]
    exact ⟨rfl, h⟩
  | ask wish =>
    cases wish <;>
      exact ⟨rfl, h.phase, h.connection, h.mailbox, h.outbox, h.calls, h.waiting⟩
  | answer call given =>
    have hchange := w.change_step (.answer call given)
    generalize (w.step (.answer call given)).1 = w', (w.step (.answer call given)).2 = events at *
    cases hchange with
    | still => exact ⟨rfl, h⟩
    | answered => exact ⟨rfl, h.phase, h.connection, h.mailbox, h.outbox, h.calls, h.waiting⟩
  | inquire | stop | switchRadio | closeTracker | rearm =>
    exact ⟨rfl, h.phase, h.connection, h.mailbox, h.outbox, h.calls, h.waiting⟩

/-- A request in front of it is put aside. -/
theorem Faces.defers {mail : Mail} (h : w.Faces e (mail :: requests))
    (busy : e.phase.isBusy = true) :
    (w.step .turn).2 = [.deferred mail.kind] ∧ (w.step .turn).1.Faces e requests := by
  have first : w.controller.mailbox = mail :: (requests ++ e.mail) := h.mailbox
  obtain ⟨r, -, hrule, hstep⟩ := step_turn first
  obtain rfl : r = wait w.controller.connection w.controller.interceptor mail :=
    hrule.eq_wait (by rw [h.phase]; exact busy) (h.waiting mail List.mem_cons_self)
  have hafter :=
    Controller.after_wait w.setting (w.controller.withMailbox (requests ++ e.mail)) mail
  rw [hstep, show (w.controller.withMailbox (requests ++ e.mail)).after w.setting mail
    (wait w.controller.connection w.controller.interceptor mail) = _ from hafter]
  exact ⟨rfl, h.phase, h.connection, rfl, h.outbox, h.calls,
    fun other hother => h.waiting other (List.mem_cons_of_mem _ hother)⟩

/-- What a busy bearer is about to do comes next, after nothing but deferrals. -/
theorem Faces.leads {next : List Event} (h : w.Faces e requests) (busy : e.phase.isBusy = true)
    (something : e.mail ≠ [] ∨ e.commands ≠ [])
    (done : ∀ v : Scene ι, v.Faces e [] → (v.step .turn).2 = next) : w.Leads next := by
  constructor
  · intro acts
    -- each act leaves a request less in front, or happens around the bearer
    induction acts generalizing w requests with
    | nil => exact ⟨[], [], rfl, fun _ hmem => absurd hmem List.not_mem_nil, Or.inl rfl⟩
    | cons act acts ih =>
      rw [run_cons]
      by_cases hturn : act = .turn
      · subst hturn
        cases requests with
        | nil =>
          refine ⟨[], next ++ ((w.step .turn).1.run acts).2, ?_,
            fun _ hmem => absurd hmem List.not_mem_nil, Or.inr ⟨_, rfl⟩⟩
          rw [done w h]
          rfl
        | cons mail requests =>
          obtain ⟨hevents, hfaces⟩ := h.defers busy
          obtain ⟨waits, rest, hrun, hwaits, hrest⟩ := ih hfaces
          refine ⟨.deferred mail.kind :: waits, rest, ?_, ?_, hrest⟩
          · rw [hevents, hrun]
            rfl
          · exact List.forall_mem_cons.mpr ⟨rfl, hwaits⟩
      · obtain ⟨hevents, hfaces⟩ := h.stays something hturn
        rw [hevents]
        exact ih hfaces
  · induction requests generalizing w with
    | nil =>
      refine ⟨1, [], ?_, fun _ hmem => absurd hmem List.not_mem_nil⟩
      rw [List.replicate_one, run_cons, run_nil, List.append_nil, done w h]
      rfl
    | cons mail requests ih =>
      obtain ⟨hevents, hfaces⟩ := h.defers busy
      obtain ⟨n, waits, hrun, hwaits⟩ := ih hfaces
      refine ⟨n + 1, .deferred mail.kind :: waits, ?_, List.forall_mem_cons.mpr ⟨rfl, hwaits⟩⟩
      rw [List.replicate_succ, run_cons, hevents, hrun]
      rfl

omit [Interceptor ι] in
theorem visible_of_deferrals {waits : List Event}
    (h : ∀ event ∈ waits, event.isDeferral = true) : visible waits = [] :=
  List.filter_eq_nil_iff.mpr fun event hevent => by rw [h event hevent]; exact Bool.false_ne_true

/-- What comes next begins in one way only. -/
theorem Leads.unique {first other : Event} {next more : List Event}
    (h : w.Leads (first :: next)) (h' : w.Leads (other :: more))
    (seen : first.isDeferral = false) (seen' : other.isDeferral = false) : first = other := by
  obtain ⟨n, waits, hrun, hwaits⟩ := h.reached
  obtain ⟨waits', rest, hrun', hwaits', hrest⟩ := h'.always (List.replicate n .turn)
  rw [hrun] at hrun'
  have hvisible := congrArg visible hrun'
  rw [visible_append, visible_append, visible_of_deferrals hwaits, visible_of_deferrals hwaits',
    visible, List.filter_cons_of_pos (by rw [seen]; rfl)] at hvisible
  rcases hrest with rfl | ⟨later, rfl⟩
  · cases hvisible
  · rw [List.cons_append, List.nil_append, List.nil_append, visible,
      List.filter_cons_of_pos (by rw [seen']; rfl)] at hvisible
    exact List.head_eq_of_cons_eq hvisible

/-! ### Admissions and what they lead to -/

/-- A bring-up that is admitted is answered by the interceptor, or the radio is about to be given
the command to set up a bearer. -/
theorem faces_of_admitted {request : BringUp} (attentive : w.controller.Attentive)
    (admitted : Event.handled .idle (.bringUp request) ∈ (w.step act).2) :
    ∃ order requests connection, connection.generation = request.generation ∧
      ((∃ reply, (Interceptor.intercept order w.controller.connection.radioVersion
            w.controller.interceptor).1 = some reply ∧
          (w.step act).1.Faces ⟨.settingUp, connection, [.setUpDone request (.ok reply)], [],
            w.bearer.calls⟩ requests) ∨
        (Interceptor.intercept order w.controller.connection.radioVersion
            w.controller.interceptor).1 = none ∧
          (w.step act).1.Faces ⟨.settingUp, connection, [], [.setUp order request],
            w.bearer.calls⟩ requests) := by
  have hchange := w.change_step act
  generalize (w.step act).1 = w', (w.step act).2 = events at admitted hchange ⊢
  cases hchange with
  | @handled mail rest r first rule =>
    rcases Controller.mem_after admitted with
      hown | ⟨-, _, hdropped⟩ | ⟨-, _, _, -, hmoved | hentered⟩
    · obtain ⟨hidle, hlive, hnext, hgeneration, order, hanswer⟩ := rule.admits hown
      have hfree : w.controller.phase.isBusy = false := by rw [hidle]; rfl
      rcases attentive.ready first rule with ⟨hbusy, -⟩ | ⟨hwaits, hrest, hout⟩
      · rw [hfree] at hbusy
        cases hbusy
      obtain ⟨hphase, houtbox, -, hmoves⟩ :=
        (w.controller.withMailbox rest).after_eq w.setting mail hlive
      obtain ⟨hmailbox, -⟩ := hmoves (by rw [hnext]; exact Option.some_ne_none _)
      rw [show (w.controller.withMailbox rest).deferred = [] from attentive.free hfree, hwaits]
        at hmailbox
      rw [show (w.controller.withMailbox rest).outbox = [] from hout, List.nil_append] at houtbox
      rw [hnext] at hphase
      have hconnection : ((w.controller.withMailbox rest).after w.setting mail r).1.connection =
          r.connection := by
        rw [Controller.after, hlive, hnext]
        rfl
      refine ⟨order, rest, r.connection, hgeneration.symm, ?_⟩
      rcases hanswer with ⟨reply, hreply, hposts, hcommands⟩ | ⟨hpassed, hposts, hcommands⟩
      · rw [hposts] at hmailbox
        exact Or.inl ⟨reply, hreply, hphase, hconnection, hmailbox, houtbox.trans hcommands, rfl,
          hrest⟩
      · rw [hposts] at hmailbox
        exact Or.inr ⟨hpassed, hphase, hconnection, hmailbox, houtbox.trans hcommands, rfl, hrest⟩
    · cases hdropped
    · cases hmoved
    · rcases Connection.mem_enter hentered with ⟨_, _, h⟩ | ⟨_, h⟩ | ⟨_, h⟩ | ⟨_, h⟩ <;> cases h
  | dispatched empty =>
    obtain ⟨call, command, -, hcalled⟩ := Bearer.called_of_mem_dispatchAll admitted
    cases hcalled
  | refused first halted =>
    obtain ⟨_, -, hdropped⟩ := Option.map_eq_some_iff.mp (Option.mem_toList.mp admitted)
    cases hdropped
  | _ => cases admitted

/-- The answer is looked at in the phase and with the record that wait for it. -/
theorem Faces.turn {mail : Mail} {p : Phase} {c : Connection} {n : Nat}
    (h : w.Faces ⟨p, c, [mail], [], n⟩ []) :
    ∃ m : Controller ι, m.phase = p ∧
      (w.step .turn).2 = (m.after w.setting mail (react w.setting p c m.interceptor mail)).2 := by
  have hmailbox : w.controller.mailbox = mail :: [] := h.mailbox
  obtain ⟨r, hr, -, hstep⟩ := step_turn hmailbox
  rw [h.phase, h.connection] at hr
  refine ⟨w.controller.withMailbox [], h.phase, ?_⟩
  rw [hstep, ← hr]
  rfl

/-- A reply that reports a failure ends the attempt with it. -/
theorem Faces.fails {request : BringUp} {reply : SetupReply} {c : Connection} {n : Nat}
    (h : w.Faces ⟨.settingUp, c, [.setUpDone request (.ok reply)], [], n⟩ [])
    (current : c.generation = request.generation) (status : reply.status ≠ 0) :
    (w.step .turn).2 = [.moved .settingUp .idle,
      .broughtUp request (.error ⟨Cause.ofCode reply.status, reply.retryDelay?⟩)] := by
  obtain ⟨m, hphase, hevents⟩ := h.turn
  have hcause : Cause.ofCode reply.status ≠ .noCause :=
    fun hcause => status (Cause.ofCode_eq_noCause_iff.mp hcause)
  have houtcome : c.outcome ⟨Cause.ofCode reply.status, reply.retryDelay?⟩ =
      .error ⟨Cause.ofCode reply.status, reply.retryDelay?⟩ := if_neg hcause
  rw [hevents, react, if_pos ⟨rfl, current.symm⟩, onSetUpDone, Connection.updateLink,
    if_neg status, ← houtcome, ← hphase]
  rfl

/-- A reply that reports none and has no address has the bearer released. -/
theorem Faces.refuses {request : BringUp} {reply : SetupReply} {c : Connection} {n : Nat}
    (h : w.Faces ⟨.settingUp, c, [.setUpDone request (.ok reply)], [], n⟩ [])
    (current : c.generation = request.generation) (status : reply.status = 0)
    (addresses : reply.addresses = []) :
    (w.step .turn).2 = [.moved .settingUp .cleaningUp] := by
  obtain ⟨m, hphase, hevents⟩ := h.turn
  have hrefused : negotiate reply (w.setting.fallback c reply.interface) =
      .error (.noAddresses reply.interface) := by
    rw [negotiate, SetupReply.localAddresses, if_pos addresses]
    rfl
  rw [hevents, react, if_pos ⟨rfl, current.symm⟩, onSetUpDone, Connection.updateLink,
    if_pos status, hrefused, ← hphase]
  rfl

theorem Faces.calls_radio {request : BringUp} {order : SetupOrder} {p : Phase} {c : Connection}
    {n : Nat} (h : w.Faces ⟨p, c, [], [.setUp order request], n⟩ []) :
    (w.step .turn).2 = [.called n (.setUp order request)] := by
  rw [step_turn_of_order h.mailbox h.outbox]
  show [Event.called w.bearer.calls (.setUp order request)] = _
  rw [h.calls]

end Scene

/-! ### Failures -/

theorem Cause.code_eq_zero_iff {cause : Cause} : cause.code = 0 ↔ cause = .noCause := by
  rw [← Cause.ofCode_eq_noCause_iff, Cause.ofCode_code]

/-- What can be seen when a bring-up is made to fail. -/
def FailureCountdown.failing (c : FailureCountdown) (request : BringUp) : List Event :=
  [.moved .settingUp .idle, .broughtUp request (.error
    ⟨c.cause, if c.suggestedRetry < 0 then none else some c.suggestedRetry.toInt.toNat⟩)]

namespace Scene

variable {ι : Type} [Interceptor ι]

/-- The countdown's answer makes the bring-up fail, provided that it has a cause. -/
theorem Faces.leads_failing {w : Scene ι} {request : BringUp} {version : Int32}
    {c : FailureCountdown} {connection : Connection} {n : Nat} {requests : List Mail}
    (h : w.Faces ⟨.settingUp, connection,
      [.setUpDone request (.ok (.failure version c.cause c.suggestedRetry))], [], n⟩ requests)
    (current : connection.generation = request.generation) :
    w.Leads (c.failing request) ↔ c.cause ≠ .noCause := by
  have hstatus : (SetupReply.failure version c.cause c.suggestedRetry).status = 0 ↔
      c.cause = .noCause := Cause.code_eq_zero_iff
  constructor
  · intro hfails hnone
    have hrefused : w.Leads [.moved .settingUp .cleaningUp] :=
      h.leads rfl (Or.inl (List.cons_ne_nil _ _))
        fun v hv => hv.refuses current (hstatus.mpr hnone) rfl
    cases hfails.unique hrefused rfl rfl
  · intro hcause
    refine h.leads rfl (Or.inl (List.cons_ne_nil _ _)) fun v hv => ?_
    rw [hv.fails current fun hzero => hcause (hstatus.mp hzero)]
    show [Event.moved .settingUp .idle,
      .broughtUp request (.error ⟨Cause.ofCode c.cause.code, _⟩)] = _
    rw [Cause.ofCode_code]
    rfl

/-- A change of phase that comes next is not preceded by a call to the radio. -/
theorem Leads.not_called_first {w : Scene ι} {source target : Phase} {next waits : List Event}
    {first : List (Act ι)} {act : Act ι} {number : Nat} {command : Command}
    (h : w.Leads (.moved source target :: next)) (hrun : (w.run first).2 = waits ++ [])
    (hwaits : ∀ event ∈ waits, event.isDeferral = true) :
    Event.called number command ∉ ((w.run first).1.step act).2 := by
  intro hcalled
  obtain ⟨waits', rest, hlonger, hwaits', hrest⟩ := h.always (first ++ [act])
  rw [run_concat, hrun, List.append_nil] at hlonger
  dsimp only at hlonger
  rcases hrest with rfl | ⟨more, rfl⟩
  · have hwait : Event.called number command ∈ waits' := by
      rw [← List.append_nil waits', ← hlonger]
      exact List.mem_append_right _ hcalled
    cases hwaits' _ hwait
  · -- the same act would change the phase and call the radio
    have hmoved : Event.moved source target ∈ ((w.run first).1.step act).2 := by
      have hmem : Event.moved source target ∈ waits ++ ((w.run first).1.step act).2 := by
        rw [hlonger]
        exact List.mem_append_right _ List.mem_cons_self
      refine (List.mem_append.mp hmem).resolve_left fun hwait => ?_
      cases hwaits _ hwait
    rcases ((w.run first).1.change_step act).turned_or_quiet with
      ⟨mail, rest, r, -, -, hrule, -, hevents⟩ | hquiet
    · have hnone := hrule.countP_isCall (m := (w.run first).1.controller.withMailbox rest)
      rw [← hevents, List.countP_eq_zero] at hnone
      exact hnone _ hcalled rfl
    · rcases hquiet.events _ hmoved with ⟨_, _, h⟩ | ⟨-, _, h⟩ <;> cases h

/-- The radio is not called any more for a request whose completion comes next. -/
theorem not_called_of_leads {s : Setting} {i : ι} {acts : List (Act ι)} {source target : Phase}
    {request : BringUp} {outcome : BringUpOutcome}
    (leads : ((start s i).run acts).1.Leads [.moved source target, .broughtUp request outcome])
    (later : List (Act ι)) (number : Nat) {command : Command}
    (same : command.request.id = .bringUp request.number) :
    Event.called number command ∉ (((start s i).run acts).1.run later).2 := by
  intro hcalled
  obtain ⟨first, act, others, rfl, hmem⟩ := exists_of_mem_run hcalled
  have hchange := (((start s i).run acts).1.run first).1.change_step act
  have hwork : RequestId.bringUp request.number ∈
      (((start s i).run acts).1.run first).1.atWork := by
    have htask : Work.order command ∈ (((start s i).run acts).1.run first).1.bearer.works :=
      Bearer.mem_works.mpr (Or.inl ⟨command, hchange.ordered_of_called hmem, rfl⟩)
    refine Multiset.mem_map.mpr ⟨command.task, Bearer.mem_tasks_of_works htask rfl, ?_⟩
    rw [← same]
    cases command <;> rfl
  -- the request has been completed before the call
  have hcompleted : Event.broughtUp request outcome ∈ (((start s i).run acts).1.run first).2 := by
    obtain ⟨waits, rest, hrun, hwaits, hrest⟩ := leads.always first
    rcases hrest with rfl | ⟨more, rfl⟩
    · exact absurd hmem (leads.not_called_first hrun hwaits)
    · rw [hrun]
      exact List.mem_append_right _ (List.mem_cons_of_mem _ List.mem_cons_self)
  have hended : RequestId.bringUp request.number ∈
      completed ((start s i).run (acts ++ first)).2 := by
    rw [run_append]
    exact List.mem_filterMap.mpr ⟨_, List.mem_append_right _ hcompleted, rfl⟩
  rw [show (((start s i).run acts).1.run first).1 = ((start s i).run (acts ++ first)).1 by
    rw [run_append]] at hwork
  have honce := Multiset.nodup_iff_count_le_one.mp
    ((start s i).run (acts ++ first)).1.nodup_issued (.bringUp request.number)
  have hworks := Multiset.one_le_count_iff_mem.mpr hwork
  have hends := Multiset.one_le_count_iff_mem.mpr hended
  rw [← placed_eq_issued s i (acts ++ first)] at honce
  simp only [Multiset.count_add] at honce
  omega

end Scene

/-! ### Runs -/

/-- After the countdown is armed exactly as many admissions fail as it says: whatever happens
next, nothing but deferrals can be seen before the bearer is idle again and the request has failed
with the cause and the suggestion that the countdown is armed with, and the radio is never called
for it, provided that the cause is one.  Every other admission reaches the radio. -/
theorem fails_in_turn (s : Setting) (i c : FailureCountdown)
    (earlier later : List (Act FailureCountdown)) (armed : ∀ other, .rearm other ∉ later) :
    let w := (((Scene.start s i).run earlier).1.step (.rearm c)).1
    let v := (w.run later).1
    let k := admissions (w.run later).2
    (v.controller.interceptor.remaining.toNat = c.remaining.toNat - k ∧
      v.controller.interceptor.cause = c.cause ∧
      v.controller.interceptor.suggestedRetry = c.suggestedRetry) ∧
    ∀ act request, Event.handled .idle (.bringUp request) ∈ (v.step act).2 →
      (k < c.remaining.toNat →
        ((v.step act).1.Leads (c.failing request) ↔ c.cause ≠ .noCause) ∧
        (c.cause ≠ .noCause → ∀ acts number command,
          command.request.id = .bringUp request.number →
            Event.called number command ∉ ((v.step act).1.run acts).2)) ∧
      (c.remaining.toNat ≤ k →
        ∃ number order, (v.step act).1.Leads [.called number (.setUp order request)]) := by
  intro w v k
  have hinterceptor : v.controller.interceptor = c.after k := Scene.interceptor_run w armed
  have hremaining : v.controller.interceptor.remaining.toNat = c.remaining.toNat - k := by
    rw [hinterceptor, c.toNat_after]
  have hcause : v.controller.interceptor.cause = c.cause := by rw [hinterceptor]; rfl
  have hretry : v.controller.interceptor.suggestedRetry = c.suggestedRetry := by
    rw [hinterceptor]
    rfl
  refine ⟨⟨hremaining, hcause, hretry⟩, fun act request admitted => ?_⟩
  have hattentive : v.controller.Attentive :=
    Scene.attentive_run later (((Scene.start s i).run earlier).1.change_step (.rearm c)
      |>.attentive (Scene.attentive_run earlier (Scene.attentive_start s i)))
  obtain ⟨order, requests, connection, hcurrent, hanswer⟩ :=
    Scene.faces_of_admitted hattentive admitted
  rw [show Interceptor.intercept order v.controller.connection.radioVersion
    v.controller.interceptor = v.controller.interceptor.intercept _ from rfl,
    FailureCountdown.intercept_eq] at hanswer
  constructor
  · intro hleft
    have hsome : v.controller.interceptor.remaining ≠ 0 := by
      intro hzero
      rw [hzero] at hremaining
      have hnone : (0 : UInt32).toNat = 0 := rfl
      omega
    rw [if_neg hsome, hcause, hretry] at hanswer
    rcases hanswer with ⟨reply, hreply, hfaces⟩ | ⟨hpassed, -⟩
    · obtain rfl := Option.some.inj hreply
      have hleads := hfaces.leads_failing hcurrent
      refine ⟨hleads, fun hcauses acts number command same => ?_⟩
      have hrun : (v.step act).1 =
          ((Scene.start s i).run (earlier ++ .rearm c :: (later ++ [act]))).1 := by
        rw [Scene.run_append, Scene.run_cons, Scene.run_concat]
      have hnext := hleads.mpr hcauses
      rw [hrun] at hnext ⊢
      exact Scene.not_called_of_leads hnext acts number same
    · cases hpassed
  · intro hspent
    have hnone : v.controller.interceptor.remaining = 0 := by
      rw [← UInt32.toNat_inj, hremaining]
      exact Nat.sub_eq_zero_of_le hspent
    rw [if_pos hnone] at hanswer
    rcases hanswer with ⟨reply, hreply, -⟩ | ⟨-, hfaces⟩
    · cases hreply
    · exact ⟨_, order, hfaces.leads rfl (Or.inr (List.cons_ne_nil _ _))
        fun u hu => hu.calls_radio⟩

/-- One failure is left, with a cause and a suggestion. -/
def lastFailure : FailureCountdown where
  remaining := 1
  cause := .signalLost
  suggestedRetry := 5000

/-- Two requests wait for an attempt. -/
def attemptBefore : List (Act FailureCountdown) :=
  [.ask (.bringUp "a" {}), .take, .turn, .turn, .ask (.bringUp "b" {}), .take, .turn,
    .ask (.bringUp "c" {}), .take, .turn]

/-- The attempt fails, so that the requests are in turn. -/
def attemptFails : List (Act FailureCountdown) :=
  [.answer 0 { setUp := some (.error .radioNotAvailable) }, .take, .turn]

/-- The requests that are in turn, as they are admitted. -/
def secondInTurn : BringUp := { number := 1, client := "b", accessPoint := {}, generation := 2 }

def thirdInTurn : BringUp := { number := 2, client := "c", accessPoint := {}, generation := 3 }

/-- The first of the two is made to fail while the other one waits, and that one reaches the
radio. -/
theorem fails_in_turn_backlog :
    let w := (((Scene.start .cellular ({} : FailureCountdown)).run attemptBefore).1.step
      (.rearm lastFailure)).1
    (Event.handled .idle (.bringUp secondInTurn) ∈ ((w.run attemptFails).1.step .turn).2 ∧
      Event.handled .idle (.bringUp thirdInTurn) ∈
        ((w.run (attemptFails ++ [.turn, .turn, .turn])).1.step .turn).2) ∧
    (((w.run attemptFails).1.step .turn).1.Leads (lastFailure.failing secondInTurn) ∧
      ∀ acts number command, command.request.id = .bringUp secondInTurn.number →
        Event.called number command ∉ (((w.run attemptFails).1.step .turn).1.run acts).2) ∧
    ∃ number order, ((w.run (attemptFails ++ [.turn, .turn, .turn])).1.step .turn).1.Leads
      [.called number (.setUp order thirdInTurn)] := by
  have hsecond : ((((((Scene.start .cellular ({} : FailureCountdown)).run attemptBefore).1.step
      (.rearm lastFailure)).1.run attemptFails).1.step .turn).2) =
      [.handled .idle (.bringUp secondInTurn), .moved .idle .settingUp] := by rfl
  have hthird : ((((((Scene.start .cellular ({} : FailureCountdown)).run attemptBefore).1.step
      (.rearm lastFailure)).1.run (attemptFails ++ [.turn, .turn, .turn])).1.step .turn).2) =
      [.handled .idle (.bringUp thirdInTurn), .moved .idle .settingUp] := by rfl
  obtain ⟨-, hadmitted⟩ := fails_in_turn .cellular ({} : FailureCountdown) lastFailure attemptBefore
    attemptFails (by simp [attemptFails])
  obtain ⟨-, hadmitted'⟩ := fails_in_turn .cellular ({} : FailureCountdown) lastFailure
    attemptBefore (attemptFails ++ [.turn, .turn, .turn]) (by simp [attemptFails])
  -- the second is the first admission, and the third the next one
  obtain ⟨hfails, -⟩ := hadmitted .turn secondInTurn (hsecond ▸ List.mem_cons_self)
  obtain ⟨hleads, hcalls⟩ := hfails (by decide)
  obtain ⟨-, hreaches⟩ := hadmitted' .turn thirdInTurn (hthird ▸ List.mem_cons_self)
  exact ⟨⟨hsecond ▸ List.mem_cons_self, hthird ▸ List.mem_cons_self⟩,
    ⟨hleads.mpr (by decide), hcalls (by decide)⟩, hreaches (by decide)⟩

/-- A failure for no cause is read like a success without addresses: the radio is told to release a
bearer that it has never set up, and the request fails with another cause. -/
theorem causeless_released :
    ((Scene.start .cellular { lastFailure with cause := .noCause }).run
      [.ask (.bringUp "a" {}), .take, .turn, .turn, .turn,
        .answer 0 { release := some (.ok ()) }, .take, .turn]).2 =
      [.handled .idle (.bringUp firstRequest), .moved .idle .settingUp,
        .moved .settingUp .cleaningUp, .called 0 (.release 0 .unspecified (.cleanUp firstRequest)),
        .moved .cleaningUp .idle,
        .broughtUp firstRequest (.error ⟨.unacceptableNetworkParameter, none⟩)] :=
  rfl

end PacketBearer
