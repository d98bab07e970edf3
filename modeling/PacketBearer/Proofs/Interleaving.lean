/-
Requests at any time, and the radio's answers at any time: the order makes no difference.

An act that nobody asks for either leaves the agenda of a bearer as it is or does the first thing
on it (`Advance`), and a request goes to its end.  So a run works off one agenda, whatever comes
first, and so does the serial execution of the same requests:

* `advance_step` — what an act does to the agenda;
* `finishes_run` — a run that leaves nothing to do has worked off its agenda;
* `run_finishes` — a run cannot leave the way of an agenda that is worked off;
* `run_eq_serial` — a run that leaves nothing to do ends like the serial execution.
-/
import PacketBearer.Proofs.Tidy

namespace PacketBearer

/-! ### What an act does to an agenda -/

namespace Scene

section

variable {ι : Type} [Interceptor ι] {answers : Nat → RadioAnswers} {w : Scene ι}

/-- How an act gets on with a list of things to do: where it leaves the bearer, and what of the
list. -/
inductive Advance (s : Setting) (answers : Nat → RadioAnswers) (t : Standing ι)
    (todo : List Work) (b' : Bearer ι) (todo' : List Work) (events : List Event) : Prop
  /-- It only changes where things are. -/
  | waits (live : b'.isHalted = false) (standing : b'.standing = t) (same : todo' = todo)
    (shown : visible events = [])
  /-- It does the first thing. -/
  | works {work : Work} {queue : List Work} {b : Bearer ι} {now : List Event}
    (live : b'.isHalted = false) (head : todo = work :: queue)
    (first : t.step s answers work = some (b, now)) (standing : b'.standing = b.standing)
    (rest : todo' = b.agenda ++ queue) (shown : visible events = visible now)
  /-- The first thing makes the bearer halt. -/
  | halts {work : Work} {queue : List Work} (head : todo = work :: queue)
    (stuck : t.step s answers work = none) (halted : b'.isHalted = true)

/-- It makes no difference what is to be done later. -/
theorem Advance.append {s : Setting} {t : Standing ι} {todo todo' : List Work} {b' : Bearer ι}
    {events : List Event} (h : Advance s answers t todo b' todo' events) (more : List Work) :
    Advance s answers t (todo ++ more) b' (todo' ++ more) events := by
  cases h with
  | waits live standing same shown => exact .waits live standing (by rw [same]) shown
  | @works work queue b now live head first standing rest shown =>
    have hhead : todo ++ more = work :: (queue ++ more) := by rw [head, List.cons_append]
    refine .works live hhead first standing ?_ shown
    rw [rest, List.append_assoc]
  | @halts work queue head stuck halted =>
    have hhead : todo ++ more = work :: (queue ++ more) := by rw [head, List.cons_append]
    exact .halts hhead stuck halted

/-- An act cannot leave the way of what is worked off. -/
theorem Advance.finishes {s : Setting} {t last : Standing ι} {todo todo' : List Work}
    {b' : Bearer ι} {events all : List Event} (h : Advance s answers t todo b' todo' events)
    (finishes : Finishes s answers t todo last all) :
    b'.isHalted = false ∧ ∃ later, all = visible events ++ later ∧
      Finishes s answers b'.standing todo' last later := by
  cases h with
  | waits live standing same shown =>
    rw [shown, standing, same]
    exact ⟨live, all, rfl, finishes⟩
  | works live head first standing rest shown =>
    rw [head] at finishes
    rw [shown, standing, rest]
    exact ⟨live, finishes.rest first⟩
  | halts head stuck halted =>
    rw [head] at finishes
    exact absurd stuck finishes.step_ne_none

/-- The act gets on with the agenda of the bearer. -/
def Advances (answers : Nat → RadioAnswers) (w w' : Scene ι) (events : List Event) : Prop :=
  Advance w.setting answers w.bearer.standing w.bearer.agenda w'.bearer w'.bearer.agenda events

theorem advance_handle (tidy : w.bearer.Tidy) (live : w.bearer.isHalted = false) {mail : Mail}
    {rest : List Mail} (first : w.controller.mailbox = mail :: rest) :
    Advances answers w (w.step .turn).1 (w.step .turn).2 := by
  obtain ⟨r, hr, hrule, hstep⟩ := step_turn first
  rw [hstep]
  rcases tidy.waits_or_free first with ⟨hbusy, hrequest⟩ | ⟨hnone, hplace, hready⟩
  · -- the request goes from the mailbox to the end of the deferred mail
    have hwait := hr.symm.trans (react_of_isBusy _ _ hbusy hrequest)
    have hnot := Mail.isAnswer_of_isRequest hrequest
    simp only [controller] at first
    rw [hwait]
    refine .waits live rfl ?_ rfl
    simp [Controller.after, wait, Controller.absorb, Controller.withMailbox, withController,
      Bearer.withController, Bearer.agenda, Bearer.mails, first, hrequest, hnot]
  · -- the mail is the first thing to do, and without it there are only requests left
    have hfree : (w.bearer.withController (w.controller.withMailbox rest)).OnlyRequests := by
      refine Bearer.onlyRequests_of_tasks hnone fun other hother => tidy.mails other ?_
      exact Bearer.mails_withMailbox_subset first hother
    have hhead := Bearer.agenda_first first hfree hplace
    have hwaits : r.waits = false :=
      Bool.eq_false_iff.mpr fun h => hready (hrule.busy_of_waits h)
    have hdone : w.bearer.standing.step w.setting answers (.mail mail) = _ := Standing.step_mail hr
    by_cases hhalt : r.halt = none
    · rw [if_pos hhalt] at hdone
      obtain ⟨hstanding, hevents⟩ := Bearer.after_standing w.setting
        (w.bearer.withController (w.controller.withMailbox rest)) mail hhalt
      exact .works (Controller.live_after_iff.mpr ⟨hhalt, live⟩) hhead hdone hstanding
        (hfree.agenda_after w.setting mail hhalt hwaits fun post => hrule.isAnswer_of_mem_posts)
        (congrArg visible hevents)
    · rw [if_neg hhalt] at hdone
      refine .halts hhead hdone (eq_true_of_ne_false fun h => hhalt ?_)
      exact (Controller.live_after_iff.mp h).1

theorem advance_dispatch (tidy : w.bearer.Tidy) (live : w.bearer.isHalted = false)
    (empty : w.controller.mailbox = []) (outbox : w.controller.outbox ≠ []) :
    Advances answers w (w.step .turn).1 (w.step .turn).2 := by
  obtain ⟨command, hout, hfree⟩ := tidy.only_command outbox
  have hstep : w.step .turn =
      ({ w with bearer := (w.bearer.clearOutbox.dispatch w.setting command).1 },
        (w.bearer.clearOutbox.dispatch w.setting command).2) := step_turn_of_order empty hout
  have hhead := Bearer.agenda_order hout hfree
  have hdone : w.bearer.standing.step w.setting answers (.order command) =
      some ((w.bearer.standing.bearer.dispatch w.setting command).1,
        (w.bearer.standing.bearer.dispatch w.setting command).2) := rfl
  obtain ⟨hstanding, hevents⟩ := w.bearer.clearOutbox.dispatch_standing w.setting command
  have hlive : (w.bearer.clearOutbox.dispatch w.setting command).1.isHalted = false := by
    rw [Bearer.dispatch.eq_def]
    split
    · exact live
    · exact live
  rw [hstep]
  exact .works hlive hhead hdone hstanding (hfree.agenda_dispatch w.setting command)
    (congrArg visible hevents)

theorem advance_answer (tidy : w.bearer.Tidy) (live : w.bearer.isHalted = false) {call : Nat}
    {command : Command} {mail : Mail}
    (isOpen : (call, command) ∈ w.bearer.openCalls)
    (ready : command.completion? (answers call) = some mail) :
    Advances answers w ({ w with bearer := w.bearer.close call }.send mail) [] := by
  -- the only call is the head of the agenda, so that no other answer could have come instead
  obtain ⟨hcalls, hfree⟩ := tidy.only_call isOpen
  have hanswer : mail.isAnswer = true := by
    rw [Mail.isAnswer, Command.task?_completion ready]
    rfl
  have hhead := Bearer.agenda_call hcalls hfree
  have hdone : w.bearer.standing.step w.setting answers (.call call command) =
      some (w.bearer.standing.bearer.send [mail], []) := by
    rw [Standing.step, ready]
    rfl
  exact .works live hhead hdone rfl (hfree.agenda_answer hanswer) rfl

/-- An act that nobody asks for leaves the agenda as it is, or does the first thing on it. -/
theorem advance_silent (tidy : w.bearer.Tidy) (live : w.bearer.isHalted = false) {act : Act ι}
    (plain : act.IsPlain answers) (silent : act.wish? = none) :
    Advances answers w (w.step act).1 (w.step act).2 := by
  have hchange := w.change_step act
  cases act with
  | ask wish => cases silent
  | turn =>
    cases hmail : w.controller.mailbox with
    | cons mail rest => exact advance_handle tidy live hmail
    | nil =>
      by_cases hout : w.controller.outbox = []
      · rw [step_turn_of_rest ⟨hmail, hout⟩]
        exact .waits live rfl rfl rfl
      · exact advance_dispatch tidy live hmail hout
  | take =>
    generalize w.step .take = after at hchange
    obtain ⟨w', events⟩ := after
    cases hchange with
    | still => exact .waits live rfl rfl rfl
    | taken first resting _ =>
      -- mail is taken into an empty mailbox, and stays where it is on the agenda
      refine .waits live rfl ?_ rfl
      obtain ⟨hmail, -⟩ := resting
      simp only [controller] at hmail
      simp [Bearer.agenda, Bearer.mails, Bearer.withController, Bearer.withInbox,
        Controller.post, first, hmail]
    | refused _ halted => exact absurd halted (Bool.eq_false_iff.mp live)
  | answer call given =>
    cases plain
    generalize w.step (.answer call (answers call)) = after at hchange
    obtain ⟨w', events⟩ := after
    cases hchange with
    | still => exact .waits live rfl rfl rfl
    | answered isOpen ready => exact advance_answer tidy live isOpen ready
  | inquire | stop | hear | switchRadio | closeTracker | rearm => exact plain.elim

end

/-! ### Surroundings -/

section

variable {ι : Type}

/-- The mail that wishes make, one after the other. -/
def mailsOf (w : Scene ι) : List Wish → List Mail
  | [] => []
  | wish :: wishes => w.mailOf wish :: (w.count wish).mailsOf wishes

/-- The scene with its numbers used up for all these wishes. -/
def counted (w : Scene ι) (wishes : List Wish) : Scene ι := wishes.foldl count w

/-- Nothing is left to do, and no call is open. -/
structure Finished (w : Scene ι) : Prop where
  resting : w.Resting
  inbox : w.bearer.inbox = []
  openCalls : w.bearer.openCalls = []

theorem isRequest_mailOf (w : Scene ι) (wish : Wish) : (w.mailOf wish).isRequest = true := by
  cases wish <;> rfl

theorem count_withBearer (w : Scene ι) (b : Bearer ι) (wish : Wish) :
    (w.withBearer b).count wish = (w.count wish).withBearer b := by
  cases wish <;> rfl

theorem mailsOf_withBearer (w : Scene ι) (b : Bearer ι) (wishes : List Wish) :
    (w.withBearer b).mailsOf wishes = w.mailsOf wishes := by
  induction wishes generalizing w with
  | nil => rfl
  | cons wish wishes ih =>
    rw [mailsOf, mailsOf, count_withBearer, ih]
    cases wish <;> rfl

theorem counted_withBearer (w : Scene ι) (b : Bearer ι) (wishes : List Wish) :
    (w.withBearer b).counted wishes = (w.counted wishes).withBearer b := by
  induction wishes generalizing w with
  | nil => rfl
  | cons wish wishes ih =>
    have hfirst := ih (w.count wish)
    rw [← count_withBearer] at hfirst
    exact hfirst

end

section

variable {ι : Type} [Interceptor ι] {answers : Nat → RadioAnswers} {w w' : Scene ι}
  {acts : List (Act ι)}

/-- An act that nobody asks for changes nothing but the bearer. -/
theorem withBearer_step {act : Act ι} (plain : act.IsPlain answers) (silent : act.wish? = none) :
    (w.step act).1 = w.withBearer (w.step act).1.bearer := by
  have hchange := w.change_step act
  generalize w.step act = after at hchange
  obtain ⟨w', events⟩ := after
  cases hchange with
  | asked => cases silent
  | inquired | stopSent | heard | switched | trackerClosed | rearmed => exact plain.elim
  | still | answered | taken | refused | handled | dispatched => rfl

theorem step_ask (w : Scene ι) (wish : Wish) :
    (w.step (.ask wish)).1 = (w.count wish).withBearer (w.bearer.send [w.mailOf wish]) := by
  cases wish <;> rfl

/-- Requests count the same whatever happens in between. -/
theorem withBearer_run (plain : ∀ act ∈ acts, act.IsPlain answers) (b : Bearer ι) :
    (w.run acts).1.withBearer b = (w.counted (acts.filterMap Act.wish?)).withBearer b := by
  induction acts generalizing w with
  | nil => rfl
  | cons act acts ih =>
    obtain ⟨hact, hacts⟩ := List.forall_mem_cons.mp plain
    rw [run_cons, ih hacts]
    cases hwish : act.wish? with
    | none =>
      rw [List.filterMap_cons_none hwish, withBearer_step hact hwish, counted_withBearer]
      rfl
    | some wish =>
      obtain rfl := Act.eq_ask hwish
      rw [List.filterMap_cons_some hwish, step_ask, counted_withBearer]
      rfl

/-! ### Runs and agendas -/

omit [Interceptor ι] in
theorem filterMap_wish?_cons (act : Act ι) (acts : List (Act ι)) :
    (act :: acts).filterMap Act.wish? = act.wish?.toList ++ acts.filterMap Act.wish? := by
  rw [List.filterMap_cons]
  cases act.wish? <;> rfl

/-- All that is still to be done if these wishes are still to come. -/
def todo (w : Scene ι) (wishes : List Wish) : List Work :=
  w.bearer.agenda ++ (w.mailsOf wishes).map .mail

/-- Whatever comes, the same things are to be done, and it leaves them as they are or does the
first of them. -/
theorem advance_step (tidy : w.bearer.Tidy) (live : w.bearer.isHalted = false) {act : Act ι}
    (plain : act.IsPlain answers) (wishes : List Wish) :
    (w.step act).1.setting = w.setting ∧
      Advance w.setting answers w.bearer.standing (w.todo (act.wish?.toList ++ wishes))
        (w.step act).1.bearer ((w.step act).1.todo wishes) (w.step act).2 := by
  cases hwish : act.wish? with
  | some wish =>
    obtain rfl := Act.eq_ask hwish
    -- what is asked for was to be done before, as the first of the wishes to come
    have hagenda := w.bearer.agenda_request (w.isRequest_mailOf wish)
    rw [step_ask]
    refine ⟨by cases wish <;> rfl, .waits ?_ ?_ ?_ rfl⟩
    · cases wish <;> exact live
    · cases wish <;> rfl
    · rw [todo, todo, mailsOf_withBearer]
      show (w.bearer.send [w.mailOf wish]).agenda ++ _ = _
      rw [hagenda, List.append_assoc]
      rfl
  | none =>
    have hadvance := (advance_silent tidy live plain hwish).append ((w.mailsOf wishes).map .mail)
    have hstep := withBearer_step (w := w) plain hwish
    refine ⟨by rw [hstep]; rfl, ?_⟩
    have hmails : (w.step act).1.mailsOf wishes = w.mailsOf wishes := by
      rw [hstep, mailsOf_withBearer]
    rw [todo, todo, hmails]
    exact hadvance

omit [Interceptor ι] in
theorem Finished.agenda_eq_nil (h : w.Finished) (tidy : w.bearer.Tidy) :
    w.bearer.agenda = [] := by
  obtain ⟨⟨hmailbox, hout⟩, hinbox, hcalls⟩ := h
  simp only [controller] at hmailbox hout
  have htasks := Bearer.tasks_eq_zero hmailbox hout hinbox hcalls tidy.waiting
  have hfits := tidy.fits
  rw [htasks] at hfits
  have hdeferred := hfits.deferred_eq_nil
  simp [Bearer.agenda, Bearer.mails, hmailbox, hout, hinbox, hcalls, hdeferred]

/-- A run that leaves nothing to do has worked off its agenda, with what was asked for at its
end. -/
theorem finishes_run (tidy : w.bearer.Tidy) (plain : ∀ act ∈ acts, act.IsPlain answers)
    (live : (w.run acts).1.bearer.isHalted = false)
    (nothing : (w.run acts).1.bearer.agenda = []) :
    Finishes w.setting answers w.bearer.standing (w.todo (acts.filterMap Act.wish?))
      (w.run acts).1.bearer.standing (visible (w.run acts).2) := by
  -- the last act leaves an empty agenda, and each act before it puts its own item in front
  induction acts generalizing w with
  | nil =>
    rw [run_nil] at nothing ⊢
    rw [List.filterMap_nil, todo, nothing]
    exact .done _
  | cons act acts ih =>
    obtain ⟨hact, hacts⟩ := List.forall_mem_cons.mp plain
    rw [run_cons] at live nothing ⊢
    have hlive := live_run live
    have hrest := ih (tidy_step tidy hact hlive) hacts live nothing
    obtain ⟨hsetting, hadvance⟩ := advance_step tidy
      ((w.change_step act).live hlive) hact (acts.filterMap Act.wish?)
    rw [visible_append, filterMap_wish?_cons]
    rw [hsetting] at hrest
    cases hadvance with
    | waits _ standing same shown =>
      rw [shown, ← same, ← standing]
      exact hrest
    | works _ head first standing rest shown =>
      rw [standing, rest] at hrest
      rw [shown, head]
      exact .next first hrest
    | halts head stuck halted => exact absurd halted (Bool.eq_false_iff.mp hlive)

/-- No run that wants nothing but what an agenda is worked off with can leave its way. -/
theorem run_finishes {more : List Wish} {last : Standing ι} {events : List Event}
    (tidy : w.bearer.Tidy) (live : w.bearer.isHalted = false)
    (plain : ∀ act ∈ acts, act.IsPlain answers)
    (h : Finishes w.setting answers w.bearer.standing
      (w.todo (acts.filterMap Act.wish? ++ more)) last events) :
    (w.run acts).1.bearer.Tidy ∧ (w.run acts).1.bearer.isHalted = false ∧
      ∃ later, events = visible (w.run acts).2 ++ later ∧
        Finishes w.setting answers (w.run acts).1.bearer.standing ((w.run acts).1.todo more)
          last later := by
  -- here the list is worked off from the front, so that no act can make the bearer halt
  induction acts generalizing w events with
  | nil => exact ⟨tidy, live, events, rfl, h⟩
  | cons act acts ih =>
    obtain ⟨hact, hacts⟩ := List.forall_mem_cons.mp plain
    obtain ⟨hsetting, hadvance⟩ := advance_step tidy live hact (acts.filterMap Act.wish? ++ more)
    rw [filterMap_wish?_cons, List.append_assoc] at h
    obtain ⟨hlive, later, hevents, hlater⟩ := hadvance.finishes h
    rw [← hsetting] at hlater
    obtain ⟨htidy, hend, rest, hrest, hfinishes⟩ :=
      ih (tidy_step tidy hact hlive) hlive hacts hlater
    rw [run_cons, ← hsetting]
    refine ⟨htidy, hend, rest, ?_, hfinishes⟩
    rw [hevents, hrest, visible_append, List.append_assoc]

/-- Where nothing comes next, an agenda that is worked off is empty. -/
theorem finished_of_nextAct {s : Setting} {wishes : List Wish} {last : Standing ι}
    {events : List Event} (tidy : w.bearer.Tidy) (idle : w.nextAct answers = none)
    (h : Finishes s answers w.bearer.standing (w.todo wishes) last events) : w.Finished := by
  obtain ⟨hresting, hinbox, hstuck⟩ := resting_of_nextAct idle
  refine ⟨hresting, hinbox, ?_⟩
  by_contra hopen
  -- the oldest call would be the first thing to do, and stay it
  obtain ⟨⟨call, command⟩, later, hcalls⟩ := List.exists_cons_of_ne_nil hopen
  obtain ⟨honly, hfree⟩ := tidy.only_call (hcalls ▸ List.mem_cons_self :
    (call, command) ∈ w.bearer.openCalls)
  have hhead : w.bearer.agenda = .call call command :: (w.bearer.close call).agenda :=
    Bearer.agenda_call honly hfree
  rw [todo, hhead, List.cons_append] at h
  refine h.step_ne_none ?_
  rw [Standing.step, hstuck call command later hcalls]
  rfl

/-- A serial execution gets done all that it begins, if its agenda is worked off by any run. -/
theorem serial_finishes {wishes more : List Wish} {last : Standing ι} {events : List Event}
    (tidy : w.bearer.Tidy) (live : w.bearer.isHalted = false) (idle : w.nextAct answers = none)
    (h : Finishes w.setting answers w.bearer.standing (w.todo (wishes ++ more)) last events) :
    (w.serial answers wishes).1.Finished ∧ (w.serial answers wishes).1.bearer.Tidy ∧
      (w.serial answers wishes).1.bearer.isHalted = false ∧
      ∃ later, events = visible (w.serial answers wishes).2 ++ later ∧
        Finishes w.setting answers (w.serial answers wishes).1.bearer.standing
          ((w.serial answers wishes).1.todo more) last later := by
  obtain ⟨acts, hplain, hwishes, hrun⟩ := exists_run_serial answers w wishes
  have hidle := nextAct_serial idle wishes
  rw [← hrun] at hidle ⊢
  rw [← hwishes] at h
  obtain ⟨htidy, hlive, later, hevents, hrest⟩ := run_finishes tidy live hplain h
  exact ⟨finished_of_nextAct htidy hidle hrest, htidy, hlive, later, hevents, hrest⟩

theorem withBearer_serial (w : Scene ι) (wishes : List Wish) (b : Bearer ι) :
    (w.serial answers wishes).1.withBearer b = (w.counted wishes).withBearer b := by
  obtain ⟨acts, hplain, hwishes, hrun⟩ := exists_run_serial answers w wishes
  rw [← hrun, withBearer_run hplain, hwishes]

/-- A run that leaves nothing to do ends as the serial execution of its requests does, which gets
each of them done before the next one is made. -/
theorem serial_of_run (tidy : w.bearer.Tidy) (plain : ∀ act ∈ acts, act.IsPlain answers)
    (idle : w.nextAct answers = none) (live : (w.run acts).1.bearer.isHalted = false)
    (finished : (w.run acts).1.Finished) :
    (w.run acts).1 = (w.serial answers (acts.filterMap Act.wish?)).1 ∧
      visible (w.run acts).2 = visible (w.serial answers (acts.filterMap Act.wish?)).2 ∧
      ∀ first second, acts.filterMap Act.wish? = first ++ second →
        (w.serial answers first).1.Finished := by
  have htidy := tidy_run tidy plain live
  have hnothing := finished.agenda_eq_nil htidy
  have hworked := finishes_run tidy plain live hnothing
  have hserial := fun (first second : List Wish)
      (hwishes : acts.filterMap Act.wish? = first ++ second) =>
    serial_finishes tidy (live_run live) idle (hwishes ▸ hworked)
  obtain ⟨hdone, htidy', hlive', later, hevents, hrest⟩ :=
    hserial (acts.filterMap Act.wish?) [] (List.append_nil _).symm
  have hnothing' := hdone.agenda_eq_nil htidy'
  rw [todo, hnothing'] at hrest
  -- both end with nothing to do, so that their bearers are as their standings say
  obtain ⟨hstanding, hlater⟩ := hrest.unique (.done _)
  have hbearer : (w.run acts).1.bearer =
      (w.serial answers (acts.filterMap Act.wish?)).1.bearer := by
    rw [htidy.eq_bearer live hnothing, hstanding]
    exact (htidy'.eq_bearer hlive' hnothing').symm
  refine ⟨?_, ?_, fun first second hwishes => (hserial first second hwishes).1⟩
  · calc (w.run acts).1
        = (w.run acts).1.withBearer (w.run acts).1.bearer := rfl
      _ = (w.counted (acts.filterMap Act.wish?)).withBearer (w.run acts).1.bearer :=
          withBearer_run plain _
      _ = (w.serial answers (acts.filterMap Act.wish?)).1.withBearer (w.run acts).1.bearer :=
          (withBearer_serial w _ _).symm
      _ = (w.serial answers (acts.filterMap Act.wish?)).1 := by
          rw [hbearer]
          rfl
  · rw [hevents, hlater, List.append_nil]

end

end Scene

/-- Whenever the requests come, and whenever the radio answers: a run that leaves nothing to do and
has not halted ends as the serial execution of its requests does, and shows the same.  In the serial
execution each request is done before the next one is made. -/
theorem run_eq_serial {ι : Type} [Interceptor ι] (s : Setting) (i : ι)
    (answers : Nat → RadioAnswers) (acts : List (Act ι))
    (plain : ∀ act ∈ acts, act.IsPlain answers)
    (live : ((Scene.start s i).run acts).1.bearer.isHalted = false)
    (finished : ((Scene.start s i).run acts).1.Finished) :
    ((Scene.start s i).run acts).1 =
        ((Scene.start s i).serial answers (acts.filterMap Act.wish?)).1 ∧
      visible ((Scene.start s i).run acts).2 =
        visible ((Scene.start s i).serial answers (acts.filterMap Act.wish?)).2 ∧
      ∀ first second, acts.filterMap Act.wish? = first ++ second →
        ((Scene.start s i).serial answers first).1.Finished :=
  Scene.serial_of_run (Bearer.tidy_start i) plain rfl live finished

/-- A radio that lets everything succeed. -/
def obliging : Nat → RadioAnswers := fun _ =>
  { setUp := some (.ok plainReply), release := some (.ok ()) }

/-- Two requests come while the first one is at the radio, and one of them waits twice. -/
def crowded : List (Act Unit) :=
  [.ask (.bringUp "a" {}), .take, .turn, .turn, .ask (.tearDown none "over"), .take, .turn,
    .ask (.bringUp "b" {}), .answer 0 (obliging 0), .take, .turn, .take, .turn, .turn, .turn, .turn,
    .answer 1 (obliging 1), .take, .turn, .turn, .turn, .answer 2 (obliging 2), .take, .turn]

/-- Requests had to wait three times. -/
theorem run_eq_serial_crowded :
    ((Scene.start .cellular ()).run crowded).2.countP Event.isDeferral = 3 ∧
    ((∀ act ∈ crowded, act.IsPlain obliging) ∧
      ((Scene.start .cellular ()).run crowded).1.bearer.isHalted = false ∧
      ((Scene.start .cellular ()).run crowded).1.Finished) ∧
    ((Scene.start .cellular ()).run crowded).1 =
        ((Scene.start .cellular ()).serial obliging (crowded.filterMap Act.wish?)).1 ∧
      visible ((Scene.start .cellular ()).run crowded).2 =
        visible ((Scene.start .cellular ()).serial obliging (crowded.filterMap Act.wish?)).2 ∧
      ∀ first second, crowded.filterMap Act.wish? = first ++ second →
        ((Scene.start .cellular ()).serial obliging first).1.Finished := by
  have plain : ∀ act ∈ crowded, act.IsPlain obliging := by simp [crowded, Act.IsPlain]
  have live : ((Scene.start .cellular ()).run crowded).1.bearer.isHalted = false := by decide
  have finished : ((Scene.start .cellular ()).run crowded).1.Finished := ⟨by decide, rfl, rfl⟩
  exact ⟨by decide, ⟨plain, live, finished⟩,
    run_eq_serial .cellular () obliging crowded plain live finished⟩

end PacketBearer
