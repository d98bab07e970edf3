/-
What the radio holds for a bearer.

The radio holds one bearer at a time, and it comes by it through a set-up and loses it through a
release.  `Hold.Moves` says which command and which answer can come next, and what it makes of what
the radio holds:

* `Bearer.Finds` — whatever is still to be done finds the radio with what it needs;
* `finds_step`, `finds_run` — so what comes next on record is a move, in every run that nothing
  disturbs and in which the radio stays on;
* `Hold.Runs.released_once` — between an answer with a bearer and the next set-up there is one
  release, and it names that bearer;
* `radio_discipline` — together with the courses of the generations, how the radio is commanded.

It is essential that nothing disturbs: a reset leaves the radio with whatever it holds.
-/
import PacketBearer.Proofs.Course
import PacketBearer.Proofs.Delivery

namespace PacketBearer

/-- The bearer that the radio is told to release. -/
def Entry.released? : Entry → Option Int32
  | told (.release id _ _) => some id
  | _ => none

/-! ### Moves -/

/-- What the radio holds for a bearer. -/
inductive Hold where
  | nothing
  /-- The radio has been told to set up a bearer, and has not answered. -/
  | ordered
  | held (id : Int32)

namespace Hold

/-- What the radio holds when it has answered a set-up. -/
def of : Except RadioError SetupReply → Hold
  | .ok reply => if reply.status = 0 then held reply.bearerId else nothing
  | .error _ => nothing

/-- What can come next on record, and what the radio holds then. -/
inductive Moves : Hold → Entry → Hold → Prop
  | admits (hold : Hold) (request : BringUp) : Moves hold (.admitted request) hold
  | empties (hold : Hold) (request : TearDown) : Moves hold (.emptied request) hold
  | orders (order : SetupOrder) (request : BringUp) :
    Moves nothing (.told (.setUp order request)) ordered
  | setsUp (command : Command) (request : BringUp) (result : Except RadioError SetupReply) :
    Moves ordered (.heard command (.setUpDone request result)) (of result)
  | asks (request : BringUp) : Moves nothing (.told (.lastCause request)) nothing
  | learns (command : Command) (request : BringUp) (result : Except RadioError Int32) :
    Moves nothing (.heard command (.lastCauseDone request result)) nothing
  | releases (id : Int32) (reason : ReleaseReason) (purpose : ReleasePurpose) :
    Moves (held id) (.told (.release id reason purpose)) nothing
  | isReleased (command : Command) (purpose : ReleasePurpose) :
    Moves nothing (.heard command (.releaseDone purpose)) nothing

/-- What comes on record are moves, from one to the next. -/
inductive Runs : Hold → List Entry → Hold → Prop
  | nil (hold : Hold) : Runs hold [] hold
  | cons {hold hold' hold'' : Hold} {entry : Entry} {record : List Entry}
    (moves : Moves hold entry hold') (runs : Runs hold' record hold'') :
    Runs hold (entry :: record) hold''

namespace Runs

variable {hold hold' hold'' : Hold} {first second record : List Entry}

theorem one {entry : Entry} (h : Moves hold entry hold') : Runs hold [entry] hold' :=
  .cons h (.nil hold')

theorem append (h : Runs hold first hold') (h' : Runs hold' second hold'') :
    Runs hold (first ++ second) hold'' := by
  induction h with
  | nil => exact h'
  | cons moves _ ih => exact .cons moves (ih h')

theorem exists_of_append (h : Runs hold (first ++ second) hold'') :
    ∃ hold', Runs hold first hold' ∧ Runs hold' second hold'' := by
  induction first generalizing hold with
  | nil => exact ⟨hold, .nil hold, h⟩
  | cons entry first ih =>
    cases h with
    | cons moves runs =>
      obtain ⟨hold', hfirst, hsecond⟩ := ih runs
      exact ⟨hold', .cons moves hfirst, hsecond⟩

/-- A radio that holds nothing gets nothing without a set-up, and has nothing to release. -/
theorem of_nothing (h : Runs nothing record hold)
    (none : ∀ order request, .told (.setUp order request) ∉ record) :
    record.filterMap Entry.released? = [] := by
  induction record with
  | nil => rfl
  | cons entry record ih =>
    have hlater : ∀ order request, Entry.told (.setUp order request) ∉ record :=
      fun order request hmem => none order request (List.mem_cons_of_mem _ hmem)
    cases h with
    | cons moves runs =>
      cases moves with
      | admits | empties | asks | learns | isReleased => exact ih runs hlater
      | orders order request => exact absurd List.mem_cons_self (none order request)

/-- A radio that holds a bearer is rid of it, without a set-up, only by a release. -/
theorem of_held {id : Int32} (h : Runs (held id) record nothing)
    (none : ∀ order request, .told (.setUp order request) ∉ record) :
    record.filterMap Entry.released? = [id] := by
  induction record with
  | nil => cases h
  | cons entry record ih =>
    have hlater : ∀ order request, Entry.told (.setUp order request) ∉ record :=
      fun order request hmem => none order request (List.mem_cons_of_mem _ hmem)
    cases h with
    | cons moves runs =>
      cases moves with
      | admits | empties => exact ih runs hlater
      | releases => exact congrArg _ (runs.of_nothing hlater)

/-- Between an answer with a bearer and the next set-up that bearer is released, and no other. -/
theorem released_once {before between after : List Entry} {command : Command}
    {request request' : BringUp} {reply : SetupReply} {order : SetupOrder}
    (h : Runs hold (before ++ .heard command (.setUpDone request (.ok reply)) ::
      (between ++ .told (.setUp order request') :: after)) hold')
    (status : reply.status = 0)
    (none : ∀ order request, .told (.setUp order request) ∉ between) :
    between.filterMap Entry.released? = [reply.bearerId] := by
  obtain ⟨_, -, hanswer⟩ := h.exists_of_append
  cases hanswer with
  | cons moves hlater =>
    cases moves with
    | setsUp =>
      rw [of, if_pos status] at hlater
      obtain ⟨_, hbetween, hnext⟩ := hlater.exists_of_append
      cases hnext with
      | cons moves _ =>
        cases moves with
        | orders => exact hbetween.of_held none

end Runs

end Hold

/-! ### What is still to be done, and what the radio holds -/

/-- What the radio holds when it comes to a piece of work. -/
def Work.Finds (hold : Hold) : Work → Prop
  | order (.release id _ _) => hold = .held id
  | order _ => hold = .nothing
  | call _ (.setUp _ _) => hold = .ordered
  | call _ _ => hold = .nothing
  | mail (.setUpDone _ result) => hold = .of result
  | mail (.lastCauseDone _ _) | mail (.releaseDone _) => hold = .nothing
  | mail _ => True

/-- What a bearer that does not wait for the radio takes the radio to hold. -/
structure Controller.Supposes {ι : Type} (m : Controller ι) (hold : Hold) : Prop where
  idle : m.phase = .idle → hold = .nothing
  up : m.phase = .up → hold = .held m.connection.bearerId

/-- The radio holds what a bearer needs. -/
structure Bearer.Finds {ι : Type} (b : Bearer ι) (hold : Hold) : Prop where
  works : ∀ work ∈ b.works, work.Finds hold
  supposes : b.controller.Supposes hold

section

variable {ι : Type} {s : Setting} {b b' : Bearer ι} {hold : Hold}

theorem Work.finds_of_no_task {work : Work} (h : work.task? = none) : work.Finds hold := by
  cases work with
  | order | call => cases h
  | mail mail =>
    cases mail with
    | setUpDone | lastCauseDone | releaseDone => cases h
    | _ => trivial

/-- A command is a move. -/
theorem Work.Finds.told {command : Command} (h : (Work.order command).Finds hold) (number : Nat) :
    ∃ hold', hold.Moves (.told command) hold' ∧ (Work.call number command).Finds hold' := by
  cases command with
  | setUp order request =>
    obtain rfl : hold = .nothing := h
    exact ⟨.ordered, .orders order request, rfl⟩
  | lastCause request =>
    obtain rfl : hold = .nothing := h
    exact ⟨.nothing, .asks request, rfl⟩
  | release id reason purpose =>
    obtain rfl : hold = .held id := h
    exact ⟨.nothing, .releases id reason purpose, rfl⟩

/-- The answer to a command is a move. -/
theorem Work.Finds.heard {command : Command} {number : Nat} {given : RadioAnswers} {answer : Mail}
    (h : (Work.call number command).Finds hold) (ready : command.completion? given = some answer) :
    ∃ hold', hold.Moves (.heard command answer) hold' ∧ (Work.mail answer).Finds hold' := by
  cases command with
  | setUp order request =>
    obtain rfl : hold = .ordered := h
    obtain ⟨result, -, rfl⟩ := Option.map_eq_some_iff.mp ready
    exact ⟨.of result, .setsUp _ request result, rfl⟩
  | lastCause request =>
    obtain rfl : hold = .nothing := h
    obtain ⟨result, -, rfl⟩ := Option.map_eq_some_iff.mp ready
    exact ⟨.nothing, .learns _ request result, rfl⟩
  | release id reason purpose =>
    obtain rfl : hold = .nothing := h
    obtain ⟨result, -, rfl⟩ := Option.map_eq_some_iff.mp ready
    exact ⟨.nothing, .isReleased _ purpose, rfl⟩

theorem Controller.Supposes.of_isBusy {m : Controller ι} (busy : m.phase.isBusy = true) :
    m.Supposes hold := by
  constructor
  · intro hidle
    rw [hidle] at busy
    cases busy
  · intro hup
    rw [hup] at busy
    cases busy

/-- A bearer whose phase waits finds what the only piece of work finds that is about a task. -/
theorem Bearer.finds_of_only {only : Work} (finds : only.Finds hold) (free : b.tasks = 0)
    (works : ∀ work ∈ b'.works, work ∈ b.works ∨ work = only)
    (busy : b'.controller.phase.isBusy = true) : b'.Finds hold := by
  refine ⟨fun work hwork => ?_, .of_isBusy busy⟩
  rcases works work hwork with hother | rfl
  · exact Work.finds_of_no_task (Bearer.no_task_of_works free hother)
  · exact finds

/-! ### Bearers that were never reset -/

/-- Where all tasks are current, there is one at most. -/
theorem Bearer.InOrder.single (h : b.InOrder) (current : b.current = b.tasks) :
    b.tasks.card ≤ 1 := by
  rw [← current]
  exact h.fits.card_le_one

/-- Where all tasks are current, the phase waits for any of them. -/
theorem Bearer.InOrder.isBusy (h : b.InOrder) (current : b.current = b.tasks) {task : Task}
    (mem : task ∈ b.tasks) : b.controller.phase.isBusy = true := by
  by_contra hfree
  rw [← current, (h.fits.current_eq_zero (Bool.eq_false_iff.mpr hfree)).1] at mem
  exact Multiset.notMem_zero task mem

theorem Bearer.length_openCalls_le (b : Bearer ι) : b.openCalls.length ≤ b.tasks.card := by
  simp only [Bearer.tasks, Multiset.coe_card, List.length_append, List.length_map]
  omega

/-! ### Reactions -/

/-- What a reaction needs of the radio is what the mail has found it with. -/
theorem Rule.finds {m : Controller Unit} {mail : Mail} {r : Reaction Unit}
    (h : Rule s m.connection m.interceptor m.phase mail r) (live : r.halt = none)
    (finds : (Work.mail mail).Finds hold) (supposes : m.Supposes hold)
    (undisturbed : ∀ number, mail ≠ .inquiry number .reset) :
    (∀ command ∈ r.commands, (Work.order command).Finds hold) ∧
      (m.after s mail r).1.Supposes hold := by
  have silent : ∀ {commands : List Command}, commands = [] →
      ∀ command ∈ commands, (Work.order command).Finds hold := by
    rintro commands rfl command hcommand
    cases hcommand
  obtain ⟨phase, c, i, mailbox, deferred, outbox, halted⟩ := m
  cases h with
  | waits | joins | vacuous | strange | leaves | hears | ignores =>
    exact ⟨silent rfl, supposes.idle, supposes.up⟩
  | @answers _ _ inquiry _ =>
    obtain ⟨link, intent, hanswer⟩ := c.answer_eq s phase inquiry
    refine ⟨silent rfl, supposes.idle, fun hup => ?_⟩
    show hold = .held (c.answer s phase inquiry).2.bearerId
    rw [hanswer]
    exact supposes.up hup
  | impossible | stops => cases live
  | intercepted ordered caught => cases caught
  | ordered =>
    refine ⟨fun command hcommand => ?_, .of_isBusy rfl⟩
    rw [List.mem_singleton.mp hcommand]
    exact supposes.idle rfl
  | releases =>
    refine ⟨fun command hcommand => ?_, .of_isBusy rfl⟩
    rw [List.mem_singleton.mp hcommand]
    exact supposes.up rfl
  | fails setback =>
    refine ⟨silent rfl, fun _ => ?_, fun hup => by cases hup⟩
    cases setback with
    | unavailable | rejected | named | unnamed => exact finds
    | reported _ status =>
      rw [Work.Finds, Hold.of, if_neg status] at finds
      exact finds
  | asks =>
    refine ⟨fun command hcommand => ?_, .of_isBusy rfl⟩
    rw [List.mem_singleton.mp hcommand]
    exact finds
  | accepts status =>
    refine ⟨silent rfl, fun hidle => (by cases hidle), fun _ => ?_⟩
    rw [Work.Finds, Hold.of, if_pos status] at finds
    exact finds
  | refuses status =>
    refine ⟨fun command hcommand => ?_, .of_isBusy rfl⟩
    rw [List.mem_singleton.mp hcommand]
    rw [Work.Finds, Hold.of, if_pos status] at finds
    exact finds
  | released => exact ⟨silent rfl, fun _ => finds, fun hup => by cases hup⟩
  | resets number => exact absurd rfl (undisturbed number)

/-- Only calls and answers change what the radio holds. -/
theorem Event.entry?_stays {event : Event} {emptied : Bool} {entry : Entry}
    (h : event.entry? emptied = some entry)
    (silent : ∀ number command, event ≠ .called number command) : hold.Moves entry hold := by
  rw [Event.entry?.eq_def] at h
  split at h
  · next request =>
    obtain rfl := Option.some.inj h
    exact .admits hold request
  · next request =>
    split at h
    · obtain rfl := Option.some.inj h
      exact .empties hold request
    · cases h
  · next number command => exact absurd rfl (silent number command)
  · cases h

/-- Nothing that a reaction puts on record changes what the radio holds. -/
theorem Rule.runs_noted [Interceptor ι] {m : Controller ι} {mail : Mail} {r : Reaction ι}
    (h : Rule s m.connection m.interceptor m.phase mail r) :
    Hold.Runs hold (m.noted s mail r) hold := by
  have hsilent := h.not_called
  rw [Controller.noted_eq]
  generalize (m.after s mail r).1.connection.clients.isEmpty = emptied
  generalize r.events = events at hsilent ⊢
  induction events with
  | nil => exact .nil hold
  | cons event events ih =>
    have hlater := ih fun number command hmem =>
      hsilent number command (List.mem_cons_of_mem _ hmem)
    rw [List.filterMap_cons]
    split
    · exact hlater
    · next entry hentry =>
      refine .cons (Event.entry?_stays hentry fun number command heq => ?_) hlater
      rw [heq] at hsilent
      exact hsilent number command List.mem_cons_self

namespace Bearer.Finds

/-- Handling a piece of mail leaves the radio with what it holds. -/
theorem after {b : Bearer Unit} {mail : Mail} {rest : List Mail} {r : Reaction Unit}
    {m : Controller Unit} (h : b.Finds hold) (first : b.controller.mailbox = mail :: rest)
    (hm : m = b.controller.withMailbox rest)
    (hrule : Rule s m.connection m.interceptor m.phase mail r) (live : r.halt = none)
    (undisturbed : ∀ number, mail ≠ .inquiry number .reset) :
    (b.withController (m.after s mail r).1).Finds hold := by
  have hmail : (Work.mail mail).Finds hold :=
    h.works _ (Bearer.mem_works.mpr (Or.inr (Or.inr ⟨mail, Bearer.mem_mails_of_first first, rfl⟩)))
  have hsupposes : m.Supposes hold := by
    rw [hm]
    exact ⟨h.supposes.idle, h.supposes.up⟩
  obtain ⟨hcommands, hafter⟩ := hrule.finds live hmail hsupposes undisturbed
  refine ⟨fun work hwork => ?_, hafter⟩
  rcases mem_works_after first hm hrule.posts_eq_nil hwork with hbefore | ⟨-, command, hnew, rfl⟩
  · exact h.works work hbefore
  · exact hcommands command hnew

/-- The radio is told the only command. -/
theorem dispatchAll (h : b.Finds hold) (inOrder : b.InOrder) (current : b.current = b.tasks)
    (outbox : b.controller.outbox ≠ []) (on : s.radioOn = true) (emptied : Bool) :
    ∃ hold', Hold.Runs hold ((b.clearOutbox.dispatchAll s b.controller.outbox).2.filterMap
        (Event.entry? emptied)) hold' ∧
      (b.clearOutbox.dispatchAll s b.controller.outbox).1.Finds hold' := by
  obtain ⟨command, hout, hfree⟩ := Bearer.single_command (inOrder.single current) outbox
  have hdispatch : b.clearOutbox.dispatchAll s [command] = b.clearOutbox.call command := by
    rw [Bearer.dispatchAll, Bearer.dispatch.eq_def, on]
    cases command <;> rfl
  have hwork : (Work.order command).Finds hold := by
    refine h.works _ (Bearer.mem_works.mpr (Or.inl ⟨command, ?_, rfl⟩))
    rw [hout]
    exact List.mem_cons_self
  obtain ⟨hold', hmoves, hfinds⟩ := hwork.told b.calls
  have hmem : command.task ∈ b.tasks := by
    rw [Bearer.tasks, hout]
    exact List.mem_cons_self
  rw [hout, hdispatch]
  exact ⟨hold', .one hmoves, Bearer.finds_of_only hfinds hfree
    (fun work hwork => Bearer.mem_works_call hwork) (inOrder.isBusy current hmem)⟩

/-- The radio answers the only command. -/
theorem answer {call : Nat} {given : RadioAnswers} {command : Command} {mail : Mail}
    (h : b.Finds hold) (inOrder : b.InOrder) (current : b.current = b.tasks)
    (numbered : b.Numbered) (isOpen : (call, command) ∈ b.openCalls)
    (ready : command.completion? given = some mail) :
    ∃ hold', hold.Moves (.heard command mail) hold' ∧
      ((b.close call).send [mail]).Finds hold' := by
  have hwork : (Work.call call command).Finds hold :=
    h.works _ (Bearer.mem_works.mpr (Or.inr (Or.inl ⟨_, isOpen, rfl⟩)))
  obtain ⟨hold', hmoves, hfinds⟩ := hwork.heard ready
  have hmem : command.task ∈ b.tasks := by
    rw [Bearer.tasks_close numbered isOpen]
    exact Multiset.mem_cons_self _ _
  exact ⟨hold', hmoves, Bearer.finds_of_only hfinds
    (Bearer.single_call (inOrder.single current) numbered isOpen)
    (fun work hwork => Bearer.mem_works_send hwork) (inOrder.isBusy current hmem)⟩

end Bearer.Finds

end

/-! ### Acts -/

namespace Scene

variable {ι : Type} [Interceptor ι] {s : Setting}

/-- Whatever comes, what comes next on record is a move. -/
theorem finds_step {w : Scene Unit} {act : Act Unit} {hold : Hold} (finds : w.bearer.Finds hold)
    (numbered : w.bearer.Numbered) (inOrder : w.bearer.InOrder)
    (current : w.bearer.current = w.bearer.tasks)
    (undisturbed : ∀ number, ¬ w.Handles act (.inquiry number .reset))
    (on : w.setting.radioOn = true) :
    ∃ hold', Hold.Runs hold (w.entries act) hold' ∧
      ((w.step act).1.bearer.isHalted = false → (w.step act).1.bearer.Finds hold') := by
  by_cases hturn : act = .turn
  · subst hturn
    cases hmail : w.controller.mailbox with
    | cons mail rest =>
      obtain ⟨r, -, hrule, hstep⟩ := step_turn hmail
      have hreset : ∀ number, mail ≠ .inquiry number .reset := by
        rintro number rfl
        exact undisturbed number ⟨rfl, rest, hmail⟩
      rw [entries, hstep]
      refine ⟨hold, hrule.runs_noted (m := w.controller.withMailbox rest), fun live => ?_⟩
      exact finds.after hmail rfl hrule (Controller.live_after_iff.mp live).1 hreset
    | nil =>
      by_cases hout : w.controller.outbox = []
      · rw [entries, step_turn_of_rest ⟨hmail, hout⟩]
        exact ⟨hold, .nil hold, fun _ => finds⟩
      · obtain ⟨hold', hruns, hfinds⟩ := finds.dispatchAll inOrder current hout on
          (w.step .turn).1.controller.connection.clients.isEmpty
        rw [step, Bearer.turn_of_nil hmail hout] at hruns
        rw [entries, step, Bearer.turn_of_nil hmail hout]
        exact ⟨hold', hruns, fun _ => hfinds⟩
  · by_cases hanswer : ∃ call given, act = .answer call given
    · obtain ⟨call, given, rfl⟩ := hanswer
      rcases w.answer_cases call given with
        ⟨hstep, hentries⟩ | ⟨command, mail, hopen, hready, hstep, hentries⟩
      · rw [hstep, hentries]
        exact ⟨hold, .nil hold, fun _ => finds⟩
      · obtain ⟨hold', hmoves, hfinds⟩ := finds.answer inOrder current numbered hopen hready
        rw [hstep, hentries]
        exact ⟨hold', .one hmoves, fun _ => hfinds⟩
    · have hsilent : ∀ call given, act ≠ .answer call given :=
        fun call given heq => hanswer ⟨call, given, heq⟩
      have hchange := w.change_step act
      have hsupposes := finds.supposes
      rw [entries_of_silent hsilent hturn]
      refine ⟨hold, .nil hold, fun _ => ⟨fun work hwork => ?_, ?_⟩⟩
      · rcases (hchange.works hsilent hturn).1 work hwork with hbefore | hnone
        · exact finds.works work hbefore
        · exact Work.finds_of_no_task hnone
      · rcases hchange.turned_or_quiet with ⟨mail, rest, r, hact, -⟩ | hquiet
        · exact absurd hact hturn
        · refine ⟨fun hidle => ?_, fun hup => ?_⟩
          · exact hsupposes.idle (hquiet.phase ▸ hidle)
          · rw [hquiet.connection]
            exact hsupposes.up (hquiet.phase ▸ hup)

theorem Change.openCalls_subset {w w' : Scene ι} {act : Act ι} {events : List Event}
    (h : Change w act w' events) (spent : w.controller.Spent)
    (halted : w.bearer.isHalted = true) : w'.bearer.openCalls ⊆ w.bearer.openCalls := by
  cases h with
  | answered => exact List.filter_subset_self _
  | dispatched =>
    obtain ⟨-, -, hout⟩ := spent halted
    rw [show w.controller.outbox = [] from hout]
    exact List.Subset.refl _
  | asked wish => cases wish <;> exact List.Subset.refl _
  | _ => exact List.Subset.refl _

theorem entries_of_halted {w : Scene ι} (act : Act ι) (spent : w.controller.Spent)
    (halted : w.bearer.isHalted = true) (openCalls : w.bearer.openCalls = []) :
    w.entries act = [] := by
  by_cases hturn : act = .turn
  · subst hturn
    obtain ⟨hmail, -, hout⟩ := spent halted
    rw [entries, step_turn_of_rest ⟨hmail, hout⟩]
    rfl
  · by_cases hanswer : ∃ call given, act = .answer call given
    · obtain ⟨call, given, rfl⟩ := hanswer
      rcases w.answer_cases call given with ⟨-, hentries⟩ | ⟨command, mail, hopen, -⟩
      · exact hentries
      · rw [openCalls] at hopen
        cases hopen
    · exact entries_of_silent (fun call given heq => hanswer ⟨call, given, heq⟩) hturn

/-- A bearer that nothing has told to stop is idle when it halts. -/
theorem Change.idle_of_halt {w w' : Scene ι} {act : Act ι} {events : List Event}
    (h : Change w act w' events) (live : w.bearer.isHalted = false)
    (halted : w'.bearer.isHalted = true) (calm : w'.Calm) :
    w.controller.phase = .idle ∧ w'.bearer.openCalls = w.bearer.openCalls := by
  have hhalt : w'.controller.halt = some .impossibleOrder := by
    rcases calm with himpossible | ⟨hnone, -⟩
    · exact himpossible
    · rw [Bearer.isHalted, Controller.isHalted, hnone] at halted
      cases halted
  have hbefore : w.controller.halt = none :=
    Option.isNone_iff_eq_none.mp (Option.isSome_eq_false_iff.mp live)
  rcases h.turned_or_quiet with ⟨mail, rest, r, -, -, hrule, rfl, -⟩ | hquiet
  · refine ⟨?_, rfl⟩
    have hafter := Controller.halt_after w.setting (w.controller.withMailbox rest) mail r
    rw [show (Controller.after _ _ _ _).1.halt = some .impossibleOrder from hhalt,
      show (w.controller.withMailbox rest).halt = none from hbefore, Option.or_none] at hafter
    generalize w.controller.phase = p at hrule ⊢
    cases hrule with
    | impossible => rfl
    | _ => cases hafter
  · rw [hquiet.halt, hbefore] at hhalt
    cases hhalt

/-! ### Runs that nothing disturbs -/

/-- All tasks are current where nothing disturbs. -/
theorem current_of_calm {i : ι} {acts : List (Act ι)}
    (entries : idleEntries ((start s i).run acts).2 < 2 ^ 64)
    (live : ((start s i).run acts).1.bearer.isHalted = false)
    (hacts : ∀ act ∈ acts, act.IsCalm) :
    ((start s i).run acts).1.bearer.current = ((start s i).run acts).1.bearer.tasks := by
  rw [Bearer.current, ofGeneration, Multiset.filter_eq_self]
  intro task hmem
  by_contra hpast
  exact not_resetDuring live hacts (reset_of_past entries live hmem hpast)

/-- Where nothing disturbs, a bearer halts while nothing is under way. -/
theorem openCalls_of_halted {i : ι} {acts : List (Act ι)}
    (entries : idleEntries ((start s i).run acts).2 < 2 ^ 64)
    (halted : ((start s i).run acts).1.bearer.isHalted = true)
    (hacts : ∀ act ∈ acts, act.IsCalm) :
    ((start s i).run acts).1.bearer.openCalls = [] := by
  induction acts using List.reverseRecOn with
  | nil => rfl
  | append_singleton acts act ih =>
    have hbefore := (idleEntries_run_le (start s i) acts [act]).trans_lt entries
    have hcalm := calm_run (s := s) (i := i) hacts
    have hacts' : ∀ other ∈ acts, other.IsCalm :=
      fun other hother => hacts other (List.mem_append_left _ hother)
    have hspent := spent_run acts (spent_start s i)
    rw [run_concat] at halted hcalm ⊢
    have hchange := ((start s i).run acts).1.change_step act
    cases hlive : ((start s i).run acts).1.bearer.isHalted with
    | true =>
      exact List.subset_nil.mp (ih hbefore hlive hacts' ▸ hchange.openCalls_subset hspent hlive)
    | false =>
      obtain ⟨hidle, hsame⟩ := hchange.idle_of_halt hlive halted hcalm
      have hnone := (inOrder_of_start hbefore hlive).fits.current_eq_zero (by rw [hidle]; rfl)
      have hlength := Bearer.length_openCalls_le ((start s i).run acts).1.bearer
      rw [← current_of_calm hbefore hlive hacts', hnone.1] at hlength
      rw [hsame]
      exact List.eq_nil_of_length_eq_zero (Nat.le_zero.mp hlength)

/-- Where nothing disturbs, one call at most is open. -/
theorem length_openCalls_le_one {i : ι} {acts : List (Act ι)}
    (entries : idleEntries ((start s i).run acts).2 < 2 ^ 64)
    (hacts : ∀ act ∈ acts, act.IsCalm) :
    ((start s i).run acts).1.bearer.openCalls.length ≤ 1 := by
  cases hlive : ((start s i).run acts).1.bearer.isHalted with
  | true =>
    rw [openCalls_of_halted entries hlive hacts]
    exact Nat.zero_le 1
  | false =>
    have hsingle := (inOrder_of_start entries hlive).single (current_of_calm entries hlive hacts)
    exact (Bearer.length_openCalls_le _).trans hsingle

/-- A radio that nobody switches off stays on. -/
theorem radioOn_run {w : Scene ι} (acts : List (Act ι)) (on : w.setting.radioOn = true)
    (hacts : ∀ act ∈ acts, act ≠ .switchRadio false) :
    (w.run acts).1.setting.radioOn = true := by
  have stays : ∀ {w w' : Scene ι} {act : Act ι} {events : List Event}, Change w act w' events →
      act ≠ .switchRadio false → w.setting.radioOn = true → w'.setting.radioOn = true := by
    intro w w' act events h hact hon
    cases h with
    | switched on =>
      cases on with
      | true => rfl
      | false => exact absurd rfl hact
    | asked wish => cases wish <;> exact hon
    | _ => exact hon
  induction acts generalizing w with
  | nil => exact on
  | cons act acts ih =>
    have hnow := stays (w.change_step act) (hacts act List.mem_cons_self) on
    exact ih hnow fun other hother => hacts other (List.mem_cons_of_mem _ hother)

/-- In every run that nothing disturbs, and in which the radio stays on, what comes on record are
moves, and what is still to be done finds the radio with what it needs. -/
theorem finds_run (s : Setting) (acts : List (Act Unit))
    (entries : idleEntries ((start s ()).run acts).2 < 2 ^ 64)
    (hacts : ∀ act ∈ acts, act.IsCalm) (on : s.radioOn = true)
    (hradio : ∀ act ∈ acts, act ≠ .switchRadio false) :
    ∃ hold, Hold.Runs .nothing ((start s ()).record acts) hold ∧
      (((start s ()).run acts).1.bearer.isHalted = false →
        ((start s ()).run acts).1.bearer.Finds hold) := by
  induction acts using List.reverseRecOn with
  | nil =>
    refine ⟨.nothing, .nil _, fun _ => ⟨fun work hwork => ?_, fun _ => rfl, fun hup => ?_⟩⟩
    · cases hwork
    · cases hup
  | append_singleton acts act ih =>
    have hbefore := (idleEntries_run_le (start s ()) acts [act]).trans_lt entries
    have hacts' : ∀ other ∈ acts, other.IsCalm :=
      fun other hother => hacts other (List.mem_append_left _ hother)
    have hradio' : ∀ other ∈ acts, other ≠ .switchRadio false :=
      fun other hother => hradio other (List.mem_append_left _ hother)
    obtain ⟨hold, hruns, hfinds⟩ := ih hbefore hacts' hradio'
    have hspent := spent_run acts (spent_start s ())
    rw [run_concat, record_concat]
    cases hlive : ((start s ()).run acts).1.bearer.isHalted with
    | true =>
      have hnone := openCalls_of_halted hbefore hlive hacts'
      rw [entries_of_halted act hspent hlive hnone, List.append_nil]
      refine ⟨hold, hruns, fun live => ?_⟩
      have hearlier := (((start s ()).run acts).1.change_step act).live live
      rw [hearlier] at hlive
      cases hlive
    | false =>
      have hunreset : ∀ number, ¬ ((start s ()).run acts).1.Handles act (.inquiry number .reset) := by
        intro number hreset
        cases (calm_run hacts').not_disturbed hlive hreset
      obtain ⟨hold', hnow, hafter⟩ := finds_step (hfinds hlive)
        (numbered_run _ acts (Bearer.numbered_start ())) (inOrder_of_start hbefore hlive)
        (current_of_calm hbefore hlive hacts') hunreset (radioOn_run acts on hradio')
      exact ⟨hold', hruns.append hnow, hafter⟩

end Scene

/-- In every generation the radio is told to set up a bearer for the request that was admitted, and
then at most one thing more, once it has answered and for a reason that its answer gives.  Where
nothing disturbs, it is never told anything while it has something to answer; and as long as it
stays on, a bearer that it has set up is released exactly once before the next set-up. -/
theorem radio_discipline (s : Setting) (acts : List (Act Unit))
    (entries : idleEntries ((Scene.start s ()).run acts).2 < 2 ^ 64) :
    (∀ generation, Course s (courseOf generation ((Scene.start s ()).record acts)) ∧
      Told s (courseOf generation ((Scene.start s ()).record acts))
        ((courseOf generation ((Scene.start s ()).record acts)).filterMap Entry.command?)) ∧
    ((∀ act ∈ acts, act.IsCalm) →
      ((Scene.start s ()).run acts).1.bearer.openCalls.length ≤ 1 ∧
      (s.radioOn = true → (∀ act ∈ acts, act ≠ .switchRadio false) →
        ∀ before command request reply between order request' after,
          (Scene.start s ()).record acts =
            before ++ .heard command (.setUpDone request (.ok reply)) ::
              (between ++ .told (.setUp order request') :: after) →
          reply.status = 0 → (∀ order request, .told (.setUp order request) ∉ between) →
            between.filterMap Entry.released? = [reply.bearerId])) := by
  have hcourse := (Scene.onRecord_run s acts entries).course
  refine ⟨fun generation => ⟨hcourse generation, (hcourse generation).told⟩, fun hacts => ?_⟩
  refine ⟨Scene.length_openCalls_le_one entries hacts, ?_⟩
  intro on hradio before command request reply between order request' after split status none
  obtain ⟨hold, hruns, -⟩ := Scene.finds_run s acts entries hacts on hradio
  rw [split] at hruns
  exact hruns.released_once status none

/-- The only client of a bearer has it torn down, and another client gets the next one. -/
def handover : List (Act Unit) :=
  [.ask (.bringUp "a" {}), .take, .turn, .turn, .answer 0 { setUp := some (.ok plainReply) },
    .take, .turn, .ask (.tearDown (some "a") "radioTurnedOff"), .take, .turn, .turn,
    .answer 1 { release := some (.ok ()) }, .take, .turn, .ask (.bringUp "b" {}), .take, .turn,
    .turn]

/-- The tear-down, as it takes the only client with it. -/
def lastTearDown : TearDown where
  number := 0
  client := some "a"
  reason := "radioTurnedOff"
  generation := 1
  detached := ["a"]

/-- The second bring-up, as it is admitted. -/
def nextRequest : BringUp where
  number := 1
  client := "b"
  accessPoint := {}
  generation := 2

/-- What is put on record between the radio's answer and the second set-up. -/
def handedOver : List Entry :=
  [.emptied lastTearDown, .told (.release 7 .radioOff (.tearDown lastTearDown)),
    .heard (.release 7 .radioOff (.tearDown lastTearDown)) (.releaseDone (.tearDown lastTearDown)),
    .admitted nextRequest]

/-- The first bearer is released once before the second set-up. -/
theorem radio_discipline_handover :
    idleEntries ((Scene.start .cellular ()).run handover).2 < 2 ^ 64 ∧
    (Scene.start .cellular ()).record handover =
      [.admitted firstRequest, .told (.setUp plainOrder firstRequest)] ++
        .heard (.setUp plainOrder firstRequest) (.setUpDone firstRequest (.ok plainReply)) ::
          (handedOver ++ [.told (.setUp plainOrder nextRequest)]) ∧
    ((Scene.start .cellular ()).run handover).1.bearer.openCalls.length ≤ 1 ∧
    handedOver.filterMap Entry.released? = [7] := by
  have hcalm : ∀ act ∈ handover, act.IsCalm := by simp [handover, Act.IsCalm]
  have hradio : ∀ act ∈ handover, act ≠ .switchRadio false := by simp [handover]
  have hsplit : (Scene.start .cellular ()).record handover =
      [.admitted firstRequest, .told (.setUp plainOrder firstRequest)] ++
        .heard (.setUp plainOrder firstRequest) (.setUpDone firstRequest (.ok plainReply)) ::
          (handedOver ++ [.told (.setUp plainOrder nextRequest)]) := rfl
  obtain ⟨-, hrest⟩ := radio_discipline .cellular handover (by decide)
  obtain ⟨hsingle, hreleased⟩ := hrest hcalm
  refine ⟨by decide, hsplit, hsingle, ?_⟩
  exact hreleased rfl hradio _ _ _ _ _ _ _ _ hsplit rfl (by simp [handedOver])

end PacketBearer
