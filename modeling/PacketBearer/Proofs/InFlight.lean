/-
The tasks under way, and how they fit the phase.

A task is under way from the moment its command is issued until the mail that reports on it is
handled.  Many of them can be under way, for becoming idle does not call any of them back; but of
the current generation there is at most one, and the phase says of what kind.

* `Bearer.tasks` — the tasks under way, wherever they are;
* `Fits` — what each phase demands of the record, of the deferred mail and of the current tasks;
* `Fits.after` — whatever mail is handled, the next phase gets what it demands;
* `inOrder_preserved` — no act brings anything out of order;
* `inOrder_run` — in a run that has not halted everything is in order after every act.

Design notes: the generation is a 64-bit counter.  A task of a past generation is told from a
current one for as long as the counter has not come round, that is, while the bearer has become
idle fewer than `2 ^ 64` times, its beginning included.
-/
import Mathlib.Algebra.Order.Group.Multiset
import PacketBearer.Proofs.Generation
import PacketBearer.Proofs.Tally

namespace PacketBearer

/-- The tasks that a bearer has ordered and has not yet heard of. -/
def Bearer.tasks {ι : Type} (b : Bearer ι) : Multiset Task :=
  ↑(b.controller.outbox.map Command.task ++ b.openCalls.map (fun call => call.2.task) ++
    (b.controller.mailbox ++ b.controller.deferred ++ b.inbox).filterMap Mail.task?)

/-- The tasks of a generation. -/
def ofGeneration (generation : UInt64) (tasks : Multiset Task) : Multiset Task :=
  tasks.filter (·.generation = generation)

/-- The tasks of the current generation. -/
def Bearer.current {ι : Type} (b : Bearer ι) : Multiset Task :=
  ofGeneration b.controller.connection.generation b.tasks

/-- What a phase demands of the record, of the deferred mail and of the current tasks. -/
def Fits (c : Connection) (deferred : List Mail) (current : Multiset Task) : Phase → Prop
  | .idle =>
    current = 0 ∧ c.clients = ∅ ∧ c.bearerId = -1 ∧ c.accessPoint = none ∧ deferred = []
  | .settingUp => ∃ request : BringUp,
    (current = {.setUp request} ∨ current = {.lastCause request}) ∧
      c.clients.names = [request.client] ∧ c.accessPoint = some request.accessPoint ∧
      c.bearerId = -1
  | .up =>
    current = 0 ∧ c.clients.names ≠ [] ∧ c.clients.names.Nodup ∧ c.accessPoint.isSome = true ∧
      deferred = []
  | .releasing => ∃ request : TearDown,
    current = {.release (.tearDown request)} ∧ c.clients = ∅ ∧ c.accessPoint.isSome = true
  | .cleaningUp => ∃ request : BringUp,
    current = {.release (.cleanUp request)} ∧ c.clients.names = [request.client] ∧
      c.accessPoint = some request.accessPoint ∧ c.bearerId = -1

/-- A bearer whose tasks, mail and record are as its phase demands. -/
structure Bearer.InOrder {ι : Type} (b : Bearer ι) : Prop where
  -- no task is of a generation still to come
  bounded : ∀ task ∈ b.tasks, task.generation ≤ b.controller.connection.generation
  -- only requests wait for another phase
  waiting : ∀ mail ∈ b.controller.deferred, mail.isRequest = true
  fits : Fits b.controller.connection b.controller.deferred b.current b.controller.phase

/-! ### Tasks as a tally -/

namespace Tally

/-- The tasks that mail reports on, and that commands order. -/
def tasks : Tally (Multiset Task) where
  ofMail mail := mail.task?.toList
  ofCommand command := {command.task}
  answered h := by rw [Command.task?_completion h]; rfl

@[simp] theorem tasks_ofMail (mail : Mail) : tasks.ofMail mail = mail.task?.toList := rfl

@[simp] theorem tasks_ofCommand (command : Command) :
    tasks.ofCommand command = {command.task} := rfl

theorem tasks_ofMail_none {mail : Mail} (h : mail.task? = none) : tasks.ofMail mail = 0 := by
  rw [tasks_ofMail, h]
  rfl

theorem tasks_ofMail_some {mail : Mail} {task : Task} (h : mail.task? = some task) :
    tasks.ofMail mail = {task} := by
  rw [tasks_ofMail, h]
  rfl

theorem tasks_ofMails (mails : List Mail) : tasks.ofMails mails = mails.filterMap Mail.task? := by
  induction mails with
  | nil => rfl
  | cons mail mails ih =>
    rw [ofMails_cons, ih, tasks_ofMail, Multiset.coe_add]
    cases h : mail.task? <;> simp [h]

theorem tasks_ofCommands (commands : List Command) :
    tasks.ofCommands commands = commands.map Command.task := by
  induction commands with
  | nil => rfl
  | cons command commands ih =>
    rw [ofCommands_cons, ih, tasks_ofCommand]
    rfl

end Tally

theorem Bearer.tasks_eq {ι : Type} (b : Bearer ι) : b.tasks = Tally.tasks.ofBearer b := by
  rw [Bearer.tasks, Tally.ofBearer, Tally.ofController]
  simp only [Tally.tasks_ofMails, Tally.tasks_ofCommands, List.filterMap_append, List.map_map,
    ← Multiset.coe_add, Function.comp_def]
  abel

/-- The first piece of mail reports on a task, or it does not, and the others are under way
without it. -/
theorem Bearer.tasks_first {ι : Type} {b : Bearer ι} {mail : Mail} {rest : List Mail}
    (first : b.controller.mailbox = mail :: rest) :
    b.tasks = Tally.tasks.ofMail mail +
      (b.withController (b.controller.withMailbox rest)).tasks := by
  rw [Bearer.tasks_eq, Bearer.tasks_eq, tally_first Tally.tasks first]

/-- A reaction adds the tasks that it issues. -/
theorem Bearer.tasks_after {ι : Type} (s : Setting) (b : Bearer ι) (m : Controller ι)
    (mail : Mail) {r : Reaction ι} (halt : r.halt = none) :
    (b.withController (m.after s mail r).1).tasks =
      (b.withController m).tasks + Tally.tasks.ofReaction mail r := by
  rw [Bearer.tasks_eq, Bearer.tasks_eq, tally_react Tally.tasks s b m mail halt]

/-- The bearer with other commands for the radio. -/
def Bearer.withOutbox {ι : Type} (b : Bearer ι) (outbox : List Command) : Bearer ι :=
  { b with controller := { b.controller with outbox } }

/-- The first command of several is a task of its own. -/
theorem Bearer.tasks_withOutbox {ι : Type} (b : Bearer ι) (command : Command)
    (commands : List Command) :
    (b.withOutbox (command :: commands)).tasks =
      command.task ::ₘ (b.withOutbox commands).tasks := by
  rw [Bearer.tasks_eq, Bearer.tasks_eq, ← Multiset.singleton_add]
  simp only [Tally.ofBearer, Tally.ofController, Bearer.withOutbox, Tally.ofCommands_cons,
    Tally.tasks_ofCommand]
  abel

/-- An open call is a task of its own. -/
theorem Bearer.tasks_close {ι : Type} {b : Bearer ι} (numbered : b.Numbered)
    {call : Nat} {command : Command} (isOpen : (call, command) ∈ b.openCalls) :
    b.tasks = command.task ::ₘ (b.close call).tasks := by
  rw [Bearer.tasks_eq, Bearer.tasks_eq, ← Multiset.singleton_add, Tally.ofBearer, Tally.ofBearer,
    sum_filter_ne Tally.tasks numbered.nodup isOpen, Tally.tasks_ofCommand]
  simp only [Bearer.close]
  abel

/-- Where there is one task at most, a command is the only one, and nothing else is under way. -/
theorem Bearer.single_command {ι : Type} {b : Bearer ι} (single : b.tasks.card ≤ 1)
    (outbox : b.controller.outbox ≠ []) :
    ∃ command, b.controller.outbox = [command] ∧ b.clearOutbox.tasks = 0 := by
  obtain ⟨command, commands, hout⟩ := List.exists_cons_of_ne_nil outbox
  have hbefore := b.tasks_withOutbox command commands
  have hsame : b.withOutbox (command :: commands) = b := by
    rw [Bearer.withOutbox, ← hout]
  rw [hsame] at hbefore
  rw [hbefore, Multiset.card_cons] at single
  have hnone : (b.withOutbox commands).tasks = 0 := Multiset.card_eq_zero.mp (by omega)
  cases commands with
  | nil => exact ⟨command, hout, hnone⟩
  | cons second commands =>
    rw [b.tasks_withOutbox] at hnone
    exact absurd hnone (Multiset.cons_ne_zero)

/-- Where there is one task at most, nothing is under way besides an open call. -/
theorem Bearer.single_call {ι : Type} {b : Bearer ι} (single : b.tasks.card ≤ 1)
    (numbered : b.Numbered) {call : Nat} {command : Command}
    (isOpen : (call, command) ∈ b.openCalls) : (b.close call).tasks = 0 := by
  rw [Bearer.tasks_close numbered isOpen, Multiset.card_cons] at single
  exact Multiset.card_eq_zero.mp (by omega)

/-- A bearer that is left with nothing to do has no task under way. -/
theorem Bearer.tasks_eq_zero {ι : Type} {b : Bearer ι} (mailbox : b.controller.mailbox = [])
    (outbox : b.controller.outbox = []) (inbox : b.inbox = []) (openCalls : b.openCalls = [])
    (waiting : ∀ mail ∈ b.controller.deferred, mail.isRequest = true) : b.tasks = 0 := by
  have hwaiting : b.controller.deferred.filterMap Mail.task? = [] :=
    List.filterMap_eq_nil_iff.mpr fun mail hmail => Mail.task?_of_isRequest (waiting mail hmail)
  rw [Bearer.tasks, mailbox, outbox, inbox, openCalls, List.nil_append, List.append_nil, hwaiting]
  rfl

/-! ### Tasks of a generation -/

@[simp] theorem ofGeneration_zero (g : UInt64) : ofGeneration g 0 = 0 := rfl

@[simp] theorem ofGeneration_add (g : UInt64) (first second : Multiset Task) :
    ofGeneration g (first + second) = ofGeneration g first + ofGeneration g second :=
  Multiset.filter_add _ _ _

theorem ofGeneration_singleton {g : UInt64} {task : Task} (h : task.generation = g) :
    ofGeneration g {task} = {task} := by
  rw [ofGeneration, Multiset.filter_singleton, if_pos h]

theorem ofGeneration_singleton_of_ne {g : UInt64} {task : Task} (h : task.generation ≠ g) :
    ofGeneration g {task} = 0 := by
  rw [ofGeneration, Multiset.filter_singleton, if_neg h]
  rfl

theorem ofGeneration_eq_zero_iff {g : UInt64} {tasks : Multiset Task} :
    ofGeneration g tasks = 0 ↔ ∀ task ∈ tasks, task.generation ≠ g :=
  Multiset.filter_eq_nil

/-! ### The phase and the current tasks -/

section

variable {ι : Type} {s : Setting}

/-- Mail that reports on no task is none of what the phase makes demands of. -/
theorem Fits.of_no_task {p : Phase} {c : Connection} {deferred : List Mail} {mail : Mail}
    {others : Multiset Task}
    (h : Fits c deferred (ofGeneration c.generation (Tally.tasks.ofMail mail + others)) p)
    (no_task : mail.task? = none) : Fits c deferred (ofGeneration c.generation others) p := by
  rw [Tally.tasks_ofMail_none no_task, zero_add] at h
  exact h

/-- Mail that reports on a current task is told from all else that is current. -/
theorem Fits.of_current {p : Phase} {c : Connection} {deferred : List Mail} {mail : Mail}
    {task : Task} {others : Multiset Task}
    (h : Fits c deferred (ofGeneration c.generation (Tally.tasks.ofMail mail + others)) p)
    (reports : mail.task? = some task) (current : task.generation = c.generation) :
    Fits c deferred ({task} + ofGeneration c.generation others) p := by
  rw [ofGeneration_add, Tally.tasks_ofMail_some reports, ofGeneration_singleton current] at h
  exact h

/-- Mail that reports on a task of the past is none of what the phase makes demands of. -/
theorem Fits.of_past {p : Phase} {c : Connection} {deferred : List Mail} {mail : Mail}
    {task : Task} {others : Multiset Task}
    (h : Fits c deferred (ofGeneration c.generation (Tally.tasks.ofMail mail + others)) p)
    (reports : mail.task? = some task) (past : task.generation ≠ c.generation) :
    Fits c deferred (ofGeneration c.generation others) p := by
  rw [ofGeneration_add, Tally.tasks_ofMail_some reports, ofGeneration_singleton_of_ne past,
    zero_add] at h
  exact h

/-- What the phases in which requests wait demand does not depend on the mail that waits. -/
theorem Fits.of_isBusy {p : Phase} {c : Connection} {deferred : List Mail}
    {current : Multiset Task} (h : Fits c deferred current p) (hp : p.isBusy = true)
    (others : List Mail) : Fits c others current p := by
  cases p <;> first | exact h | cases hp

/-- A current task is awaited, and it is the only one. -/
theorem Fits.awaits {p : Phase} {c : Connection} {deferred : List Mail} {task : Task}
    {others : Multiset Task} (h : Fits c deferred ({task} + others) p) :
    p.awaits task = true ∧ others = 0 := by
  have alone : ∀ {only : Task}, {task} + others = ({only} : Multiset Task) →
      task = only ∧ others = 0 := by
    intro only heq
    have hcard := congrArg Multiset.card heq
    rw [Multiset.card_add, Multiset.card_singleton, Multiset.card_singleton] at hcard
    have hzero : others = 0 := Multiset.card_eq_zero.mp (by omega)
    rw [hzero, add_zero] at heq
    exact ⟨Multiset.singleton_inj.mp heq, hzero⟩
  have some_task : {task} + others ≠ 0 := by simp
  cases p with
  | idle => exact absurd h.1 some_task
  | settingUp =>
    obtain ⟨request, hcurrent | hcurrent, -⟩ := h
    · obtain ⟨rfl, hrest⟩ := alone hcurrent
      exact ⟨rfl, hrest⟩
    · obtain ⟨rfl, hrest⟩ := alone hcurrent
      exact ⟨rfl, hrest⟩
  | up => exact absurd h.1 some_task
  | releasing =>
    obtain ⟨request, hcurrent, -⟩ := h
    obtain ⟨rfl, hrest⟩ := alone hcurrent
    exact ⟨rfl, hrest⟩
  | cleaningUp =>
    obtain ⟨request, hcurrent, -⟩ := h
    obtain ⟨rfl, hrest⟩ := alone hcurrent
    exact ⟨rfl, hrest⟩

/-- At most one task is current. -/
theorem Fits.card_le_one {p : Phase} {c : Connection} {deferred : List Mail}
    {current : Multiset Task} (h : Fits c deferred current p) : current.card ≤ 1 := by
  cases p with
  | idle | up =>
    rw [h.1]
    exact Nat.zero_le 1
  | settingUp =>
    obtain ⟨request, hcurrent | hcurrent, -⟩ := h
    · rw [hcurrent, Multiset.card_singleton]
    · rw [hcurrent, Multiset.card_singleton]
  | releasing | cleaningUp =>
    obtain ⟨request, hcurrent, -⟩ := h
    rw [hcurrent, Multiset.card_singleton]

/-- Where no task is under way, no request has to wait. -/
theorem Fits.deferred_eq_nil {p : Phase} {c : Connection} {deferred : List Mail}
    (h : Fits c deferred 0 p) : deferred = [] := by
  have no_task : ∀ task : Task, (0 : Multiset Task) ≠ {task} :=
    fun task => (Multiset.singleton_ne_zero task).symm
  cases p with
  | idle =>
    obtain ⟨-, -, -, -, hdeferred⟩ := h
    exact hdeferred
  | settingUp =>
    obtain ⟨request, hcurrent | hcurrent, -⟩ := h
    · exact absurd hcurrent (no_task _)
    · exact absurd hcurrent (no_task _)
  | up =>
    obtain ⟨-, -, -, -, hdeferred⟩ := h
    exact hdeferred
  | releasing | cleaningUp =>
    obtain ⟨request, hcurrent, -⟩ := h
    exact absurd hcurrent (no_task _)

/-- The record during an attempt is that of the request that it is made for. -/
theorem Fits.attempt {c : Connection} {deferred : List Mail} {task : Task}
    {others : Multiset Task} {request : BringUp}
    (h : Fits c deferred ({task} + others) .settingUp)
    (task_of : task = .setUp request ∨ task = .lastCause request) :
    others = 0 ∧ c.clients.names = [request.client] ∧
      c.accessPoint = some request.accessPoint ∧ c.bearerId = -1 := by
  have hrest := h.awaits.2
  obtain ⟨request', hcurrent, hrecord⟩ := h
  have hsame : request = request' := by
    rw [hrest, add_zero] at hcurrent
    rcases task_of with rfl | rfl <;> simpa using hcurrent
  rw [hsame]
  exact ⟨hrest, hrecord⟩

/-- What a bearer gets that becomes idle. -/
theorem fits_idle (c : Connection) {current : Multiset Task} (h : current = 0) :
    Fits { c.wiped with generation := c.generation + 1 } [] current .idle :=
  ⟨h, rfl, rfl, rfl, rfl⟩

theorem current_of_silent {g : UInt64} {mail : Mail} {r : Reaction ι} {others : Multiset Task}
    (h : ofGeneration g others = 0) (posts : r.posts = []) (commands : r.commands = [])
    (waits : r.waits = false) :
    ofGeneration g (others + Tally.tasks.ofReaction mail r) = 0 := by
  rw [ofGeneration_add, h, Tally.ofReaction, posts, commands, waits]
  rfl

theorem current_of_ordered {g : UInt64} {mail : Mail} {r : Reaction ι} {others : Multiset Task}
    {task : Task} (h : ofGeneration g others = 0) (ordered : Tally.tasks.ofReaction mail r = {task})
    (current : task.generation = g) :
    ofGeneration g (others + Tally.tasks.ofReaction mail r) = {task} := by
  rw [ofGeneration_add, h, ordered, zero_add, ofGeneration_singleton current]

theorem fits_stays {m : Controller ι} {mail : Mail} {r : Reaction ι} {others : Multiset Task}
    (halt : r.halt = none) (next : r.next = none) (posts : r.posts = [])
    (commands : r.commands = []) (waits : r.waits = false)
    (h : Fits r.connection m.deferred (ofGeneration r.connection.generation others) m.phase) :
    Fits (m.after s mail r).1.connection (m.after s mail r).1.deferred
      (ofGeneration (m.after s mail r).1.connection.generation
        (others + Tally.tasks.ofReaction mail r)) (m.after s mail r).1.phase := by
  have hafter : (m.after s mail r).1 = m.absorb mail r := by
    rw [Controller.after, halt, next]
  have hadded : Tally.tasks.ofReaction mail r = 0 := by
    rw [Tally.ofReaction, posts, commands, waits]
    rfl
  rw [hafter, hadded, add_zero]
  simpa [Controller.absorb, waits] using h

theorem Fits.of_record {p : Phase} {c c' : Connection} {deferred : List Mail}
    {current : Multiset Task} (h : Fits c deferred current p) (clients : c'.clients = c.clients)
    (bearerId : c'.bearerId = c.bearerId) (accessPoint : c'.accessPoint = c.accessPoint) :
    Fits c' deferred current p := by
  cases p <;> simpa only [Fits, clients, bearerId, accessPoint] using h

/-- What an attempt gets that begins. -/
theorem fits_begun {c : Connection} {deferred : List Mail} {request : BringUp}
    {others added : Multiset Task} (h : Fits c deferred (ofGeneration c.generation others) .idle)
    (hadded : added = {.setUp (request.stamped c)}) :
    Fits (c.begun request) [] (ofGeneration c.generation (others + added)) .settingUp := by
  obtain ⟨hcurrent, hclients, hid, -⟩ := h
  refine ⟨request.stamped c, Or.inl ?_, ?_, rfl, hid⟩
  · rw [ofGeneration_add, hcurrent, hadded, zero_add]
    exact ofGeneration_singleton rfl
  · show (c.clients.attach request.client).2.names = [request.client]
    rw [hclients]
    exact Roster.names_attach_empty _

/-- Whatever mail is handled, the next phase gets what it demands. -/
theorem Fits.after [Interceptor ι] {m : Controller ι} {mail : Mail} {r : Reaction ι}
    {others : Multiset Task}
    (hrule : Rule s m.connection m.interceptor m.phase mail r) (hlive : r.halt = none)
    (hfits : Fits m.connection m.deferred
      (ofGeneration m.connection.generation (Tally.tasks.ofMail mail + others)) m.phase)
    (hfresh : ∀ arrival, r.next = some (.idle, arrival) →
      ofGeneration (m.connection.generation + 1) others = 0) :
    Fits (m.after s mail r).1.connection (m.after s mail r).1.deferred
      (ofGeneration (m.after s mail r).1.connection.generation
        (others + Tally.tasks.ofReaction mail r)) (m.after s mail r).1.phase := by
  obtain ⟨phase, c, i, mailbox, deferred, outbox, halt⟩ := m
  -- one case for each rule; a request is no task, so that all tasks are among the others then
  cases hrule with
  | waits busy request =>
    have hno := Mail.task?_of_isRequest request
    have hkept : Tally.tasks.ofReaction mail (wait c i mail) = 0 := by
      simp [Tally.ofReaction, wait, hno]
    show Fits c (deferred ++ [mail])
      (ofGeneration c.generation (others + Tally.tasks.ofReaction mail (wait c i mail))) phase
    rw [hkept, add_zero]
    exact (hfits.of_no_task hno).of_isBusy busy _
  | impossible => cases hlive
  | intercepted ordered caught =>
    exact fits_begun (hfits.of_no_task rfl) (by simp [Tally.ofReaction, Mail.task?])
  | ordered ordered passed =>
    exact fits_begun (hfits.of_no_task rfl) (by simp [Tally.ofReaction, Command.task])
  | joins request =>
    obtain ⟨hcurrent, -, hnodup, hpoint, hdeferred⟩ := hfits.of_no_task rfl
    exact fits_stays rfl rfl rfl rfl rfl ⟨hcurrent, Roster.attach_ne_nil _ _,
      Roster.nodup_attach hnodup _, hpoint, hdeferred⟩
  | vacuous request => exact fits_stays rfl rfl rfl rfl rfl (hfits.of_no_task rfl)
  | strange own stranger => exact fits_stays rfl rfl rfl rfl rfl (hfits.of_no_task rfl)
  | leaves own member several =>
    -- another client is left, since the roster names nobody twice
    obtain ⟨hcurrent, -, hnodup, hpoint, hdeferred⟩ := hfits.of_no_task rfl
    exact fits_stays rfl rfl rfl rfl rfl ⟨hcurrent, Roster.detach_ne_nil hnodup member several,
      Roster.nodup_detach hnodup _, hpoint, hdeferred⟩
  | @releases request last =>
    obtain ⟨hcurrent, -, -, hpoint, -⟩ := hfits.of_no_task rfl
    refine ⟨request.stamped c, ?_, rfl, hpoint⟩
    exact current_of_ordered hcurrent (by simp [Tally.ofReaction, Command.task]) rfl
  | fails setback current =>
    exact fits_idle _ (current_of_silent (hfresh _ rfl) rfl rfl rfl)
  | @asks request error available vague current =>
    -- the question takes the place of the attempt that it is about
    obtain ⟨hrest, hrecord⟩ := (hfits.of_current rfl current).attempt (Or.inl rfl)
    exact ⟨request, Or.inr (current_of_ordered hrest
      (by simp [Tally.ofReaction, Command.task]) current), hrecord⟩
  | @accepts request reply link status agreed current =>
    obtain ⟨hrest, hclients, hpoint, -⟩ := (hfits.of_current rfl current).attempt (Or.inl rfl)
    refine ⟨current_of_silent hrest rfl rfl rfl, ?_, ?_, ?_, rfl⟩
    · show c.clients.names ≠ []
      rw [hclients]
      exact List.cons_ne_nil _ _
    · show c.clients.names.Nodup
      rw [hclients]
      exact List.nodup_singleton _
    · show c.accessPoint.isSome = true
      rw [hpoint]
      rfl
  | @refuses request reply rejection status refused current =>
    obtain ⟨hrest, hrecord⟩ := (hfits.of_current rfl current).attempt (Or.inl rfl)
    exact ⟨request, current_of_ordered hrest (by simp [Tally.ofReaction, Command.task]) current,
      hrecord⟩
  | released awaited current =>
    exact fits_idle _ (current_of_silent (hfresh _ rfl) rfl rfl rfl)
  | @ignores _ _ task reports stale =>
    -- the radio reports on a task of the past, since a current one would be awaited
    have hpast : task.generation ≠ c.generation :=
      fun hcurrent => stale ⟨(hfits.of_current reports hcurrent).awaits.1, hcurrent⟩
    exact fits_stays rfl rfl rfl rfl rfl (hfits.of_past reports hpast)
  | hears result =>
    exact fits_stays rfl rfl rfl rfl rfl ((hfits.of_no_task rfl).of_record rfl rfl rfl)
  | @answers _ number inquiry kept =>
    obtain ⟨link, intent, hanswer⟩ := c.answer_eq s phase inquiry
    refine fits_stays rfl rfl rfl rfl rfl ?_
    show Fits (c.answer s phase inquiry).2 deferred
      (ofGeneration (c.answer s phase inquiry).2.generation others) phase
    rw [hanswer]
    exact (hfits.of_no_task rfl).of_record rfl rfl rfl
  | resets number away =>
    -- a reset calls no task back, but the generation that begins is younger than all of them
    exact fits_idle _ (current_of_silent (hfresh _ rfl) rfl rfl rfl)
  | stops => cases hlive

/-- A reaction issues at most one task, and that is of the current generation. -/
theorem Rule.issued [Interceptor ι] {c : Connection} {i : ι} {p : Phase} {mail : Mail}
    {r : Reaction ι} (h : Rule s c i p mail r) :
    Tally.tasks.ofReaction mail r = 0 ∨
      ∃ task, Tally.tasks.ofReaction mail r = {task} ∧ task.generation = c.generation := by
  cases h with
  | waits busy request =>
    refine Or.inl ?_
    simp [Tally.ofReaction, wait, Mail.task?_of_isRequest request]
  | @intercepted request =>
    refine Or.inr ⟨.setUp (request.stamped c), ?_, rfl⟩
    simp [Tally.ofReaction, Mail.task?]
  | @ordered request =>
    refine Or.inr ⟨.setUp (request.stamped c), ?_, rfl⟩
    simp [Tally.ofReaction, Command.task]
  | @releases request =>
    refine Or.inr ⟨.release (.tearDown (request.stamped c)), ?_, rfl⟩
    simp [Tally.ofReaction, Command.task]
  | @asks request error available vague current =>
    refine Or.inr ⟨.lastCause request, ?_, current⟩
    simp [Tally.ofReaction, Command.task]
  | @refuses request reply rejection status refused current =>
    refine Or.inr ⟨.release (.cleanUp request), ?_, current⟩
    simp [Tally.ofReaction, Command.task]
  | _ => exact Or.inl rfl

/-! ### What acts preserve -/

theorem Bearer.InOrder.of_eq {b b' : Bearer ι} (h : b.InOrder) (tasks : b'.tasks = b.tasks)
    (phase : b'.controller.phase = b.controller.phase)
    (connection : b'.controller.connection = b.controller.connection)
    (deferred : b'.controller.deferred = b.controller.deferred) : b'.InOrder := by
  refine ⟨?_, ?_, ?_⟩
  · rw [tasks, connection]
    exact h.bounded
  · rw [deferred]
    exact h.waiting
  · rw [Bearer.current, tasks, connection, deferred, phase]
    exact h.fits

/-- Only requests wait, and only in the phases in which they have to. -/
theorem Rule.busy_of_waits [Interceptor ι] {c : Connection} {i : ι} {p : Phase} {mail : Mail}
    {r : Reaction ι} (h : Rule s c i p mail r) (hwaits : r.waits = true) :
    p.isBusy = true ∧ mail.isRequest = true := by
  cases h with
  | waits busy request => exact ⟨busy, request⟩
  | _ => cases hwaits

theorem Rule.waiting_after [Interceptor ι] {m : Controller ι} {mail : Mail} {r : Reaction ι}
    (h : Rule s m.connection m.interceptor m.phase mail r) (hlive : r.halt = none)
    (waiting : ∀ other ∈ m.deferred, other.isRequest = true) :
    ∀ other ∈ (m.after s mail r).1.deferred, other.isRequest = true := by
  rw [Controller.after, hlive]
  intro other hother
  cases hnext : r.next with
  | some next =>
    rw [hnext] at hother
    cases hother
  | none =>
    rw [hnext] at hother
    rcases List.mem_append.mp hother with hold | hnew
    · exact waiting other hold
    · split at hnew
      · next hwaits =>
        rw [List.mem_singleton.mp hnew]
        exact (h.busy_of_waits hwaits).2
      · cases hnew

/-- Handling a piece of mail leaves everything in order. -/
theorem Bearer.InOrder.after [Interceptor ι] {b : Bearer ι} {mail : Mail} {rest : List Mail}
    {r : Reaction ι} {m : Controller ι} (h : b.InOrder)
    (first : b.controller.mailbox = mail :: rest)
    (hm : m = b.controller.withMailbox rest)
    (hrule : Rule s m.connection m.interceptor m.phase mail r) (hlive : r.halt = none)
    (hroom : m.connection.generation.toNat + (m.after s mail r).2.countP Event.isReturn < 2 ^ 64) :
    (b.withController (m.after s mail r).1).InOrder := by
  -- the mail's own task is done with, what is issued comes in its place, and the others stay
  have hbefore := tasks_first first
  have hafter := tasks_after s b m mail hlive
  rw [← hm] at hbefore
  generalize (b.withController m).tasks = others at hbefore hafter
  have hbounded : ∀ task ∈ b.tasks, task.generation ≤ m.connection.generation := by
    rw [hm]
    exact h.bounded
  have hfits : Fits m.connection m.deferred
      (ofGeneration m.connection.generation b.tasks) m.phase := by
    rw [hm]
    exact h.fits
  have hwaiting : ∀ other ∈ m.deferred, other.isRequest = true := by
    rw [hm]
    exact h.waiting
  have hothers : ∀ task ∈ others, task.generation ≤ m.connection.generation :=
    fun task htask => hbounded task (by rw [hbefore]; exact Multiset.mem_add.mpr (Or.inr htask))
  have hgeneration := hrule.generation_after
  refine ⟨?_, ?_, ?_⟩
  · intro task htask
    have hold : task.generation ≤ m.connection.generation := by
      rw [hafter] at htask
      rcases Multiset.mem_add.mp htask with hother | hissued
      · exact hothers task hother
      · rcases hrule.issued with hnone | ⟨only, honly, hcurrent⟩
        · rw [hnone] at hissued
          exact absurd hissued (Multiset.notMem_zero task)
        · rw [honly, Multiset.mem_singleton] at hissued
          rw [hissued, hcurrent]
          exact UInt64.le_refl _
    refine UInt64.le_trans hold ?_
    show m.connection.generation ≤ (m.after s mail r).1.connection.generation
    rw [hgeneration, UInt64.le_iff_toNat_le, UInt64.toNat_add, UInt64.toNat_ofNat']
    omega
  · exact hrule.waiting_after hlive hwaiting
  · rw [hbefore] at hfits
    rw [Bearer.current, hafter]
    refine hfits.after hrule hlive fun arrival hidle => ?_
    -- the tasks of the past are none of the generation that begins
    have hcount := Controller.isReturn_mem_after s m mail hlive hidle
    rw [ofGeneration_eq_zero_iff]
    intro task htask heq
    have hle := hothers task htask
    rw [heq, UInt64.le_iff_toNat_le, UInt64.toNat_add] at hle
    have hone : (1 : UInt64).toNat = 1 := rfl
    omega

end

namespace Scene

variable {ι : Type} [Interceptor ι] {w w' : Scene ι} {act : Act ι} {events : List Event}

/-- Where nothing is handled, a bearer that works keeps its tasks. -/
theorem Change.turned_or_tasks (h : Change w act w' events) (numbered : w.bearer.Numbered)
    (live : w.bearer.isHalted = false) :
    (∃ mail rest r, Turned w act w' events mail rest r) ∨
      Quiet w w' events ∧ w'.bearer.tasks = w.bearer.tasks := by
  refine (h.tally Tally.tasks numbered live).imp_right fun ⟨hquiet, sent, hsent, htasks⟩ => ?_
  have hnone : Tally.tasks.ofMails sent = 0 := by
    refine Tally.ofMails_eq_zero Tally.tasks fun mail hmail => ?_
    cases hsent mail hmail with
    | ask wish => cases wish <;> rfl
    | _ => rfl
  rw [hnone, add_zero] at htasks
  exact ⟨hquiet, by rw [Bearer.tasks_eq, Bearer.tasks_eq, htasks]⟩

/-- Every act leaves everything in order. -/
theorem Change.inOrder (h : Change w act w' events) (inOrder : w.bearer.InOrder)
    (numbered : w.bearer.Numbered) (live : w'.bearer.isHalted = false)
    (room : w.controller.connection.generation.toNat + events.countP Event.isReturn < 2 ^ 64) :
    w'.bearer.InOrder := by
  rcases h.turned_or_tasks numbered (h.live live) with
    ⟨mail, rest, r, -, first, hrule, rfl, rfl⟩ | ⟨hquiet, htasks⟩
  · exact inOrder.after first rfl hrule (Controller.live_after_iff.mp live).1 room
  · exact inOrder.of_eq htasks hquiet.phase hquiet.connection hquiet.deferred

/-- Whatever comes, what is in order stays in order until the bearer halts. -/
theorem inOrder_preserved {w : Scene ι} {acts : List (Act ι)} (inOrder : w.bearer.InOrder)
    (numbered : w.bearer.Numbered)
    (room : w.controller.connection.generation.toNat +
      (w.run acts).2.countP Event.isReturn < 2 ^ 64)
    (live : (w.run acts).1.bearer.isHalted = false) : (w.run acts).1.bearer.InOrder := by
  induction acts generalizing w with
  | nil => exact inOrder
  | cons act acts ih =>
    have hchange := w.change_step act
    rw [run_cons] at room live ⊢
    have hlater := hchange.room room
    rw [List.countP_append] at room
    have hfirst : (w.step act).1.bearer.InOrder :=
      hchange.inOrder inOrder numbered (live_run live) (by omega)
    exact ih hfirst (hchange.numbered numbered) hlater live

end Scene

theorem Bearer.inOrder_start {ι : Type} (i : ι) : (Bearer.start i).InOrder := by
  refine ⟨?_, ?_, ?_⟩
  · intro task htask
    exact absurd htask (Multiset.notMem_zero task)
  · intro mail hmail
    cases hmail
  · exact ⟨rfl, rfl, rfl, rfl, rfl⟩

theorem Scene.inOrder_of_start {ι : Type} [Interceptor ι] {s : Setting} {i : ι}
    {acts : List (Act ι)} (entries : idleEntries ((start s i).run acts).2 < 2 ^ 64)
    (live : ((start s i).run acts).1.bearer.isHalted = false) :
    ((start s i).run acts).1.bearer.InOrder := by
  exact inOrder_preserved (Bearer.inOrder_start i) (Bearer.numbered_start i) (room_start entries) live

/-- In a run that has not halted everything is in order after every act, as long as the bearer
has become idle fewer than `2 ^ 64` times. -/
theorem inOrder_run {ι : Type} [Interceptor ι] (s : Setting) (i : ι) (acts : List (Act ι))
    (entries : idleEntries ((Scene.start s i).run acts).2 < 2 ^ 64)
    (live : ((Scene.start s i).run acts).1.bearer.isHalted = false) :
    ((Scene.start s i).run acts).1.bearer.InOrder :=
  Scene.inOrder_of_start entries live

/-- The first request of a run, as it is admitted. -/
def firstRequest : BringUp where
  number := 0
  client := "a"
  accessPoint := {}
  generation := 1

/-- A call is open while the bearer is reset, and is answered only when the next attempt is under
way. -/
def lateAnswer : List (Act Unit) :=
  [.ask (.bringUp "a" {}), .take, .turn, .turn, .inquire .reset, .take, .turn,
    .ask (.bringUp "b" {}), .take, .turn, .turn,
    .answer 0 { setUp := some (.error .genericFailure) }]

/-- Two tasks are under way then, and one of them is current. -/
theorem inOrder_lateAnswer :
    (((Scene.start .cellular ()).run lateAnswer).1.bearer.tasks.card = 2 ∧
      ((Scene.start .cellular ()).run lateAnswer).1.bearer.current.card = 1) ∧
    (idleEntries ((Scene.start .cellular ()).run lateAnswer).2 < 2 ^ 64 ∧
      ((Scene.start .cellular ()).run lateAnswer).1.bearer.isHalted = false) ∧
    ((Scene.start .cellular ()).run lateAnswer).1.bearer.InOrder :=
  ⟨by decide, by decide, inOrder_run .cellular () lateAnswer (by decide) (by decide)⟩

end PacketBearer
