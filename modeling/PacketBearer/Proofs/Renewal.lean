/-
Every return to idle is a fresh start.

A bearer that becomes idle keeps what outlives a connection, the mail that is still with it, and the
calls that the radio has not answered.  The answers to those calls go unheeded.  So from then on it
does what a bearer would do that has just come into being, is told what outlives a connection, and
is sent the mail first, but for the numbers of its generations and of its calls.

* `Scene.renewed` — the bearer that has just come into being;
* `renewed_later` — it is the one that has become idle, with its numbers counted anew;
* `run_afresh`, `fresh_start` — and it takes the same course.

Design notes: the two bearers are acted on in the same way, but for the acts that deal with nothing
but the answer to an older call.
-/
import PacketBearer.Proofs.Promptness
import PacketBearer.Proofs.Record
import PacketBearer.Proofs.Renumbering

namespace PacketBearer

/-- The generation in which a request was admitted; zero stands for none. -/
def ClientRequest.generation : ClientRequest → UInt64
  | bringUp request => request.generation
  | tearDown request => request.generation

/-- The request was admitted before a generation. -/
def ClientRequest.isBefore (g : UInt64) (request : ClientRequest) : Bool :=
  decide (request.generation ≠ 0 ∧ request.generation < g)

/-- The task was ordered before a generation. -/
def Task.isBefore (g : UInt64) (task : Task) : Bool := task.request.isBefore g

/-- Unless the mail is an answer, its request has not been admitted. -/
def Mail.IsUnstamped (mail : Mail) : Prop :=
  mail.isAnswer = false → ∀ request, mail.request? = some request → request.generation = 0

/-- The act in a world in which fewer calls have been made. -/
def Act.earlier {ι : Type} (n : Nat) : Act ι → Act ι
  | answer call given => .answer (call - n) given
  | act => act

/-- Something is sent to the bearer, or changes around it. -/
def Act.isInput {ι : Type} : Act ι → Bool
  | ask _ | inquire _ | stop | switchRadio _ | closeTracker | rearm _ => true
  | hear _ | answer _ _ | take | turn => false

section

variable {ι : Type}

/-- A controller that has just come into being in the place of another, and is told what outlives a
connection. -/
def Controller.renewed (m : Controller ι) : Controller ι :=
  { Controller.start m.interceptor with
    connection :=
      { (Controller.start m.interceptor).connection with
        capabilities := m.connection.capabilities
        radioVersion := m.connection.radioVersion
        reconnectIntent := m.connection.reconnectIntent } }

/-- A bearer that has just come into being in the place of another, and is sent what the other has
still to handle but for the radio's answers. -/
def Bearer.renewed (b : Bearer ι) : Bearer ι :=
  ((Bearer.start b.controller.interceptor).withController
    ((b.controller.mailbox.filter (!·.isAnswer)).foldl Controller.post b.controller.renewed)).send
      (b.inbox.filter (!·.isAnswer))

/-- The request has not been admitted, or it is of the current generation, or it is worked on. -/
def Bearer.Knows (b : Bearer ι) (request : ClientRequest) : Prop :=
  request.generation = 0 ∨ request.generation = b.controller.connection.generation ∨
    ∃ task ∈ b.tasks, task.request = request

/-- A bearer that has just become idle: it holds mail and open calls, and nothing besides. -/
structure Bearer.IsNew (b : Bearer ι) : Prop where
  phase : b.controller.phase = .idle
  wiped : b.controller.connection.wiped = b.controller.connection
  deferred : b.controller.deferred = []
  outbox : b.controller.outbox = []
  live : b.controller.halt = none

namespace Scene

/-- The scene with a bearer that has just come into being. -/
def renewed (w : Scene ι) : Scene ι := w.withBearer w.bearer.renewed

/-- What has come before. -/
def past (w : Scene ι) : Renumbering where
  generations := w.controller.connection.generation - 1
  calls := w.bearer.calls

/-- The acts of a run that are possible and do not deal with an answer about what was ordered before
a generation, with the calls counted from a number. -/
def afresh [Interceptor ι] (g : UInt64) (n : Nat) (w : Scene ι) : List (Act ι) → List (Act ι)
  | [] => []
  | act :: acts =>
    if w.idles (Task.isBefore g) act then (w.step act).1.afresh g n acts
    else act.earlier n :: (w.step act).1.afresh g n acts

/-- What is under way in a scene has a number after what has come before, and no request has been
admitted that is still in the mail. -/
structure Young (ρ : Renumbering) (f : Scene ι) : Prop where
  tasks : ∀ task ∈ f.bearer.tasks, ρ.HasRoom task.generation
  mails : ∀ mail ∈ f.bearer.mails, mail.IsUnstamped

end Scene

end

/-! ### Before and after -/

theorem Task.generation_request (task : Task) : task.request.generation = task.generation := by
  cases task with
  | release purpose => cases purpose <;> rfl
  | _ => rfl

theorem Task.isBefore_iff {g : UInt64} {task : Task} :
    task.isBefore g = true ↔ task.generation ≠ 0 ∧ task.generation < g := by
  rw [isBefore, ClientRequest.isBefore, decide_eq_true_iff, generation_request]

section

variable {ρ : Renumbering} {g : UInt64}

/-- What is numbered later comes after all that has come before. -/
theorem Renumbering.HasRoom.le (h : ρ.HasRoom g) : ρ.generations + 1 ≤ ρ.generation g := by
  have hpos := h.pos
  have hbound := h.bound
  have hone : (1 : UInt64).toNat = 1 := rfl
  rw [UInt64.le_iff_toNat_le, h.toNat_generation, UInt64.toNat_add, hone]
  omega

theorem ClientRequest.not_isBefore {request : ClientRequest}
    (h : request.generation = 0 ∨ ρ.HasRoom request.generation) :
    (request.later ρ).isBefore (ρ.generations + 1) = false := by
  have hlater : (request.later ρ).generation = ρ.generation request.generation := by
    cases request <;> rfl
  rw [isBefore, hlater]
  refine decide_eq_false fun hbefore => ?_
  rcases h with hzero | hroom
  · rw [hzero] at hbefore
    exact hbefore.1 (if_pos rfl)
  · exact absurd hroom.le (UInt64.not_le.mpr hbefore.2)

theorem Task.not_isBefore {task : Task} (h : ρ.HasRoom task.generation) :
    (task.later ρ).isBefore (ρ.generations + 1) = false := by
  have hrequest : (task.later ρ).request = task.request.later ρ := by
    cases task with
    | release purpose => cases purpose <;> rfl
    | _ => rfl
  rw [isBefore, hrequest]
  exact ClientRequest.not_isBefore (Or.inr (task.generation_request.symm ▸ h))

theorem Mail.later_eq_self {mail : Mail} (unstamped : mail.IsUnstamped)
    (no_answer : mail.isAnswer = false) : mail.later ρ = mail := by
  have hzero : ρ.generation 0 = 0 := if_pos rfl
  have hnone := unstamped no_answer
  cases mail with
  | bringUp request =>
    have hgeneration : request.generation = 0 := hnone _ rfl
    rw [later, BringUp.later, hgeneration, hzero, ← hgeneration]
  | tearDown request =>
    have hgeneration : request.generation = 0 := hnone _ rfl
    rw [later, TearDown.later, hgeneration, hzero, ← hgeneration]
  | setUpDone | lastCauseDone | releaseDone => cases no_answer
  | radioConnected | inquiry | stop => rfl

theorem Bearer.tasks_later {ι : Type} (b : Bearer ι) :
    (b.later ρ).tasks = b.tasks.map (·.later ρ) := by
  simp only [tasks, later, Controller.later, Multiset.map_coe, List.map_append, List.map_map,
    List.filterMap_append, List.filterMap_map, List.map_filterMap, Function.comp_def,
    Command.task_later, Mail.task?_later]

/-- Nothing is left out if there is no such answer. -/
theorem Scene.without_eq_self {ι : Type} {p : Task → Bool} {v : Scene ι}
    (none : ∀ task ∈ v.bearer.tasks, p task = false) : v.without p = v := by
  have hmails : ∀ mails : List Mail, (∀ mail ∈ mails, ∀ task, mail.task? = some task →
      task ∈ v.bearer.tasks) → mails.filter (!·.isAbout p) = mails := by
    intro mails hmem
    refine List.filter_eq_self.mpr fun mail hmail => ?_
    cases htask : mail.task? with
    | none => rw [Mail.isAbout_of_none htask]; rfl
    | some task =>
      rw [Mail.isAbout_of_task? htask, none task (hmem mail hmail task htask)]
      rfl
  have hmailbox := hmails v.bearer.controller.mailbox
    fun mail hmail task htask => Bearer.mem_tasks_of_mailbox hmail htask
  have hinbox := hmails v.bearer.inbox
    fun mail hmail task htask => Bearer.mem_tasks_of_inbox hmail htask
  have hcalls : v.bearer.openCalls.filter (fun call => !p call.2.task) = v.bearer.openCalls := by
    refine List.filter_eq_self.mpr fun call hcall => ?_
    rw [none _ (Bearer.mem_tasks_of_openCalls hcall)]
    rfl
  rw [without, Bearer.without, Controller.without, hmailbox, hinbox, hcalls]
  rfl

end

/-! ### What shows -/

theorem countP_besides (u : ClientRequest → Bool) (events : List Event) :
    (besides u events).countP Event.isReturn = events.countP Event.isReturn := by
  rw [besides, List.countP_filter]
  refine List.countP_congr fun event _ => ?_
  cases event <;> simp [Event.isReturn, Event.isVain]

theorem countP_later (ρ : Renumbering) (events : List Event) :
    (events.map (·.later ρ)).countP Event.isReturn = events.countP Event.isReturn := by
  rw [List.countP_map]
  refine List.countP_congr fun event _ => ?_
  cases event <;> exact Iff.rfl

/-- No request that is numbered later is given up among those that have come before. -/
theorem besides_later {ρ : Renumbering} {events : List Event}
    (young : ∀ request, Event.dropped request ∈ events →
      request.generation = 0 ∨ ρ.HasRoom request.generation) :
    besides (·.isBefore (ρ.generations + 1)) (events.map (·.later ρ)) =
      (besides (fun _ => false) events).map (·.later ρ) := by
  rw [besides, besides, List.filter_map]
  refine congrArg (List.map (Event.later ρ)) (List.filter_congr fun event hevent => ?_)
  cases event with
  | dropped request =>
    exact congrArg not (ClientRequest.not_isBefore (young request hevent))
  | _ => rfl

/-! ### What is given up -/

/-- A reaction by itself gives up the request that it cannot admit, or that of a late answer. -/
theorem Rule.own_dropped {ι : Type} [Interceptor ι] {s : Setting} {c : Connection} {i : ι}
    {p : Phase} {mail : Mail} {r : Reaction ι} {request : ClientRequest} (h : Rule s c i p mail r)
    (mem : Event.dropped request ∈ r.events) :
    request.generation = c.generation ∨ mail.request? = some request := by
  cases h with
  | ignores =>
    rcases List.mem_cons.mp mem with hignored | hdropped
    · cases hignored
    · obtain ⟨own, hown, hsame⟩ := Option.map_eq_some_iff.mp (Option.mem_toList.mp hdropped)
      cases hsame
      exact Or.inr hown
  | impossible =>
    cases List.mem_singleton.mp mem
    exact Or.inl rfl
  | joins | vacuous | strange | leaves =>
    rcases List.mem_cons.mp mem with hhandled | hdone
    · cases hhandled
    · cases List.mem_singleton.mp hdone
  | waits | intercepted | ordered | releases | answers | resets => cases List.mem_singleton.mp mem
  | fails | asks | accepts | refuses | released | hears | stops => cases mem

section

variable {ι : Type} {b : Bearer ι} {mail : Mail} {request : ClientRequest}

/-- A bearer knows the requests that its mail carries. -/
theorem Bearer.knows_of_mail (mem : mail ∈ b.mails) (unstamped : mail.IsUnstamped)
    (carries : mail.request? = some request) : b.Knows request := by
  cases htask : mail.task? with
  | none =>
    refine Or.inl (unstamped ?_ request carries)
    rw [Mail.isAnswer, htask]
    rfl
  | some task =>
    rw [Mail.request?_of_task? htask] at carries
    have hwork : Work.mail mail ∈ b.works := mem_works.mpr (Or.inr (Or.inr ⟨mail, mem, rfl⟩))
    exact Or.inr (Or.inr ⟨task, mem_tasks_of_works hwork htask, Option.some.inj carries⟩)

/-- A bearer knows the requests that its controller holds. -/
theorem Bearer.knows_of_held (unstamped : ∀ mail ∈ b.mails, mail.IsUnstamped)
    (mem : request ∈ b.controller.requests) : b.Knows request := by
  rcases List.mem_append.mp mem with hmail | hcommand
  · obtain ⟨mail, hmem, hcarries⟩ := List.mem_filterMap.mp hmail
    have hmails : mail ∈ b.mails :=
      List.mem_append_left _ (List.mem_append.mpr (List.mem_append.mp hmem).symm)
    exact knows_of_mail hmails (unstamped mail hmails) hcarries
  · obtain ⟨command, hmem, rfl⟩ := List.mem_map.mp hcommand
    refine Or.inr (Or.inr ⟨command.task, ?_, by cases command <;> rfl⟩)
    exact List.mem_append_left _ (List.mem_append_left _ (List.mem_map_of_mem hmem))

theorem Controller.requests_withMailbox_subset {m : Controller ι} {rest : List Mail}
    (first : m.mailbox = mail :: rest) : (m.withMailbox rest).requests ⊆ m.requests := by
  intro request hrequest
  rcases List.mem_append.mp hrequest with hmail | hcommand
  · obtain ⟨other, hother, hcarries⟩ := List.mem_filterMap.mp hmail
    refine List.mem_append_left _ (List.mem_filterMap.mpr ⟨other, ?_, hcarries⟩)
    rw [first]
    exact List.mem_cons_of_mem mail hother
  · exact List.mem_append_right _ hcommand

/-- A bearer knows the requests that a reaction gives up. -/
theorem Bearer.knows_of_handled [Interceptor ι] {s : Setting} {rest : List Mail} {r : Reaction ι}
    (unstamped : ∀ mail ∈ b.mails, mail.IsUnstamped)
    (first : b.controller.mailbox = mail :: rest)
    (rule : Rule s b.controller.connection b.controller.interceptor b.controller.phase mail r)
    (mem : Event.dropped request ∈ ((b.controller.withMailbox rest).after s mail r).2) :
    b.Knows request := by
  have hown : Event.dropped request ∈ r.events → b.Knows request := by
    intro hown
    have hmails := mem_mails_of_first first
    rcases rule.own_dropped hown with hnow | hcarries
    · exact Or.inr (Or.inl hnow)
    · exact knows_of_mail hmails (unstamped mail hmails) hcarries
  rw [Controller.after] at mem
  cases hhalt : r.halt with
  | none =>
    cases hnext : r.next with
    | none =>
      rw [hhalt, hnext] at mem
      exact hown mem
    | some next =>
      rw [hhalt, hnext] at mem
      rcases List.mem_append.mp mem with hmem | hmoved
      · exact hown hmem
      · rcases List.mem_cons.mp hmoved with hmoved | hentered
        · cases hmoved
        · exact absurd hentered (rule.enters hnext request)
  | some halt =>
    -- all is given up that is with the controller
    rw [hhalt] at mem
    rcases List.mem_append.mp mem with hmem | hheld
    · exact hown hmem
    · obtain ⟨held, hrequest, hsame⟩ := List.mem_map.mp hheld
      cases hsame
      exact knows_of_held unstamped (Controller.requests_withMailbox_subset first hrequest)

end

/-- A bearer that becomes idle sends itself nothing, and puts nothing off. -/
theorem Rule.nothing_sent {ι : Type} [Interceptor ι] {s : Setting} {c : Connection} {i : ι}
    {p : Phase} {mail : Mail} {r : Reaction ι} {arrival : Arrival} (h : Rule s c i p mail r)
    (next : r.next = some (.idle, arrival)) : r.posts = [] ∧ r.waits = false := by
  cases h with
  | fails | released | resets => exact ⟨rfl, rfl⟩
  | _ => cases next

/-! ### Acts -/

namespace Scene

variable {ι : Type} [Interceptor ι] {w w' f : Scene ι} {act : Act ι} {events : List Event}
  {acts : List (Act ι)} {ρ : Renumbering}

/-- What comes under way at an act is of the generation that the act finds. -/
theorem Change.mem_tasks (h : Change w act w' events) {task : Task}
    (mem : task ∈ w'.bearer.tasks) :
    task ∈ w.bearer.tasks ∨ task.generation = w.controller.connection.generation := by
  have kept : w'.bearer.tasks = w.bearer.tasks →
      task ∈ w.bearer.tasks ∨ task.generation = w.controller.connection.generation :=
    fun hsame => Or.inl (hsame ▸ mem)
  obtain ⟨work, hwork, habout⟩ := Bearer.exists_work mem
  by_cases hturn : act = .turn
  · cases h with
    | still => exact kept rfl
    | @handled mail rest r first rule =>
      cases hhalt : r.halt with
      | none =>
        have htasks : task ∈ (w.bearer.withController
            ((w.controller.withMailbox rest).after w.setting mail r).1).tasks := mem
        rw [Bearer.tasks_after _ _ _ _ hhalt, Multiset.mem_add] at htasks
        rcases htasks with hold | hissued
        · rw [Bearer.tasks_first first, Multiset.mem_add]
          exact Or.inl (Or.inr hold)
        · right
          rcases rule.issued with hnone | ⟨only, honly, hcurrent⟩
          · rw [hnone] at hissued
            exact absurd hissued (Multiset.notMem_zero task)
          · rw [honly, Multiset.mem_singleton] at hissued
            rw [hissued]
            exact hcurrent
      | some halt =>
        rcases Bearer.mem_works_react hwork with hold | ⟨hnone, -⟩
        · exact Or.inl (Bearer.mem_tasks_of_works (Bearer.mem_works_of_rest first hold) habout)
        · rw [hhalt] at hnone
          cases hnone
    | dispatched empty =>
      refine kept ?_
      rw [Bearer.tasks_eq, Bearer.tasks_eq, tally_dispatchAll, ← tally_clearOutbox]
    | _ => cases hturn
  · by_cases hanswer : ∃ call given, act = .answer call given
    · obtain ⟨call, given, rfl⟩ := hanswer
      cases h with
      | still => exact kept rfl
      | answered isOpen ready =>
        left
        rcases Bearer.mem_works_send hwork with hold | rfl
        · exact Bearer.mem_tasks_of_works (Bearer.mem_works_of_close hold) habout
        · rw [show Work.task? (.mail _) = some _ from Command.task?_completion ready] at habout
          cases habout
          exact Bearer.mem_tasks_of_openCalls isOpen
    · have hsilent : ∀ call given, act ≠ .answer call given :=
        fun call given heq => hanswer ⟨call, given, heq⟩
      rcases (h.works hsilent hturn).1 work hwork with hold | hnone
      · exact Or.inl (Bearer.mem_tasks_of_works hold habout)
      · rw [habout] at hnone
        cases hnone

omit [Interceptor ι] in
theorem Sends.isUnstamped {mail : Mail} (h : w.Sends act mail) : mail.IsUnstamped := by
  intro _ request hrequest
  cases h with
  | ask wish =>
    cases wish <;>
    · cases hrequest
      rfl
  | inquire | stop | hear => cases hrequest

/-- No act admits a request that is still in the mail. -/
theorem Change.unstamped (h : Change w act w' events)
    (unstamped : ∀ mail ∈ w.bearer.mails, mail.IsUnstamped) :
    ∀ mail ∈ w'.bearer.mails, mail.IsUnstamped := by
  intro mail hmail
  rcases h.mem_or_sends mail hmail with hold | hsent | hanswer
  · exact unstamped mail hold
  · exact hsent.isUnstamped
  · intro no_answer
    rw [no_answer] at hanswer
    cases hanswer

/-- A bearer knows the requests that are given up at an act. -/
theorem Change.knows (h : Change w act w' events)
    (unstamped : ∀ mail ∈ w.bearer.mails, mail.IsUnstamped) {request : ClientRequest}
    (mem : Event.dropped request ∈ events) : w.bearer.Knows request := by
  cases h with
  | handled first rule => exact Bearer.knows_of_handled unstamped first rule mem
  | dispatched =>
    obtain ⟨call, command, -, hcalled⟩ := Bearer.called_of_mem_dispatchAll mem
    cases hcalled
  | @refused mail rest first =>
    obtain ⟨own, hown, hsame⟩ := Option.map_eq_some_iff.mp (Option.mem_toList.mp mem)
    cases hsame
    have hmem : mail ∈ w.bearer.mails := by
      refine List.mem_append_right _ ?_
      rw [first]
      exact List.mem_cons_self
    exact Bearer.knows_of_mail hmem (unstamped mail hmem) hown
  | _ => cases mem

theorem Young.step (young : f.Young ρ) (room : ρ.HasRoom f.controller.connection.generation)
    (act : Act ι) : (f.step act).1.Young ρ := by
  refine ⟨fun task htask => ?_, (f.change_step act).unstamped young.mails⟩
  rcases (f.change_step act).mem_tasks htask with hold | hnow
  · exact young.tasks task hold
  · rw [hnow]
    exact room

/-- What is given up has a number after what has come before, or none. -/
theorem Young.dropped (young : f.Young ρ) (room : ρ.HasRoom f.controller.connection.generation)
    {request : ClientRequest} (mem : Event.dropped request ∈ (f.step act).2) :
    request.generation = 0 ∨ ρ.HasRoom request.generation := by
  rcases (f.change_step act).knows young.mails mem with hzero | hnow | ⟨task, htask, rfl⟩
  · exact Or.inl hzero
  · rw [hnow]
    exact Or.inr room
  · rw [task.generation_request]
    exact Or.inr (young.tasks task htask)

omit [Interceptor ι] in
theorem Young.without (young : f.Young ρ) :
    (f.later ρ).without (Task.isBefore (ρ.generations + 1)) = f.later ρ := by
  refine without_eq_self fun task htask => ?_
  have hmem : task ∈ f.bearer.tasks.map (·.later ρ) := f.bearer.tasks_later ▸ htask
  obtain ⟨young_task, hyoung, rfl⟩ := Multiset.mem_map.mp hmem
  exact Task.not_isBefore (young.tasks young_task hyoung)

omit [Interceptor ι] in
/-- An answer that is not left out has a call of its own. -/
theorem later_earlier {p : Task → Bool} (same : w.without p = f.later ρ)
    (other : w.idles p act = false) : (act.earlier ρ.calls).later ρ = act := by
  cases act with
  | answer call given =>
    rw [idles] at other
    cases hfind : w.bearer.openCalls.find? fun c => c.1 == call with
    | none =>
      rw [hfind] at other
      cases other
    | some found =>
      rw [hfind] at other
      have hfind' := find?_without hfind other
      rw [same] at hfind'
      obtain ⟨c, -, rfl⟩ := List.mem_map.mp (List.mem_of_find?_eq_some hfind')
      have hnumber : c.1 + ρ.calls = call := by simpa using List.find?_some hfind'
      have hle : ρ.calls ≤ call := by omega
      rw [Act.earlier, Act.later, Nat.sub_add_cancel hle]
  | _ => rfl

/-- A bearer without a past does the same at an act that does not deal with the past. -/
theorem step_afresh (same : w.without (Task.isBefore (ρ.generations + 1)) = f.later ρ)
    (other : w.idles (Task.isBefore (ρ.generations + 1)) act = false)
    (room : ρ.HasRoom f.controller.connection.generation) (young : f.Young ρ) :
    (w.step act).1.without (Task.isBefore (ρ.generations + 1)) =
        (f.step (act.earlier ρ.calls)).1.later ρ ∧
      besides (·.isBefore (ρ.generations + 1)) (w.step act).2 =
        (besides (fun _ => false) (f.step (act.earlier ρ.calls)).2).map (·.later ρ) := by
  obtain ⟨hscene, hevents⟩ := step_overlooks (p := Task.isBefore (ρ.generations + 1))
    (u := (·.isBefore (ρ.generations + 1))) (fun _ h => h) other
  have hstep := f.step_later (act.earlier ρ.calls) room
  rw [later_earlier same other] at hstep
  rw [same, hstep] at hscene hevents
  exact ⟨hscene.trans (young.step room _).without,
    hevents.trans (besides_later fun request hdropped => young.dropped room hdropped)⟩

/-! ### Runs -/

/-- A bearer without a past takes the same course. -/
theorem run_afresh (acts : List (Act ι))
    (same : w.without (Task.isBefore (ρ.generations + 1)) = f.later ρ)
    (numbered : w.bearer.Numbered) (young : f.Young ρ)
    (some : 0 < f.controller.connection.generation.toNat) (before : ρ.generations ≠ 0)
    (bound : f.controller.connection.generation.toNat + ρ.generations.toNat +
      (w.run acts).2.countP Event.isReturn < 2 ^ 64) :
    (w.run acts).1.without (Task.isBefore (ρ.generations + 1)) =
        (f.run (w.afresh (ρ.generations + 1) ρ.calls acts)).1.later ρ ∧
      besides (·.isBefore (ρ.generations + 1)) (w.run acts).2 =
        (besides (fun _ => false)
          (f.run (w.afresh (ρ.generations + 1) ρ.calls acts)).2).map (·.later ρ) := by
  induction acts generalizing w f with
  | nil => exact ⟨same, rfl⟩
  | cons act acts ih =>
    have hnumbered := (w.change_step act).numbered numbered
    have hroom : ρ.HasRoom f.controller.connection.generation := by
      refine ⟨fun hzero => ?_, before, by omega⟩
      rw [hzero] at some
      exact absurd some (Nat.lt_irrefl 0)
    rw [run_cons, List.countP_append] at bound
    rw [afresh, run_cons]
    dsimp only
    rw [besides_append]
    cases hidle : w.idles (Task.isBefore (ρ.generations + 1)) act with
    | true =>
      -- an answer of the past finds no bearer of its generation
      have hgeneration : w.controller.connection.generation =
          ρ.generation f.controller.connection.generation :=
        (congrArg (fun x : Scene ι => x.controller.connection.generation) same :)
      have hpast : ∀ mail ∈ w.controller.mailbox, ∀ task, mail.task? = Option.some task →
          task.isBefore (ρ.generations + 1) = true →
            task.generation ≠ w.controller.connection.generation := by
        intro mail _ task _ hbefore hnow
        have hlt := (Task.isBefore_iff.mp hbefore).2
        rw [hnow, hgeneration] at hlt
        exact absurd hroom.le (UInt64.not_le.mpr hlt)
      obtain ⟨hscene, hevents⟩ := step_of_idle (u := (·.isBefore (ρ.generations + 1)))
        numbered hpast (fun _ h => h) hidle
      rw [if_pos rfl, hevents, List.nil_append]
      exact ih (hscene.trans same) hnumbered young some (by omega)
    | false =>
      obtain ⟨hscene, hevents⟩ := step_afresh same hidle hroom young
      -- both bearers have become idle as often
      have hcount := congrArg (List.countP Event.isReturn) hevents
      rw [countP_besides, countP_later, countP_besides] at hcount
      have hgeneration := (f.change_step (act.earlier ρ.calls)).toNat_generation (by omega)
      obtain ⟨hscenes, hlater⟩ := ih hscene hnumbered (young.step hroom _) (by omega) (by omega)
      rw [if_neg Bool.false_ne_true, run_cons]
      dsimp only
      rw [besides_append, List.map_append, hevents, hlater]
      exact ⟨hscenes, rfl⟩

/-- Nothing that is sent is left out, and nothing that changes around the bearer. -/
theorem filter_afresh (g : UInt64) (n : Nat) (w : Scene ι) (acts : List (Act ι)) :
    (w.afresh g n acts).filter Act.isInput = acts.filter Act.isInput := by
  induction acts generalizing w with
  | nil => rfl
  | cons act acts ih =>
    rw [afresh]
    cases hinput : act.isInput with
    | true =>
      have hkept : w.idles (Task.isBefore g) act = false ∧ act.earlier n = act := by
        cases act with
        | hear | answer | take | turn => cases hinput
        | _ => exact ⟨rfl, rfl⟩
      rw [hkept.1, if_neg Bool.false_ne_true, hkept.2, List.filter_cons_of_pos hinput,
        List.filter_cons_of_pos hinput, ih]
    | false =>
      have hother : (act.earlier n).isInput = false := by
        cases act with
        | answer => rfl
        | _ => exact hinput
      rw [List.filter_cons_of_neg (by rw [hinput]; exact Bool.false_ne_true)]
      split
      · exact ih _
      · rw [List.filter_cons_of_neg (by rw [hother]; exact Bool.false_ne_true), ih]

/-! ### Becoming idle -/

/-- A bearer becomes idle by a reaction. -/
theorem Change.of_return (h : Change w act w' events) {event : Event} (mem : event ∈ events)
    (returns : event.isReturn = true) :
    ∃ mail rest r arrival, Turned w act w' events mail rest r ∧ r.halt = none ∧
      r.next = some (.idle, arrival) := by
  have never : event.isReturn ≠ false := fun hfalse => by
    rw [hfalse] at returns
    cases returns
  rcases h.turned_or_quiet with ⟨mail, rest, r, hturned⟩ | hquiet
  · rw [hturned.events_eq] at mem
    rcases Controller.mem_after mem with hown | ⟨-, request, rfl⟩ | ⟨hlive, target, arrival, hnext,
      rfl | hentered⟩
    · exact absurd (hturned.rule.isReturn event hown) never
    · cases returns
    · cases target with
      | idle => exact ⟨mail, rest, r, arrival, hturned, hlive, hnext⟩
      | _ => cases returns
    · exact absurd (isReturn_enter w.setting r.connection target arrival event hentered) never
  · rcases hquiet.events event mem with ⟨call, command, rfl⟩ | ⟨-, request, rfl⟩
    · cases returns
    · cases returns

/-- A bearer that has just become idle holds what was put off, and then what waited behind the mail
that made it idle. -/
theorem Change.isNew (h : Change w act w' events) (inOrder : w.bearer.InOrder)
    (prompt : w.bearer.Prompt) (live : w.bearer.isHalted = false) {event : Event}
    (mem : event ∈ events) (returns : event.isReturn = true) :
    w'.bearer.IsNew ∧
      w'.controller.mailbox = w.controller.deferred ++ w.controller.mailbox.tail := by
  obtain ⟨mail, rest, r, arrival, ⟨-, first, rule, rfl, -⟩, hlive, hnext⟩ := h.of_return mem returns
  obtain ⟨houtbox, hcommands⟩ := prompt.outbox_of_return inOrder first rfl rule hnext
  obtain ⟨hposts, hwaits⟩ := rule.nothing_sent hnext
  have hhalt : w.controller.halt = none :=
    Option.not_isSome_iff_eq_none.mp (Bool.eq_false_iff.mp live)
  have hafter : ((w.controller.withMailbox rest).after w.setting mail r).1 =
      (((w.controller.withMailbox rest).absorb mail r).move w.setting .idle arrival).1 := by
    rw [Controller.after, hlive, hnext]
  refine ⟨⟨?_, ?_, ?_, ?_, ?_⟩, ?_⟩ <;>
    simp only [withController, controller, Bearer.withController, hafter, Controller.move,
      Controller.absorb]
  · cases arrival <;> rfl
  · exact List.append_eq_nil_iff.mpr ⟨houtbox, hcommands⟩
  · exact hhalt
  · rw [hposts, hwaits]
    simp [Controller.withMailbox, first]

/-- No request has been admitted that is still in the mail. -/
theorem unstamped_run (w : Scene ι) (acts : List (Act ι))
    (unstamped : ∀ mail ∈ w.bearer.mails, mail.IsUnstamped) :
    ∀ mail ∈ (w.run acts).1.bearer.mails, mail.IsUnstamped := by
  induction acts generalizing w with
  | nil => exact unstamped
  | cons act acts ih =>
    rw [run_cons]
    exact ih _ ((w.change_step act).unstamped unstamped)

/-- All that is under way belongs to a generation. -/
theorem stamped_run (w : Scene ι) (acts : List (Act ι))
    (some : 0 < w.controller.connection.generation.toNat)
    (bound : w.controller.connection.generation.toNat +
      (w.run acts).2.countP Event.isReturn < 2 ^ 64)
    (stamped : ∀ task ∈ w.bearer.tasks, task.generation ≠ 0) :
    ∀ task ∈ (w.run acts).1.bearer.tasks, task.generation ≠ 0 := by
  induction acts generalizing w with
  | nil => exact stamped
  | cons act acts ih =>
    rw [run_cons, List.countP_append] at bound
    have hgeneration := (w.change_step act).toNat_generation (by omega)
    rw [run_cons]
    refine ih _ (by omega) (by omega) fun task htask => ?_
    rcases (w.change_step act).mem_tasks htask with hold | hnow
    · exact stamped task hold
    · intro hzero
      rw [← hnow, hzero] at some
      exact absurd some (Nat.lt_irrefl 0)

end Scene

theorem foldl_post {ι : Type} (m : Controller ι) (mails : List Mail) :
    mails.foldl Controller.post m = m.withMailbox (m.mailbox ++ mails) := by
  induction mails generalizing m with
  | nil => rw [List.append_nil]; rfl
  | cons mail mails ih =>
    rw [List.foldl_cons, ih]
    simp only [Controller.post, Controller.withMailbox, List.append_assoc, List.singleton_append]

theorem Bearer.controller_renewed {ι : Type} (b : Bearer ι) :
    b.renewed.controller =
      b.controller.renewed.withMailbox (b.controller.mailbox.filter (!·.isAnswer)) :=
  foldl_post _ _

/-- Where all answers are of the past, what is left without them are the pieces of mail that are no
answers, and they are numbered as they are. -/
theorem filter_isBefore (mails : List Mail) {g : UInt64} (ρ : Renumbering)
    (past : ∀ mail ∈ mails, ∀ task, mail.task? = some task → task.isBefore g = true)
    (unstamped : ∀ mail ∈ mails, mail.IsUnstamped) :
    mails.filter (!·.isAbout (Task.isBefore g)) =
      (mails.filter (!·.isAnswer)).map (·.later ρ) := by
  have hsame : mails.filter (!·.isAbout (Task.isBefore g)) = mails.filter (!·.isAnswer) := by
    refine List.filter_congr fun mail hmail => ?_
    cases htask : mail.task? with
    | none => rw [Mail.isAbout_of_none htask, Mail.isAnswer, htask]; rfl
    | some task =>
      rw [Mail.isAbout_of_task? htask, past mail hmail task htask, Mail.isAnswer, htask]
      rfl
  have hkept : (mails.filter (!·.isAnswer)).map (·.later ρ) = mails.filter (!·.isAnswer) := by
    refine (List.map_congr_left fun mail hmail => ?_).trans (List.map_id _)
    obtain ⟨hmem, hanswer⟩ := List.mem_filter.mp hmail
    exact Mail.later_eq_self (unstamped mail hmem) (by simpa using hanswer)
  rw [hsame, hkept]

/-- A bearer that has just come into being has nothing under way. -/
theorem Bearer.tasks_renewed {ι : Type} (b : Bearer ι) : b.renewed.tasks = 0 := by
  have hnone : ∀ mails : List Mail, (mails.filter (!·.isAnswer)).filterMap Mail.task? = [] := by
    intro mails
    refine List.filterMap_eq_nil_iff.mpr fun mail hmail => ?_
    have hanswer := (List.mem_filter.mp hmail).2
    rw [Mail.isAnswer, Bool.not_eq_true', Option.isSome_eq_false_iff] at hanswer
    exact Option.isNone_iff_eq_none.mp hanswer
  have hmails : (b.renewed.controller.mailbox ++ b.renewed.controller.deferred ++
      b.renewed.inbox).filterMap Mail.task? = [] := by
    rw [controller_renewed, List.filterMap_append, List.filterMap_append]
    exact List.append_eq_nil_iff.mpr ⟨List.append_eq_nil_iff.mpr ⟨hnone _, rfl⟩, hnone _⟩
  rw [tasks, hmails, controller_renewed]
  rfl

namespace Scene

variable {ι : Type} {w : Scene ι}

/-- The numbers of the past are those before the current generation. -/
theorem past_succ (w : Scene ι) :
    w.past.generations + 1 = w.controller.connection.generation := UInt64.sub_add_cancel _ _

theorem young_renewed (unstamped : ∀ mail ∈ w.bearer.mails, mail.IsUnstamped) :
    w.renewed.Young w.past := by
  constructor
  · intro task htask
    have hmem : task ∈ w.bearer.renewed.tasks := htask
    rw [w.bearer.tasks_renewed] at hmem
    exact absurd hmem (Multiset.notMem_zero task)
  · intro mail hmail
    refine unstamped mail ?_
    have hmem : mail ∈ w.bearer.renewed.mails := hmail
    rw [Bearer.mails, Bearer.controller_renewed] at hmem
    rcases List.mem_append.mp hmem with hmailbox | hinbox
    · have hheld := (List.mem_filter.mp hmailbox).1
      exact List.mem_append_left _ (List.mem_append_right _ hheld)
    · exact List.mem_append_right _ (List.mem_filter.mp hinbox).1

/-- A bearer that has just become idle is one that has just come into being, with its numbers
counted on, but for the answers of the past. -/
theorem renewed_later (new : w.bearer.IsNew)
    (past : ∀ task ∈ w.bearer.tasks, task.isBefore w.controller.connection.generation = true)
    (unstamped : ∀ mail ∈ w.bearer.mails, mail.IsUnstamped) :
    w.without (Task.isBefore w.controller.connection.generation) = w.renewed.later w.past := by
  have hgeneration : w.past.generation 1 = w.controller.connection.generation := by
    rw [Renumbering.generation, if_neg (by decide), UInt64.add_comm, past_succ]
  have hmailbox := filter_isBefore w.controller.mailbox w.past
    (fun mail hmail task htask => past task (Bearer.mem_tasks_of_mailbox hmail htask))
    (fun mail hmail => unstamped mail (List.mem_append_left _ (List.mem_append_right _ hmail)))
  have hinbox := filter_isBefore w.bearer.inbox w.past
    (fun mail hmail task htask => past task (Bearer.mem_tasks_of_inbox hmail htask))
    (fun mail hmail => unstamped mail (List.mem_append_right _ hmail))
  have hcalls : w.bearer.openCalls.filter
      (fun call => !call.2.task.isBefore w.controller.connection.generation) = [] := by
    refine List.filter_eq_nil_iff.mpr fun call hcall => ?_
    rw [past _ (Bearer.mem_tasks_of_openCalls hcall)]
    exact Bool.false_ne_true
  have hconnection : w.controller.renewed.connection.later w.past = w.controller.connection := by
    rw [← new.wiped]
    exact (congrArg (fun g => { w.controller.connection with generation := g }.wiped) hgeneration :)
  have hcontroller : w.controller.without (Task.isBefore w.controller.connection.generation) =
      (w.bearer.renewed.controller).later w.past := by
    rw [Bearer.controller_renewed, Controller.without, hmailbox]
    show Controller.mk w.controller.phase _ _ _ w.controller.deferred w.controller.outbox
      w.controller.halt = Controller.mk _ (w.controller.renewed.connection.later w.past) _ _ _ _ _
    rw [new.phase, new.deferred, new.outbox, new.live, hconnection]
    rfl
  rw [without, Bearer.without, hcontroller, hinbox, hcalls]
  show w.withBearer (Bearer.mk _ _ _ w.bearer.calls) =
    w.withBearer (Bearer.mk _ _ _ (0 + w.bearer.calls))
  rw [Nat.zero_add]
  rfl

end Scene

section

variable {ι : Type} [Interceptor ι]

/-- In a run a bearer does what one does that has just come into being in its place, is told what
outlives a connection, and is sent the mail first.  What does not count is that answers about what
was ordered before go unheeded, and that their requests are given up. -/
structure Scene.StartsAfresh (w : Scene ι) (acts : List (Act ι)) : Prop where
  /-- Nothing is left of the past but calls and answers. -/
  same : w.without (Task.isBefore w.controller.connection.generation) = w.renewed.later w.past
  /-- All that is sent is sent to both bearers, and what changes around them changes around both. -/
  inputs : (w.afresh w.controller.connection.generation w.bearer.calls acts).filter Act.isInput =
    acts.filter Act.isInput
  /-- Both show the same, but for the numbers. -/
  shows : besides (·.isBefore w.controller.connection.generation) (w.run acts).2 =
    (besides (fun _ => false) (w.renewed.run
      (w.afresh w.controller.connection.generation w.bearer.calls acts)).2).map (·.later w.past)
  /-- They end the same, but for the numbers and the answers of the past. -/
  ends : (w.run acts).1.without (Task.isBefore w.controller.connection.generation) =
    (w.renewed.run (w.afresh w.controller.connection.generation w.bearer.calls acts)).1.later w.past

theorem Scene.startsAfresh {w : Scene ι} {acts : List (Act ι)} (new : w.bearer.IsNew)
    (past : ∀ task ∈ w.bearer.tasks, task.isBefore w.controller.connection.generation = true)
    (unstamped : ∀ mail ∈ w.bearer.mails, mail.IsUnstamped) (numbered : w.bearer.Numbered)
    (before : 1 < w.controller.connection.generation.toNat)
    (bound : w.controller.connection.generation.toNat +
      (w.run acts).2.countP Event.isReturn < 2 ^ 64) : w.StartsAfresh acts := by
  have hsame := renewed_later new past unstamped
  have hone : (1 : UInt64).toNat = 1 := rfl
  have hgeneration : w.renewed.controller.connection.generation = 1 := by
    show (w.bearer.renewed.controller).connection.generation = 1
    rw [Bearer.controller_renewed]
    rfl
  have hpast : w.past.generations.toNat = w.controller.connection.generation.toNat - 1 :=
    UInt64.toNat_sub_of_le _ _ (UInt64.le_iff_toNat_le.mpr (by omega))
  have hrun := run_afresh (ρ := w.past) (f := w.renewed) acts
    (by rw [past_succ]; exact hsame) numbered (young_renewed unstamped)
    (by rw [hgeneration]; decide)
    (fun hzero => by rw [hzero, UInt64.toNat_zero] at hpast; omega) (by rw [hgeneration]; omega)
  rw [past_succ] at hrun
  exact ⟨hsame, filter_afresh _ _ _ _, hrun.2, hrun.1⟩

/-- Every return to idle is a fresh start.  However a bearer has become idle, it takes up what was
put off first, and then the mail that waited, and whatever comes later it does what a bearer does
that has just come into being, in the same surroundings and with the same interceptor. -/
theorem fresh_start (s : Setting) (i : ι) (earlier : List (Act ι)) (act : Act ι)
    (later : List (Act ι))
    (entries : idleEntries ((Scene.start s i).run (earlier ++ act :: later)).2 < 2 ^ 64)
    (returns : ∃ event ∈ (((Scene.start s i).run earlier).1.step act).2, event.isReturn = true) :
    (((Scene.start s i).run earlier).1.step act).1.controller.mailbox =
        ((Scene.start s i).run earlier).1.controller.deferred ++
          ((Scene.start s i).run earlier).1.controller.mailbox.tail ∧
      (((Scene.start s i).run earlier).1.step act).1.StartsAfresh later := by
  obtain ⟨event, hmem, hreturns⟩ := returns
  have hearlier := (Scene.idleEntries_run_le _ earlier (act :: later)).trans_lt entries
  have hchange := ((Scene.start s i).run earlier).1.change_step act
  obtain ⟨mail, rest, r, arrival, hturned, -⟩ := hchange.of_return hmem hreturns
  have hlive := Scene.live_of_mailbox hturned.first
  obtain ⟨hnew, hmailbox⟩ := hchange.isNew (Scene.inOrder_of_start hearlier hlive)
    (Scene.prompt_of_start hearlier hlive) hlive hmem hreturns
  refine ⟨hmailbox, ?_⟩
  -- what holds in every run holds after the act, too
  rw [List.append_cons] at entries
  have hnow := (Scene.idleEntries_run_le _ (earlier ++ [act]) later).trans_lt entries
  have hscene := congrArg Prod.fst ((Scene.start s i).run_concat earlier act)
  dsimp only at hscene
  have hnumbered := Scene.numbered_run (Scene.start s i) (earlier ++ [act])
    (Bearer.numbered_start i)
  have hunstamped := Scene.unstamped_run (Scene.start s i) (earlier ++ [act])
    fun mail hmail => absurd hmail List.not_mem_nil
  have hstamped := Scene.stamped_run (Scene.start s i) (earlier ++ [act])
    Nat.one_pos (Scene.room_start hnow) fun task htask => absurd htask (Multiset.notMem_zero task)
  have hlives : ((Scene.start s i).run (earlier ++ [act])).1.bearer.isHalted = false := by
    rw [hscene, Bearer.isHalted, Controller.isHalted, hnew.live]
    rfl
  have hinOrder := Scene.inOrder_of_start hnow hlives
  have hgeneration := Scene.toNat_generation_run _ (earlier ++ [act]) (Scene.room_start hnow)
  rw [Scene.run_append] at entries
  have hroom := Scene.room_run entries
  rw [hscene] at hnumbered hunstamped hstamped hinOrder hgeneration hroom
  refine Scene.startsAfresh hnew (fun task htask => ?_) hunstamped hnumbered ?_ hroom
  · -- no task is of the new generation
    have hne := hinOrder.generation_ne (by rw [hnew.phase]; rfl) htask
    exact Task.isBefore_iff.mpr
      ⟨hstamped task htask, UInt64.lt_of_le_of_ne (hinOrder.bounded task htask) hne⟩
  · have hcount := List.countP_pos_iff.mpr ⟨event, hmem, hreturns⟩
    rw [Scene.run_concat, List.countP_append] at hgeneration
    have hone : (Scene.start s i).controller.connection.generation.toNat = 1 := rfl
    omega

end

/-- A call is open and a second request waits, when the bearer is told to reset. -/
def resetWhileWaiting : List (Act Unit) :=
  [.ask (.bringUp "a" {}), .take, .turn, .turn, .ask (.bringUp "b" {}), .take, .turn,
    .inquire .reset, .take]

/-- The second request is granted, after an answer to the first call. -/
def grantedAfterwards : List (Act Unit) :=
  [.turn, .turn, .answer 0 { setUp := some (.ok plainReply) }, .take, .turn,
    .answer 1 { setUp := some (.ok plainReply) }, .take, .turn]

/-- The second request is first in the mail after the reset, and its call is the first one of the
bearer that has just come into being. -/
theorem fresh_start_waiting :
    (idleEntries ((Scene.start .cellular ()).run
        (resetWhileWaiting ++ .turn :: grantedAfterwards)).2 < 2 ^ 64 ∧
      ∃ event ∈ (((Scene.start .cellular ()).run resetWhileWaiting).1.step .turn).2,
        event.isReturn = true) ∧
    (((Scene.start .cellular ()).run resetWhileWaiting).1.step .turn).1.controller.mailbox =
      [.bringUp { number := 1, client := "b", accessPoint := {} }] ∧
    (((Scene.start .cellular ()).run resetWhileWaiting).1.step .turn).1.StartsAfresh
      grantedAfterwards ∧
    (((Scene.start .cellular ()).run resetWhileWaiting).1.step .turn).1.afresh 2 1
        grantedAfterwards =
      [.turn, .turn, .answer 0 { setUp := some (.ok plainReply) }, .take, .turn] := by
  have entries : idleEntries ((Scene.start .cellular ()).run
      (resetWhileWaiting ++ .turn :: grantedAfterwards)).2 < 2 ^ 64 := by decide
  have returns : ∃ event ∈ (((Scene.start .cellular ()).run resetWhileWaiting).1.step .turn).2,
      event.isReturn = true :=
    List.countP_pos_iff.mp (by decide)
  obtain ⟨hmailbox, hafresh⟩ :=
    fresh_start .cellular () resetWhileWaiting .turn grantedAfterwards entries returns
  exact ⟨⟨entries, returns⟩, hmailbox, hafresh, rfl⟩

end PacketBearer
