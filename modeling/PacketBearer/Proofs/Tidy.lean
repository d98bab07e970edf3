/-
Bearers that nobody has reset.

Without resets and inquiries no task of a past generation is ever under way.  A tidy bearer holds at
most one task, of the current generation, and requests besides:

* `waits_or_free` — its first piece of mail has to wait, or all the others are requests;
* `only_command`, `only_call` — where there is a command or an open call, there is nothing else but
  requests;
* `tidy_run` — requests and answers keep a bearer tidy, whenever they come.
-/
import PacketBearer.Proofs.Agenda
import PacketBearer.Proofs.InFlight
import PacketBearer.Proofs.Serial

namespace PacketBearer

/-- A bearer that has never been reset or inquired: what it holds are tasks of its current
generation, at most one of them, and requests. -/
structure Bearer.Tidy {ι : Type} (b : Bearer ι) : Prop where
  numbered : b.Numbered
  mails : ∀ mail ∈ b.mails, mail.isRequest = true ∨ mail.isAnswer = true
  -- only requests wait for another phase
  waiting : ∀ mail ∈ b.controller.deferred, mail.isRequest = true
  current : ∀ task ∈ b.tasks, task.generation = b.controller.connection.generation
  fits : Fits b.controller.connection b.controller.deferred b.tasks b.controller.phase

section

variable {ι : Type} [Interceptor ι] {s : Setting}

/-! ### Reactions -/

/-- A request that comes to a busy phase waits. -/
theorem react_of_isBusy (c : Connection) (i : ι) {p : Phase} {mail : Mail}
    (busy : p.isBusy = true) (request : mail.isRequest = true) :
    react s p c i mail = wait c i mail := by
  cases mail with
  | bringUp | tearDown => cases p <;> first | rfl | cases busy
  | _ => cases request

/-- All that a bearer sends itself are answers in the radio's place. -/
theorem Rule.isAnswer_of_mem_posts {c : Connection} {i : ι} {p : Phase} {mail post : Mail}
    {r : Reaction ι} (h : Rule s c i p mail r) (hpost : post ∈ r.posts) :
    post.isAnswer = true := by
  cases h with
  | intercepted =>
    rw [List.mem_singleton.mp hpost]
    rfl
  | _ => cases hpost

theorem Rule.nothing_issued {c : Connection} {i : ι} {p : Phase} {mail : Mail} {r : Reaction ι}
    {arrival : Arrival} (h : Rule s c i p mail r) (next : r.next = some (.idle, arrival)) :
    Tally.tasks.ofReaction mail r = 0 := by
  cases h with
  | fails | released | resets => rfl
  | _ => cases next

/-- What a reaction issues is of the generation that it leads to. -/
theorem Rule.issued_current {m : Controller ι} {mail : Mail} {r : Reaction ι}
    (h : Rule s m.connection m.interceptor m.phase mail r) :
    ∀ task ∈ Tally.tasks.ofReaction mail r,
      task.generation = (m.after s mail r).1.connection.generation := by
  intro task htask
  rcases h.issued with hnone | ⟨only, honly, hcurrent⟩
  · rw [hnone] at htask
    exact absurd htask (Multiset.notMem_zero task)
  · have hstays := h.generation_stays fun arrival hnext => by
      rw [h.nothing_issued hnext] at htask
      exact absurd htask (Multiset.notMem_zero task)
    rw [honly, Multiset.mem_singleton] at htask
    rw [htask, hcurrent, hstays]

theorem Fits.current_eq_zero {p : Phase} {c : Connection} {deferred : List Mail}
    {current : Multiset Task} (h : Fits c deferred current p) (free : p.isBusy = false) :
    current = 0 ∧ deferred = [] := by
  cases p with
  | idle =>
    obtain ⟨hcurrent, -, -, -, hdeferred⟩ := h
    exact ⟨hcurrent, hdeferred⟩
  | up =>
    obtain ⟨hcurrent, -, -, -, hdeferred⟩ := h
    exact ⟨hcurrent, hdeferred⟩
  | settingUp | releasing | cleaningUp => cases free

omit [Interceptor ι] in
/-- Where no request has to wait, all tasks are of the past. -/
theorem Bearer.InOrder.generation_ne {b : Bearer ι} (h : b.InOrder)
    (free : b.controller.phase.isBusy = false) {task : Task} (mem : task ∈ b.tasks) :
    task.generation ≠ b.controller.connection.generation :=
  ofGeneration_eq_zero_iff.mp (h.fits.current_eq_zero free).1 task mem

end

/-! ### Tidy bearers -/

namespace Bearer

variable {ι : Type} {b : Bearer ι}

theorem mails_withMailbox_subset {mail : Mail} {rest : List Mail}
    (first : b.controller.mailbox = mail :: rest) :
    (b.withController (b.controller.withMailbox rest)).mails ⊆ b.mails := by
  intro other hother
  simp only [mails, withController, Controller.withMailbox, first, List.mem_append,
    List.mem_cons] at hother ⊢
  tauto

/-- Where no task is under way there are only requests. -/
theorem onlyRequests_of_tasks (free : b.tasks = 0)
    (mails : ∀ mail ∈ b.mails, mail.isRequest = true ∨ mail.isAnswer = true) :
    b.OnlyRequests := by
  have hnil := (Multiset.coe_eq_zero _).mp free
  simp only [List.append_eq_nil_iff, List.map_eq_nil_iff, List.filterMap_append,
    List.filterMap_eq_nil_iff] at hnil
  obtain ⟨⟨hout, hcalls⟩, ⟨hmailbox, hdeferred⟩, hinbox⟩ := hnil
  refine ⟨hout, hcalls, fun mail hmail => ?_⟩
  have hnone : mail.task? = none := by
    rcases List.mem_append.mp hmail with hmail' | hmail'
    · exact (List.mem_append.mp hmail').elim (hdeferred mail) (hmailbox mail)
    · exact hinbox mail hmail'
  rcases mails mail hmail with h | h
  · exact h
  · rw [Mail.isAnswer, hnone] at h
    cases h

namespace Tidy

/-- The only task under way, and what the bearer holds besides. -/
theorem free_of_task (h : b.Tidy) {task : Task} {others : Multiset Task}
    (tasks : b.tasks = {task} + others) : others = 0 := by
  have hfits := h.fits
  rw [tasks] at hfits
  exact hfits.awaits.2

/-- The first piece of mail has to wait, or it is the only thing that is done or could be. -/
theorem waits_or_free (h : b.Tidy) {mail : Mail} {rest : List Mail}
    (first : b.controller.mailbox = mail :: rest) :
    b.controller.phase.isBusy = true ∧ mail.isRequest = true ∨
      (b.withController (b.controller.withMailbox rest)).tasks = 0 ∧
        (mail.isAnswer = true ∨ mail.isRequest = true ∧ b.controller.deferred = []) ∧
        ¬ (b.controller.phase.isBusy = true ∧ mail.isRequest = true) := by
  have hbefore := tasks_first first
  -- an answer reports on the only task; a request that does not wait finds no task under way
  rcases h.mails mail (mem_mails_of_first first) with hrequest | hanswer
  · cases hbusy : b.controller.phase.isBusy with
    | true => exact Or.inl ⟨rfl, hrequest⟩
    | false =>
      obtain ⟨hnone, hdeferred⟩ := h.fits.current_eq_zero hbusy
      rw [hnone, Tally.tasks_ofMail_none (Mail.task?_of_isRequest hrequest), zero_add] at hbefore
      exact Or.inr ⟨hbefore.symm, Or.inr ⟨hrequest, hdeferred⟩, fun hwait => by cases hwait.1⟩
  · obtain ⟨task, htask⟩ := Option.isSome_iff_exists.mp hanswer
    rw [Tally.tasks_ofMail_some htask] at hbefore
    refine Or.inr ⟨h.free_of_task hbefore, Or.inl hanswer, fun hwait => ?_⟩
    rw [Mail.isAnswer_of_isRequest hwait.2] at hanswer
    cases hanswer

/-- There is one command at most, and then nothing else but requests. -/
theorem only_command (h : b.Tidy) (outbox : b.controller.outbox ≠ []) :
    ∃ command, b.controller.outbox = [command] ∧ b.clearOutbox.OnlyRequests := by
  obtain ⟨command, hout, hfree⟩ := Bearer.single_command h.fits.card_le_one outbox
  exact ⟨command, hout, onlyRequests_of_tasks hfree h.mails⟩

/-- There is one open call at most, and then nothing else but requests. -/
theorem only_call (h : b.Tidy) {call : Nat} {command : Command}
    (isOpen : (call, command) ∈ b.openCalls) :
    b.openCalls = [(call, command)] ∧ (b.close call).OnlyRequests := by
  have hnone := Bearer.single_call h.fits.card_le_one h.numbered isOpen
  have hfree := onlyRequests_of_tasks hnone h.mails
  refine ⟨?_, hfree⟩
  -- no other call is open, as none is open without this one, and none has its number
  have hnumber : ∀ other ∈ b.openCalls, other.1 = call := by
    intro other hother
    by_contra hne
    have hmem : other ∈ (b.close call).openCalls := List.mem_filter.mpr ⟨hother, by simpa using hne⟩
    rw [hfree.openCalls] at hmem
    cases hmem
  obtain ⟨first, later, hcalls⟩ := List.exists_cons_of_ne_nil (List.ne_nil_of_mem isOpen)
  have hnodup := h.numbered.nodup
  rw [hcalls, List.map_cons, List.nodup_cons] at hnodup
  rw [hcalls] at isOpen hnumber ⊢
  have hlater : later = [] := by
    rw [List.eq_nil_iff_forall_not_mem]
    intro other hother
    refine hnodup.1 (List.mem_map.mpr ⟨other, hother, ?_⟩)
    rw [hnumber other (List.mem_cons_of_mem _ hother), hnumber first List.mem_cons_self]
  rw [hlater] at isOpen ⊢
  rw [List.mem_singleton.mp isOpen]

/-- A tidy bearer with an empty agenda holds nothing at all. -/
theorem eq_bearer (h : b.Tidy) (live : b.isHalted = false) (nothing : b.agenda = []) :
    b = b.standing.bearer := by
  simp only [Bearer.agenda, List.append_eq_nil_iff, List.map_eq_nil_iff,
    List.filter_eq_nil_iff] at nothing
  obtain ⟨⟨⟨hout, hcalls⟩, hanswers⟩, hrequests⟩ := nothing
  -- mail that is neither a request nor an answer there is none
  have hnone : b.mails = [] := by
    rw [List.eq_nil_iff_forall_not_mem]
    intro mail hmail
    rcases h.mails mail hmail with hrequest | hanswer
    · exact hrequests mail hmail hrequest
    · rw [Bearer.mails, List.append_assoc] at hmail
      rcases List.mem_append.mp hmail with hwaits | hother
      · rw [Mail.isAnswer_of_isRequest (h.waiting mail hwaits)] at hanswer
        cases hanswer
      · exact hanswers mail hother hanswer
  simp only [Bearer.mails, List.append_eq_nil_iff] at hnone
  obtain ⟨⟨hdeferred, hmailbox⟩, hinbox⟩ := hnone
  have hhalt : b.controller.halt = none :=
    Option.not_isSome_iff_eq_none.mp (Bool.eq_false_iff.mp live)
  obtain ⟨⟨phase, connection, interceptor, mailbox, deferred, outbox, halt⟩, inbox, openCalls,
    calls⟩ := b
  simp only at hdeferred hmailbox hinbox hout hcalls hhalt
  rw [hdeferred, hmailbox, hinbox, hout, hcalls, hhalt]
  rfl

end Tidy

end Bearer

/-! ### Tidy runs -/

section

variable {ι : Type} {s : Setting}

theorem mem_mails_after {b : Bearer ι} {mail other : Mail} {r : Reaction ι}
    (halt : r.halt = none)
    (h : other ∈ (b.withController (b.controller.after s mail r).1).mails) :
    r.waits = true ∧ other = mail ∨ other ∈ r.posts ∨ other ∈ b.mails := by
  rw [Controller.after, halt] at h
  cases hnext : r.next with
  | none =>
    rw [hnext] at h
    simp only [Bearer.mails, Bearer.withController, Controller.absorb, List.mem_append] at h ⊢
    split at h <;> simp only [List.mem_singleton, List.not_mem_nil] at h <;> tauto
  | some next =>
    rw [hnext] at h
    simp only [Bearer.mails, Bearer.withController, Controller.move, Controller.absorb,
      List.mem_append] at h ⊢
    split at h <;> simp only [List.mem_singleton, List.not_mem_nil] at h <;> tauto

/-- Handling a piece of mail keeps a bearer tidy. -/
theorem Bearer.Tidy.after [Interceptor ι] {b : Bearer ι} {mail : Mail} {rest : List Mail}
    {r : Reaction ι} {m : Controller ι} (h : b.Tidy)
    (first : b.controller.mailbox = mail :: rest) (hm : m = b.controller.withMailbox rest)
    (hr : react s m.phase m.connection m.interceptor mail = r) (halt : r.halt = none) :
    (b.withController (m.after s mail r).1).Tidy := by
  have hrule : Rule s m.connection m.interceptor m.phase mail r := by
    rw [← hr]
    exact rule_react _ _ _ _ _
  have hbefore := tasks_first first
  have hafter := tasks_after s b m mail halt
  have hready := h.waits_or_free first
  rw [← hm] at hbefore hready
  generalize (b.withController m).tasks = others at hbefore hafter hready
  have hcurrent : ∀ task ∈ b.tasks, task.generation = m.connection.generation := by
    rw [hm]
    exact h.current
  have hwaiting : ∀ other ∈ m.deferred, other.isRequest = true := by
    rw [hm]
    exact h.waiting
  have hfits : Fits m.connection m.deferred
      (ofGeneration m.connection.generation b.tasks) m.phase := by
    rw [ofGeneration, Multiset.filter_eq_self.mpr hcurrent, hm]
    exact h.fits
  rw [hbefore] at hfits
  have hothers : (∀ task ∈ others, task.generation = (m.after s mail r).1.connection.generation) ∧
      ∀ arrival, r.next = some (.idle, arrival) →
        ofGeneration (m.connection.generation + 1) others = 0 := by
    -- a request that waits leaves the task under way as it is; all else is done alone
    rcases hready with ⟨hbusy, hrequest⟩ | ⟨rfl, -⟩
    · have hwait := hr.symm.trans
        (react_of_isBusy _ _ (show m.phase.isBusy = true by rw [hm]; exact hbusy) hrequest)
      rw [hwait]
      refine ⟨fun task htask => hcurrent task ?_, fun arrival hnext => by cases hnext⟩
      rw [hbefore]
      exact Multiset.mem_add.mpr (Or.inr htask)
    · exact ⟨fun task htask => absurd htask (Multiset.notMem_zero task), fun _ _ => rfl⟩
  have hcurrent' : ∀ task ∈ others + Tally.tasks.ofReaction mail r,
      task.generation = (m.after s mail r).1.connection.generation := by
    intro task htask
    exact (Multiset.mem_add.mp htask).elim (hothers.1 task) (hrule.issued_current task)
  have hfits' := Fits.after hrule halt hfits hothers.2
  rw [ofGeneration, Multiset.filter_eq_self.mpr hcurrent', ← hafter] at hfits'
  rw [← hafter] at hcurrent'
  -- what the mail is was clear before, but for what the reaction posts
  refine ⟨⟨h.numbered.nodup, h.numbered.lt⟩, ?_, ?_, hcurrent', hfits'⟩
  · intro other hother
    have hmem : mail ∈ b.mails := Bearer.mem_mails_of_first first
    rcases mem_mails_after (b := b.withController m) halt hother with ⟨-, rfl⟩ | hpost | hold
    · exact h.mails other hmem
    · exact Or.inr (hrule.isAnswer_of_mem_posts hpost)
    · refine h.mails other ?_
      rw [hm] at hold
      exact mails_withMailbox_subset first hold
  · exact hrule.waiting_after halt hwaiting

end

namespace Scene

variable {ι : Type} [Interceptor ι] {answers : Nat → RadioAnswers} {w w' : Scene ι} {act : Act ι}
  {events : List Event}

/-- All the mail that an act adds is what is sent at it, and answers. -/
theorem Change.mem_or_sends (h : Change w act w' events) :
    ∀ mail ∈ w'.bearer.mails,
      mail ∈ w.bearer.mails ∨ w.Sends act mail ∨ mail.isAnswer = true := by
  -- what is sent goes to the end of the inbox
  have sent : ∀ {new mail : Mail}, w.Sends act new → mail ∈ w.bearer.mails ++ [new] →
      mail ∈ w.bearer.mails ∨ w.Sends act mail ∨ mail.isAnswer = true := by
    intro new mail hsends hmail
    rcases List.mem_append.mp hmail with hold | hnew
    · exact Or.inl hold
    · rw [List.mem_singleton.mp hnew]
      exact Or.inr (Or.inl hsends)
  intro mail hmail
  cases h with
  | still | switched | trackerClosed | rearmed => exact Or.inl hmail
  | asked wish =>
    refine sent (.ask wish) ?_
    cases wish <;> simpa [Bearer.mails, count, send, Bearer.send] using hmail
  | inquired inquiry =>
    exact sent (.inquire inquiry) (by simpa [Bearer.mails, send, Bearer.send] using hmail)
  | stopSent => exact sent .stop (by simpa [Bearer.mails, send, Bearer.send] using hmail)
  | heard result resting =>
    refine sent (.hear result) ?_
    simp only [Bearer.mails, withController, Bearer.withController, Controller.post,
      List.mem_append] at hmail ⊢
    tauto
  | @answered call given command answer isOpen ready =>
    have hmail' : mail ∈ w.bearer.mails ++ [answer] := by
      simpa [Bearer.mails, send, Bearer.send, Bearer.close] using hmail
    rcases List.mem_append.mp hmail' with hold | hnew
    · exact Or.inl hold
    · rw [List.mem_singleton.mp hnew]
      refine Or.inr (Or.inr ?_)
      rw [Mail.isAnswer, Command.task?_completion ready]
      rfl
  | taken first resting =>
    -- mail that is taken only changes its place
    refine Or.inl ?_
    simp only [Bearer.mails, Bearer.withController, Bearer.withInbox, Controller.post, first,
      List.mem_append, List.mem_cons] at hmail ⊢
    tauto
  | refused first =>
    refine Or.inl ?_
    simp only [Bearer.mails, Bearer.withInbox, first, List.mem_append, List.mem_cons] at hmail ⊢
    tauto
  | @handled own rest r first rule =>
    have hsubset := Bearer.mails_withMailbox_subset (b := w.bearer) first
    cases hhalt : r.halt with
    | none =>
      have hafter := mem_mails_after (s := w.setting) hhalt
        (b := w.bearer.withController (w.controller.withMailbox rest)) hmail
      rcases hafter with ⟨-, rfl⟩ | hpost | hold
      · exact Or.inl (Bearer.mem_mails_of_first first)
      · exact Or.inr (Or.inr (rule.isAnswer_of_mem_posts hpost))
      · exact Or.inl (hsubset hold)
    | some halt =>
      -- all that a bearer holds that has halted is its inbox
      rw [Controller.after, hhalt] at hmail
      exact Or.inl (List.mem_append_right _ hmail)
  | dispatched empty =>
    obtain ⟨purposes, hcontroller⟩ :=
      Bearer.controller_dispatchAll w.setting w.bearer.clearOutbox w.controller.outbox
    have hinbox := Bearer.inbox_dispatchAll w.setting w.bearer.clearOutbox w.controller.outbox
    rw [Bearer.mails, hcontroller, hinbox] at hmail
    simp only [Bearer.mails, Bearer.clearOutbox, List.mem_append, List.mem_map] at hmail ⊢
    rcases hmail with (hold | hold | ⟨purpose, -, rfl⟩) | hold
    · exact Or.inl (Or.inl (Or.inl hold))
    · exact Or.inl (Or.inl (Or.inr hold))
    · exact Or.inr (Or.inr rfl)
    · exact Or.inl (Or.inr hold)

/-- All the mail that a plain act adds are requests and answers. -/
theorem Change.mem_mails (h : Change w act w' events) (plain : act.IsPlain answers) :
    ∀ mail ∈ w'.bearer.mails,
      mail ∈ w.bearer.mails ∨ mail.isRequest = true ∨ mail.isAnswer = true := by
  intro mail hmail
  rcases h.mem_or_sends mail hmail with hold | hsent | hanswer
  · exact Or.inl hold
  · cases hsent with
    | ask wish => cases wish <;> exact Or.inr (Or.inl rfl)
    | inquire | stop | hear => exact plain.elim
  · exact Or.inr (Or.inr hanswer)

/-- Plain acts keep a bearer tidy that has not halted. -/
theorem tidy_step (tidy : w.bearer.Tidy) (plain : act.IsPlain answers)
    (live : (w.step act).1.bearer.isHalted = false) : (w.step act).1.bearer.Tidy := by
  have hchange := w.change_step act
  by_cases hturned : ∃ mail rest r, Turned w act (w.step act).1 (w.step act).2 mail rest r
  · obtain ⟨mail, rest, _, rfl, first, -⟩ := hturned
    -- `Turned` knows the reaction by its rule only, so that it is read off the turn once more
    obtain ⟨r, hr, -, hstep⟩ := step_turn first
    rw [hstep] at live ⊢
    exact tidy.after first rfl hr (Controller.live_after_iff.mp live).1
  · obtain ⟨hquiet, htasks⟩ :=
      (hchange.turned_or_tasks tidy.numbered (hchange.live live)).resolve_left hturned
    refine ⟨hchange.numbered tidy.numbered, fun mail hmail => ?_, ?_, ?_, ?_⟩
    · exact (hchange.mem_mails plain mail hmail).elim (tidy.mails mail) id
    · rw [hquiet.deferred]
      exact tidy.waiting
    · rw [htasks, hquiet.connection]
      exact tidy.current
    · rw [htasks, hquiet.connection, hquiet.deferred, hquiet.phase]
      exact tidy.fits

theorem tidy_run {acts : List (Act ι)} (tidy : w.bearer.Tidy)
    (plain : ∀ act ∈ acts, act.IsPlain answers)
    (live : (w.run acts).1.bearer.isHalted = false) : (w.run acts).1.bearer.Tidy := by
  induction acts generalizing w with
  | nil => exact tidy
  | cons act acts ih =>
    obtain ⟨hact, hacts⟩ := List.forall_mem_cons.mp plain
    rw [run_cons] at live ⊢
    exact ih (tidy_step tidy hact (live_run live)) hacts live

end Scene

theorem Bearer.tidy_start {ι : Type} (i : ι) : (Bearer.start i).Tidy where
  numbered := Bearer.numbered_start i
  mails := fun _ hmail => absurd hmail List.not_mem_nil
  waiting := fun _ hmail => absurd hmail List.not_mem_nil
  current := fun task htask => absurd htask (Multiset.notMem_zero task)
  fits := ⟨rfl, rfl, rfl, rfl, rfl⟩

end PacketBearer
