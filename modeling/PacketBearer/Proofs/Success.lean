/-
Successes, and the failures that look like them.

A bring-up that succeeds finds its client attached to a bearer that is up, and the number that it
is given is the one that the radio gave when the attempt of this generation succeeded.  There is
one exception.  A failure for which the radio gives no cause is told from a success by nothing:
the bearer has become idle, and the bring-up is completed with no bearer's number.

* `Rule.broughtUp` — what a reaction can complete a bring-up with;
* `accepted_of_hasBearer`, `hasBearer_of_accepted` — a bearer is up, or being released, exactly after
  an attempt of its generation has succeeded, and keeps the number it was given then;
* `broughtUp_genuine` — successes are genuine, and failures are failures, at every act but those
  that handle an answer without a cause.
-/
import Mathlib.Data.List.Induction
import PacketBearer.Proofs.InFlight

namespace PacketBearer

variable {ι : Type}

/-- At the act the controller handles an answer that ends an attempt without a cause. -/
def Scene.Misled (w : Scene ι) (act : Act ι) : Prop :=
  ∃ mail, w.Handles act mail ∧ Causeless w.setting mail

/-- A bearer exists, as far as its own side knows. -/
def Phase.hasBearer : Phase → Bool
  | up | releasing => true
  | idle | settingUp | cleaningUp => false

section

variable [Interceptor ι]

/-- The attempt succeeds at an act, by a reply of the radio. -/
structure Scene.Accepts (w : Scene ι) (act : Act ι) (reply : SetupReply) : Prop where
  handles : ∃ request, w.Handles act (.setUpDone request (.ok reply))
  status : reply.status = 0
  settingUp : w.controller.phase = .settingUp
  up : (w.step act).1.controller.phase = .up

/-- The attempt fails at an act, not by a reset, and takes the bearer back to idle. -/
structure Scene.Fails (w : Scene ι) (act : Act ι) : Prop where
  attempt : w.controller.phase = .settingUp ∨ w.controller.phase = .cleaningUp
  idle : (w.step act).1.controller.phase = .idle
  unasked : ∀ number, ¬ w.Handles act (.inquiry number .reset)

/-- The attempt of the current generation has succeeded in a run, by a reply of the radio. -/
def Scene.Accepted (w : Scene ι) (acts : List (Act ι)) (reply : SetupReply) : Prop :=
  ∃ earlier act later, acts = earlier ++ act :: later ∧ (w.run earlier).1.Accepts act reply ∧
    (w.run earlier).1.controller.connection.generation =
      (w.run acts).1.controller.connection.generation

/-- What the success of a bring-up, with a bearer's number, says of the run that has led to it. -/
structure Scene.Genuine (w : Scene ι) (acts : List (Act ι)) (request : BringUp) (id : Int32) :
    Prop where
  up : (w.run acts).1.controller.phase = .up
  attached : request.client ∈ (w.run acts).1.controller.connection.clients
  recorded : (w.run acts).1.controller.connection.bearerId = id
  accepted : ∃ reply, w.Accepted acts reply
  -- whoever succeeds in this generation is given this number
  given : ∀ reply, w.Accepted acts reply → reply.bearerId = id

end

/-! ### Outcomes -/

theorem broughtUp_of_mem_enter {s : Setting} {c : Connection} {target : Phase} {arrival : Arrival}
    {request : BringUp} {outcome : BringUpOutcome}
    (h : Event.broughtUp request outcome ∈ (c.enter s target arrival).2) :
    (arrival = .succeeded request ∧ (target = .up → outcome = .ok c.bearerId)) ∨
      ∃ failure, arrival = .failed request failure ∧ target = .idle ∧
        outcome = c.outcome failure := by
  cases target with
  | idle =>
    cases arrival with
    | quiet => cases h
    | succeeded request' =>
      cases List.mem_singleton.mp h
      exact Or.inl ⟨rfl, fun hup => absurd hup (by simp)⟩
    | failed request' failure =>
      cases List.mem_singleton.mp h
      exact Or.inr ⟨failure, rfl, rfl, rfl⟩
    | tornDown request' =>
      rcases List.mem_cons.mp h with h | hnotice
      · cases h
      · obtain ⟨notice, hevent⟩ := notice_of_mem_lossNotices hnotice
        cases hevent
  | up =>
    cases arrival with
    | quiet => cases h
    | succeeded request' =>
      cases List.mem_singleton.mp h
      exact Or.inl ⟨rfl, fun _ => rfl⟩
    | failed request' failure => cases List.mem_singleton.mp h
    | tornDown request' => cases List.mem_singleton.mp h
  | settingUp | releasing | cleaningUp =>
    cases arrival with
    | quiet => cases h
    | succeeded request' | failed request' failure | tornDown request' =>
      cases List.mem_singleton.mp h

section

variable [Interceptor ι] {s : Setting}

theorem Rule.joins_of_mem {c : Connection} {i : ι} {p : Phase} {mail : Mail} {r : Reaction ι}
    {request : BringUp} {outcome : BringUpOutcome} (h : Rule s c i p mail r)
    (mem : Event.broughtUp request outcome ∈ r.events) :
    p = .up ∧ mail = .bringUp request ∧ r = join c i request ∧ outcome = .ok c.bearerId := by
  cases h with
  | joins request' =>
    rcases List.mem_cons.mp mem with h | hjoined
    · cases h
    · cases List.mem_singleton.mp hjoined
      exact ⟨rfl, rfl, rfl, rfl⟩
  | ignores =>
    rcases List.mem_cons.mp mem with h | hdropped
    · cases h
    · obtain ⟨request', -, hrequest⟩ := Option.map_eq_some_iff.mp (Option.mem_toList.mp hdropped)
      cases hrequest
  | vacuous | strange | leaves =>
    rcases List.mem_cons.mp mem with h | h
    · cases h
    · cases List.mem_singleton.mp h
  | waits | impossible | intercepted | ordered | releases | answers | resets =>
    cases List.mem_singleton.mp mem
  | fails | asks | accepts | refuses | released | hears | stops => cases mem

theorem Rule.broughtUp {m : Controller ι} {mail : Mail} {r : Reaction ι}
    {others : Multiset Task} {request : BringUp} {id : Int32}
    (h : Rule s m.connection m.interceptor m.phase mail r)
    (hfits : Fits m.connection m.deferred
      (ofGeneration m.connection.generation (Tally.tasks.ofMail mail + others)) m.phase)
    (success : Event.broughtUp request (.ok id) ∈ (m.after s mail r).2) :
    r.halt = none ∧
      (((m.after s mail r).1.phase = .up ∧
          request.client ∈ (m.after s mail r).1.connection.clients ∧
          (m.after s mail r).1.connection.bearerId = id ∧ ¬ Causeless s mail) ∨
        ((m.after s mail r).1.phase = .idle ∧ Causeless s mail)) := by
  obtain ⟨phase, c, i, mailbox, deferred, outbox, halt⟩ := m
  rcases Controller.mem_after success with hown | ⟨-, request', hdropped⟩ | ⟨hhalt, target, arrival,
    hnext, hmoved | hentered⟩
  · obtain ⟨rfl, rfl, rfl, hid⟩ := h.joins_of_mem hown
    cases hid
    refine ⟨rfl, Or.inl ⟨rfl, ?_, rfl, fun h => by cases h⟩⟩
    exact Roster.mem_attach.mpr (Or.inr rfl)
  · cases hdropped
  · cases hmoved
  · rcases broughtUp_of_mem_enter hentered with ⟨rfl, hid⟩ | ⟨failure, rfl, rfl, hid⟩
    · cases h with
      | @accepts request' reply link status agreed current =>
        cases hnext
        cases hid rfl
        -- the client of an attempt is attached while it lasts
        have hclients := ((hfits.of_current rfl current).attempt (Or.inl rfl)).2.1
        refine ⟨rfl, Or.inl ⟨rfl, ?_, rfl, fun h => by cases h⟩⟩
        show request.client ∈ c.clients.names
        rw [hclients]
        exact List.mem_singleton_self _
      | @released _ purpose awaited current => cases purpose <;> cases hnext
      | _ => cases hnext
    · cases h with
      | @fails _ request' failure' setback current =>
        cases hnext
        refine ⟨rfl, Or.inr ⟨rfl, setback.cause_eq_noCause_iff.mp ?_⟩⟩
        by_contra hcause
        rw [Connection.outcome, if_neg hcause] at hid
        cases hid
      | @released _ purpose awaited current =>
        cases purpose with
        | tearDown request' => cases hnext
        | cleanUp request' =>
          cases hnext
          cases hid
      | _ => cases hnext

theorem Setback.task {mail : Mail} {request : BringUp} {failure : SetupFailure}
    (h : Setback s mail request failure) :
    ∃ task, mail.task? = some task ∧ (task = .setUp request ∨ task = .lastCause request) := by
  cases h with
  | unavailable | rejected | reported => exact ⟨_, rfl, Or.inl rfl⟩
  | named | unnamed => exact ⟨_, rfl, Or.inr rfl⟩

/-- An attempt that takes the bearer back to idle completes its request, and nothing else. -/
theorem Rule.failed {m : Controller ι} {mail : Mail} {r : Reaction ι} {others : Multiset Task}
    (h : Rule s m.connection m.interceptor m.phase mail r)
    (hfits : Fits m.connection m.deferred
      (ofGeneration m.connection.generation (Tally.tasks.ofMail mail + others)) m.phase)
    (hattempt : m.phase = .settingUp ∨ m.phase = .cleaningUp)
    (hreset : ∀ number, mail ≠ .inquiry number .reset)
    (hidle : (m.after s mail r).1.phase = .idle) :
    ∃ request outcome,
      (∃ task ∈ ofGeneration m.connection.generation (Tally.tasks.ofMail mail + others),
        task.request = .bringUp request) ∧
      (m.after s mail r).2 = [.moved m.phase .idle, .broughtUp request outcome] ∧
      (Causeless s mail → outcome = .ok (-1)) ∧
      (¬ Causeless s mail → ∃ failure, outcome = .error failure ∧ failure.cause ≠ .noCause) := by
  obtain ⟨phase, c, i, mailbox, deferred, outbox, halt⟩ := m
  have mem_current : ∀ {task : Task}, mail.task? = some task → task.generation = c.generation →
      task ∈ ofGeneration c.generation (Tally.tasks.ofMail mail + others) := by
    intro task htask hgeneration
    rw [ofGeneration_add, Tally.tasks_ofMail_some htask, ofGeneration_singleton hgeneration]
    exact Multiset.mem_add.mpr (Or.inl (Multiset.mem_singleton_self task))
  have busy : phase ≠ .idle := by
    rintro rfl
    rcases hattempt with h | h <;> cases h
  cases h with
  | @fails _ request failure setback hcurrent =>
    obtain ⟨task, htask, hof⟩ := setback.task
    have hgeneration : task.generation = c.generation ∧ task.request = .bringUp request := by
      rcases hof with rfl | rfl
      · exact ⟨hcurrent, rfl⟩
      · exact ⟨hcurrent, rfl⟩
    obtain ⟨-, -, -, hid⟩ := (hfits.of_current htask hgeneration.1).attempt hof
    refine ⟨request, c.outcome failure, ⟨task, mem_current htask hgeneration.1, hgeneration.2⟩,
      rfl, ?_, ?_⟩
    · intro hcauseless
      rw [Connection.outcome, if_pos (setback.cause_eq_noCause_iff.mpr hcauseless), hid]
    · intro hcause
      rw [← setback.cause_eq_noCause_iff] at hcause
      exact ⟨failure, if_neg hcause, hcause⟩
  | @released _ purpose awaited hcurrent =>
    rcases hattempt with rfl | rfl
    · cases awaited
    · -- what is released here is what a refused attempt has left
      obtain ⟨request, honly, -⟩ := hfits.of_current rfl hcurrent
      have hpurpose : purpose = .cleanUp request := by
        have hmem : Task.release purpose ∈ ({.release (.cleanUp request)} : Multiset Task) := by
          rw [← honly]
          exact Multiset.mem_add.mpr (Or.inl (Multiset.mem_singleton_self _))
        simpa using hmem
      subst hpurpose
      refine ⟨request, .error ⟨.unacceptableNetworkParameter, none⟩,
        ⟨_, mem_current rfl hcurrent, rfl⟩, rfl, ?_, ?_⟩
      · intro hcauseless
        cases hcauseless
      · intro _
        exact ⟨_, rfl, by simp⟩
  | resets number away => exact absurd rfl (hreset number)
  | impossible | stops => exact absurd hidle busy
  | _ => first | exact absurd hidle busy | cases hidle

/-! ### The number of a bearer -/

/-- A bearer exists because it has existed before, or because the attempt has just succeeded. -/
theorem Rule.hasBearer_after {m : Controller ι} {mail : Mail} {r : Reaction ι}
    (h : Rule s m.connection m.interceptor m.phase mail r) (hlive : r.halt = none)
    (hbearer : (m.after s mail r).1.phase.hasBearer = true) :
    (m.phase.hasBearer = true ∧
        (m.after s mail r).1.connection.generation = m.connection.generation ∧
        (m.after s mail r).1.connection.bearerId = m.connection.bearerId) ∨
      (m.phase = .settingUp ∧ (m.after s mail r).1.phase = .up ∧
        (m.after s mail r).1.connection.generation = m.connection.generation ∧
        ∃ request reply, mail = .setUpDone request (.ok reply) ∧ reply.status = 0 ∧
          (m.after s mail r).1.connection.bearerId = reply.bearerId) := by
  obtain ⟨phase, c, i, mailbox, deferred, outbox, halt⟩ := m
  cases h with
  | @accepts request reply link status agreed current =>
    exact Or.inr ⟨rfl, rfl, rfl, request, reply, rfl, status, rfl⟩
  | @answers _ number inquiry kept =>
    obtain ⟨link, intent, hanswer⟩ := c.answer_eq s phase inquiry
    refine Or.inl ⟨hbearer, ?_⟩
    show (c.answer s phase inquiry).2.generation = c.generation ∧
      (c.answer s phase inquiry).2.bearerId = c.bearerId
    rw [hanswer]
    exact ⟨rfl, rfl⟩
  | releases => exact Or.inl ⟨rfl, rfl, rfl⟩
  | impossible | stops => cases hlive
  | _ => first | exact Or.inl ⟨hbearer, rfl, rfl⟩ | cases hbearer

/-- A bearer keeps its number until it becomes idle. -/
theorem Rule.hasBearer_kept {m : Controller ι} {mail : Mail} {r : Reaction ι}
    (h : Rule s m.connection m.interceptor m.phase mail r) (hlive : r.halt = none)
    (hbearer : m.phase.hasBearer = true)
    (hstays : (m.after s mail r).2.countP Event.isReturn = 0) :
    (m.after s mail r).1.phase.hasBearer = true ∧
      (m.after s mail r).1.connection.bearerId = m.connection.bearerId := by
  have stays : ∀ arrival, r.next ≠ some (.idle, arrival) := by
    intro arrival hidle
    have hreturn := Controller.isReturn_mem_after s m mail hlive hidle
    omega
  obtain ⟨phase, c, i, mailbox, deferred, outbox, halt⟩ := m
  cases h with
  | @answers _ number inquiry kept =>
    obtain ⟨link, intent, hanswer⟩ := c.answer_eq s phase inquiry
    refine ⟨hbearer, ?_⟩
    show (c.answer s phase inquiry).2.bearerId = c.bearerId
    rw [hanswer]
  | released | resets => exact absurd rfl (stays _)
  | releases => exact ⟨rfl, rfl⟩
  | impossible | stops => cases hlive
  | _ => first | exact ⟨hbearer, rfl⟩ | cases hbearer

end

namespace Scene

variable [Interceptor ι] {w w' : Scene ι} {act : Act ι} {acts : List (Act ι)} {events : List Event}

theorem Change.hasBearer_kept (h : Change w act w' events) (live : w'.bearer.isHalted = false)
    (hbearer : w.controller.phase.hasBearer = true) (hstays : events.countP Event.isReturn = 0) :
    w'.controller.phase.hasBearer = true ∧
      w'.controller.connection.bearerId = w.controller.connection.bearerId := by
  rcases h.turned_or_quiet with ⟨mail, rest, r, -, -, hrule, rfl, rfl⟩ | hquiet
  · exact hrule.hasBearer_kept (m := w.controller.withMailbox rest)
      (Controller.live_after_iff.mp live).1 hbearer hstays
  · rw [hquiet.phase, hquiet.connection]
    exact ⟨hbearer, rfl⟩

theorem hasBearer_run (live : (w.run acts).1.bearer.isHalted = false)
    (hbearer : w.controller.phase.hasBearer = true)
    (hstays : (w.run acts).2.countP Event.isReturn = 0) :
    (w.run acts).1.controller.phase.hasBearer = true ∧
      (w.run acts).1.controller.connection.bearerId = w.controller.connection.bearerId := by
  induction acts generalizing w with
  | nil => exact ⟨hbearer, rfl⟩
  | cons act acts ih =>
    rw [run_cons, List.countP_append] at hstays
    obtain ⟨hnow, hlater⟩ := Nat.add_eq_zero_iff.mp hstays
    obtain ⟨hfirst, hid⟩ := (w.change_step act).hasBearer_kept (live_run live) hbearer hnow
    obtain ⟨hlast, hsame⟩ := ih live hfirst hlater
    exact ⟨hlast, hsame.trans hid⟩

/-- What the attempt leaves that succeeds. -/
theorem Accepts.step {reply : SetupReply} (h : w.Accepts act reply) :
    (w.step act).1.controller.phase.hasBearer = true ∧
      (w.step act).1.controller.connection.generation = w.controller.connection.generation ∧
      (w.step act).1.controller.connection.bearerId = reply.bearerId := by
  obtain ⟨⟨request, rfl, rest, first⟩, -, hsetting, hup⟩ := h
  obtain ⟨r, -, hrule, hstep⟩ := step_turn first
  rw [hstep] at hup ⊢
  have hlive : r.halt = none := by
    cases hhalt : r.halt with
    | none => rfl
    | some halt =>
      -- a bearer that halts stays in the phase in which it was
      have hphase : ((w.controller.withMailbox rest).after w.setting
          (.setUpDone request (.ok reply)) r).1.phase = .up := hup
      rw [Controller.after, hhalt] at hphase
      exact absurd (hsetting.symm.trans hphase) (by simp)
  have hbearer : ((w.controller.withMailbox rest).after w.setting
      (.setUpDone request (.ok reply)) r).1.phase.hasBearer = true :=
    (congrArg Phase.hasBearer hup).trans rfl
  rcases hrule.hasBearer_after (m := w.controller.withMailbox rest) hlive hbearer with
    ⟨hbefore, -⟩ | ⟨-, -, hgeneration, request', reply', hmail, -, hid⟩
  · rw [show (w.controller.withMailbox rest).phase = .settingUp from hsetting] at hbefore
    cases hbefore
  · cases hmail
    exact ⟨hbearer, hgeneration, hid⟩

theorem Accepted.concat {reply : SetupReply} (h : w.Accepted acts reply) (act : Act ι)
    (same : (w.run (acts ++ [act])).1.controller.connection.generation =
      (w.run acts).1.controller.connection.generation) : w.Accepted (acts ++ [act]) reply := by
  obtain ⟨earlier, past, later, hacts, haccepts, hgeneration⟩ := h
  refine ⟨earlier, past, later ++ [act], ?_, haccepts, hgeneration.trans same.symm⟩
  rw [hacts, List.append_assoc, List.cons_append]

/-- A bearer exists only after an attempt of its generation has succeeded. -/
theorem accepted_of_hasBearer {s : Setting} {i : ι} {acts : List (Act ι)}
    (live : ((start s i).run acts).1.bearer.isHalted = false)
    (hbearer : ((start s i).run acts).1.controller.phase.hasBearer = true) :
    ∃ reply, (start s i).Accepted acts reply := by
  induction acts using List.reverseRecOn with
  | nil => cases hbearer
  | append_singleton acts act ih =>
    have hrun := (start s i).run_concat acts act
    have hchange := ((start s i).run acts).1.change_step act
    rw [hrun] at live hbearer
    rcases hchange.turned_or_quiet with ⟨mail, rest, r, hact, first, hrule, hafter, -⟩ | hquiet
    · rw [hafter] at live hbearer
      rcases hrule.hasBearer_after (m := Controller.withMailbox _ rest)
        (Controller.live_after_iff.mp live).1 hbearer with
        ⟨hbefore, hgeneration, -⟩ | ⟨hsetting, hup, hgeneration, request, reply, rfl, status, -⟩
      · obtain ⟨reply, haccepted⟩ := ih (Controller.live_after_iff.mp live).2 hbefore
        refine ⟨reply, haccepted.concat act ?_⟩
        rw [hrun, hafter]
        exact hgeneration
      · refine ⟨reply, acts, act, [], rfl, ⟨⟨request, hact, rest, first⟩, status, hsetting, ?_⟩, ?_⟩
        · rw [hafter]
          exact hup
        · rw [hrun, hafter]
          exact hgeneration.symm
    · rw [hquiet.phase] at hbearer
      obtain ⟨reply, haccepted⟩ := ih (hchange.live live) hbearer
      refine ⟨reply, haccepted.concat act ?_⟩
      rw [hrun, hquiet.connection]

/-- A bearer exists for as long as the generation lasts whose attempt has succeeded. -/
theorem hasBearer_of_accepted {s : Setting} {i : ι} {acts : List (Act ι)} {reply : SetupReply}
    (entries : idleEntries ((start s i).run acts).2 < 2 ^ 64)
    (live : ((start s i).run acts).1.bearer.isHalted = false)
    (accepted : (start s i).Accepted acts reply) :
    ((start s i).run acts).1.controller.phase.hasBearer = true ∧
      ((start s i).run acts).1.controller.connection.bearerId = reply.bearerId := by
  obtain ⟨earlier, act, later, rfl, haccepts, hsame⟩ := accepted
  obtain ⟨hbearer, hgeneration, hid⟩ := haccepts.step
  simp only [run_append, run_cons] at entries live hsame ⊢
  -- the generation is the same at the end, and has not come round in between
  have hstays : (((((start s i).run earlier).1.step act).1.run later).2).countP
      Event.isReturn = 0 := by
    rw [generation_run _ later, hgeneration] at hsame
    rw [idleEntries, List.countP_append, List.countP_append] at entries
    have hnat := congrArg UInt64.toNat hsame
    rw [UInt64.toNat_add, UInt64.toNat_ofNat'] at hnat
    have hbound := UInt64.toNat_lt ((start s i).run earlier).1.controller.connection.generation
    omega
  obtain ⟨hlast, hkept⟩ := hasBearer_run live hbearer hstays
  exact ⟨hlast, hkept.trans hid⟩

end Scene

section

variable [Interceptor ι]

/-- What the phase demands, with the first piece of mail told from all else. -/
theorem fits_first (s : Setting) (i : ι) {acts : List (Act ι)} {mail : Mail} {rest : List Mail}
    (entries : idleEntries ((Scene.start s i).run acts).2 < 2 ^ 64)
    (first : ((Scene.start s i).run acts).1.controller.mailbox = mail :: rest) :
    ∃ others, ((Scene.start s i).run acts).1.bearer.tasks = Tally.tasks.ofMail mail + others ∧
      Fits ((Scene.start s i).run acts).1.controller.connection
        ((Scene.start s i).run acts).1.controller.deferred
        (ofGeneration ((Scene.start s i).run acts).1.controller.connection.generation
          (Tally.tasks.ofMail mail + others))
        ((Scene.start s i).run acts).1.controller.phase := by
  have hfits := (Scene.inOrder_of_start entries (Scene.live_of_mailbox first)).fits
  have htasks := Bearer.tasks_first first
  rw [Bearer.current, htasks] at hfits
  exact ⟨_, htasks, hfits⟩

omit [Interceptor ι] in
theorem misled_iff {w : Scene ι} {mail : Mail} {rest : List Mail}
    (first : w.controller.mailbox = mail :: rest) :
    w.Misled .turn ↔ Causeless w.setting mail := by
  refine ⟨?_, fun h => ⟨mail, ⟨rfl, rest, first⟩, h⟩⟩
  rintro ⟨mail', ⟨-, rest', first'⟩, h⟩
  rw [first] at first'
  cases first'
  exact h

theorem genuine_iff {s : Setting} {i : ι} {acts : List (Act ι)} {act : Act ι}
    {request : BringUp} {id : Int32}
    (entries : idleEntries ((Scene.start s i).run (acts ++ [act])).2 < 2 ^ 64)
    (success : Event.broughtUp request (.ok id) ∈
      (((Scene.start s i).run acts).1.step act).2) :
    (Scene.start s i).Genuine (acts ++ [act]) request id ↔
      ¬ ((Scene.start s i).run acts).1.Misled act := by
  have hrun := (Scene.start s i).run_concat acts act
  have hbefore := (Scene.idleEntries_run_le (Scene.start s i) acts [act]).trans_lt entries
  rcases (((Scene.start s i).run acts).1.change_step act).turned_or_quiet with
    ⟨mail, rest, r, rfl, first, hrule, hafter, hevents⟩ | hquiet
  · obtain ⟨others, -, hfits⟩ := fits_first s i hbefore first
    rw [hevents] at success
    rw [misled_iff first]
    obtain ⟨hhalt, ⟨hup, hattached, hid, hcause⟩ | ⟨hidle, hcauseless⟩⟩ :=
      hrule.broughtUp (m := Controller.withMailbox _ rest) hfits success
    · have hlive : ((Scene.start s i).run (acts ++ [.turn])).1.bearer.isHalted = false := by
        rw [hrun, hafter]
        exact Controller.live_after_iff.mpr ⟨hhalt, Scene.live_of_mailbox first⟩
      have hscene : ((Scene.start s i).run (acts ++ [.turn])).1.controller =
          ((((Scene.start s i).run acts).1.controller.withMailbox rest).after
            ((Scene.start s i).run acts).1.setting mail r).1 := by
        rw [hrun, hafter]
        rfl
      rw [← hscene] at hup hattached hid
      have hbearer := congrArg Phase.hasBearer hup
      -- who succeeded in this generation did so with the number that is recorded now
      refine iff_of_true ⟨hup, hattached, hid, ?_, fun reply haccepted => ?_⟩ hcause
      · exact Scene.accepted_of_hasBearer hlive hbearer
      · rw [← hid]
        exact (Scene.hasBearer_of_accepted entries hlive haccepted).2.symm
    · -- a success without a cause finds the bearer idle
      refine iff_of_false (fun hgenuine => ?_) (fun hcause => hcause hcauseless)
      have hup := hgenuine.up
      rw [hrun, hafter] at hup
      exact absurd (hidle.symm.trans hup) (by simp)
  · -- only what is handled completes a bring-up
    rcases hquiet.events _ success with ⟨call, command, h⟩ | ⟨-, dropped, h⟩
    · cases h
    · cases h

theorem caused_iff {s : Setting} {i : ι} {acts : List (Act ι)} {act : Act ι}
    (entries : idleEntries ((Scene.start s i).run acts).2 < 2 ^ 64)
    (fails : ((Scene.start s i).run acts).1.Fails act) :
    ∃ request outcome,
      (∃ task ∈ ((Scene.start s i).run acts).1.bearer.current, task.request = .bringUp request) ∧
      (((Scene.start s i).run acts).1.step act).2 =
        [.moved ((Scene.start s i).run acts).1.controller.phase .idle,
          .broughtUp request outcome] ∧
      ((∃ failure, outcome = .error failure ∧ failure.cause ≠ .noCause) ↔
        ¬ ((Scene.start s i).run acts).1.Misled act) := by
  obtain ⟨hattempt, hidle, hunasked⟩ := fails
  rcases (((Scene.start s i).run acts).1.change_step act).turned_or_quiet with
    ⟨mail, rest, r, rfl, first, hrule, hafter, hevents⟩ | hquiet
  · obtain ⟨others, htasks, hfits⟩ := fits_first s i entries first
    rw [hafter] at hidle
    have hreset : ∀ number, mail ≠ .inquiry number .reset := by
      rintro number rfl
      exact hunasked number ⟨rfl, rest, first⟩
    obtain ⟨request, outcome, htask, hcompleted, hcauseless, hcaused⟩ :=
      hrule.failed (m := Controller.withMailbox _ rest) hfits hattempt hreset hidle
    rw [misled_iff first]
    refine ⟨request, outcome, ?_, hevents.trans hcompleted, ?_, hcaused⟩
    · rw [Bearer.current, htasks]
      exact htask
    · rintro ⟨failure, rfl, -⟩ hmisled
      cases hcauseless hmisled
  · rw [hquiet.phase] at hidle
    rcases hattempt with h | h
    · exact absurd (h.symm.trans hidle) (by simp)
    · exact absurd (h.symm.trans hidle) (by simp)

/-- Whenever a bring-up is completed with success, the bearer is up, the client is attached, and
the number is the one that the radio has given in this generation; and whenever an attempt fails,
its bring-up is completed with a cause: at every act but those that handle an answer without a
cause, and at none of those. -/
theorem broughtUp_genuine (s : Setting) (i : ι) (acts : List (Act ι)) (act : Act ι)
    (entries : idleEntries ((Scene.start s i).run (acts ++ [act])).2 < 2 ^ 64) :
    (∀ request id,
      Event.broughtUp request (.ok id) ∈ (((Scene.start s i).run acts).1.step act).2 →
        ((Scene.start s i).Genuine (acts ++ [act]) request id ↔
          ¬ ((Scene.start s i).run acts).1.Misled act)) ∧
    (((Scene.start s i).run acts).1.Fails act → ∃ request outcome,
      (∃ task ∈ ((Scene.start s i).run acts).1.bearer.current, task.request = .bringUp request) ∧
      (((Scene.start s i).run acts).1.step act).2 =
        [.moved ((Scene.start s i).run acts).1.controller.phase .idle,
          .broughtUp request outcome] ∧
      ((∃ failure, outcome = .error failure ∧ failure.cause ≠ .noCause) ↔
        ¬ ((Scene.start s i).run acts).1.Misled act)) := by
  have hbefore := (Scene.idleEntries_run_le (Scene.start s i) acts [act]).trans_lt entries
  exact ⟨fun request id success => genuine_iff entries success, caused_iff hbefore⟩

end

/-! ### Two runs -/

/-- An attempt that is about to succeed. -/
def goodAnswer : List (Act Unit) :=
  [.ask (.bringUp "a" {}), .take, .turn, .turn, .answer 0 { setUp := some (.ok plainReply) }, .take]

theorem broughtUp_goodAnswer :
    idleEntries ((Scene.start .cellular ()).run (goodAnswer ++ [.turn])).2 < 2 ^ 64 ∧
      (Scene.start .cellular ()).Genuine (goodAnswer ++ [.turn]) firstRequest 7 := by
  refine ⟨by decide, ?_⟩
  have hall := broughtUp_genuine .cellular () goodAnswer .turn (by decide)
  refine (hall.1 firstRequest 7 (List.mem_cons_of_mem _ List.mem_cons_self)).mpr ?_
  rw [misled_iff (show _ = .setUpDone firstRequest (.ok plainReply) :: [] from rfl)]
  intro h
  cases h

/-- An attempt that has failed, and the radio names no cause. -/
def noAnswer : List (Act Unit) :=
  [.ask (.bringUp "a" {}), .take, .turn, .turn,
    .answer 0 { setUp := some (.error .genericFailure) }, .take, .turn, .turn,
    .answer 1 { lastCause := some (.ok 0) }, .take]

/-- The bring-up is told of a success then, and no bearer is up. -/
theorem not_genuine_noAnswer :
    ¬ ∀ request id,
      Event.broughtUp request (.ok id) ∈
          (((Scene.start .cellular ()).run noAnswer).1.step .turn).2 →
        (Scene.start .cellular ()).Genuine (noAnswer ++ [.turn]) request id := by
  intro h
  have hup := (h firstRequest (-1) (List.mem_cons_of_mem _ List.mem_cons_self)).up
  exact absurd hup (by decide)

end PacketBearer
