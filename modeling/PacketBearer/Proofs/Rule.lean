/-
The rule book, read backwards.

`react` says what a piece of mail brings about.  `Rule` lists what it can bring about, one
constructor for each thing that can happen and with all that must have held for it:

* `rule_react` — every reaction follows one of the rules.

What the radio is asked to do, and what it has done, is a `Task` with the request that it is done
for.  A task is awaited in one kind of phase only (`Phase.awaits`), and an answer takes effect
exactly if it is awaited and carries the current generation.  `Setback` lists the answers that
end an attempt, and with which failure:

* `Setback.cause_eq_noCause_iff` — two of them end it without a cause.
-/
import Mathlib.Tactic.ByContra
import PacketBearer.Bearer

namespace PacketBearer

/-! ### Tasks -/

/-- What the radio does for a request. -/
inductive Task where
  | setUp (request : BringUp)
  | lastCause (request : BringUp)
  | release (purpose : ReleasePurpose)
  deriving DecidableEq, Repr

/-- The generation in which a task was ordered. -/
def Task.generation : Task → UInt64
  | setUp request | lastCause request => request.generation
  | release purpose => purpose.generation

/-- The request that a task is done for. -/
def Task.request : Task → ClientRequest
  | setUp request | lastCause request => .bringUp request
  | release purpose => purpose.request

/-- The task that a command orders. -/
def Command.task : Command → Task
  | setUp _ request => .setUp request
  | lastCause request => .lastCause request
  | release _ _ purpose => .release purpose

/-- The task that a piece of mail reports on. -/
def Mail.task? : Mail → Option Task
  | setUpDone request _ => some (.setUp request)
  | lastCauseDone request _ => some (.lastCause request)
  | releaseDone purpose => some (.release purpose)
  | bringUp _ | tearDown _ | radioConnected _ | inquiry _ _ | stop => none

/-- The mail is a client's request. -/
def Mail.isRequest : Mail → Bool
  | bringUp _ | tearDown _ => true
  | _ => false

/-- Requests have to wait in this phase. -/
def Phase.isBusy : Phase → Bool
  | idle | up => false
  | settingUp | releasing | cleaningUp => true

/-- This phase waits for tasks of this kind. -/
def Phase.awaits : Phase → Task → Bool
  | settingUp, .setUp _ | settingUp, .lastCause _ => true
  | releasing, .release _ | cleaningUp, .release _ => true
  | _, _ => false

theorem Mail.task?_of_isRequest {mail : Mail} (h : mail.isRequest = true) : mail.task? = none := by
  cases mail <;> first | rfl | cases h

/-- An answer reports on the task that the command has ordered. -/
theorem Mail.request?_of_task? {mail : Mail} {task : Task} (h : mail.task? = some task) :
    mail.request? = some task.request := by
  cases mail <;> cases h <;> rfl

theorem Command.task?_completion {answers : RadioAnswers} {command : Command} {mail : Mail}
    (h : command.completion? answers = some mail) : mail.task? = some command.task := by
  cases command <;>
  · simp only [completion?, Option.map_eq_some_iff] at h
    obtain ⟨answer, -, rfl⟩ := h
    rfl

/-! ### Setbacks -/

/-- The answers that end an attempt, and the failure that they end it with. -/
inductive Setback (s : Setting) : Mail → BringUp → SetupFailure → Prop
  | unavailable (request : BringUp) :
    Setback s (.setUpDone request (.error .radioNotAvailable)) request ⟨.radioNotAvailable, none⟩
  | rejected (request : BringUp) {reply : SetupReply} (since : s.structuredSince ≤ reply.version) :
    Setback s (.setUpDone request (.error (.rejected reply))) request
      ⟨Cause.ofCode reply.status, none⟩
  | reported (request : BringUp) {reply : SetupReply} (status : reply.status ≠ 0) :
    Setback s (.setUpDone request (.ok reply)) request
      ⟨Cause.ofCode reply.status, reply.retryDelay?⟩
  | named (request : BringUp) (code : Int32) :
    Setback s (.lastCauseDone request (.ok code)) request ⟨Cause.ofCode code, none⟩
  | unnamed (request : BringUp) (error : RadioError) :
    Setback s (.lastCauseDone request (.error error)) request ⟨.unknown, none⟩

/-- An answer that ends an attempt and gives no cause for it: a rejection with status zero that
can be relied on, or the code zero for the last failure. -/
inductive Causeless (s : Setting) : Mail → Prop
  | rejected (request : BringUp) {reply : SetupReply} (since : s.structuredSince ≤ reply.version)
    (status : reply.status = 0) : Causeless s (.setUpDone request (.error (.rejected reply)))
  | named (request : BringUp) : Causeless s (.lastCauseDone request (.ok 0))

/-- An attempt ends without a cause exactly by an answer that gives none. -/
theorem Setback.cause_eq_noCause_iff {s : Setting} {mail : Mail} {request : BringUp}
    {failure : SetupFailure} (h : Setback s mail request failure) :
    failure.cause = .noCause ↔ Causeless s mail := by
  cases h with
  | unavailable =>
    refine ⟨fun h => ?_, fun h => ?_⟩
    · cases h
    · cases h
  | rejected _ since =>
    rw [Cause.ofCode_eq_noCause_iff]
    refine ⟨fun h => .rejected request since h, fun h => ?_⟩
    cases h with
    | rejected _ _ status => exact status
  | reported _ status =>
    -- an answer of the radio itself is looked at for its status before it ends an attempt
    rw [Cause.ofCode_eq_noCause_iff]
    refine ⟨fun h => absurd h status, fun h => ?_⟩
    cases h
  | named _ code =>
    rw [Cause.ofCode_eq_noCause_iff]
    refine ⟨?_, fun h => ?_⟩
    · rintro rfl
      exact .named request
    · cases h with
      | named => rfl
  | unnamed =>
    refine ⟨fun h => ?_, fun h => ?_⟩
    · cases h
    · cases h

/-! ### Rules -/

/-- The request as it is admitted. -/
def BringUp.stamped (request : BringUp) (c : Connection) : BringUp :=
  { request with generation := c.generation }

/-- The request as it takes the last clients with it. -/
def TearDown.stamped (request : TearDown) (c : Connection) : TearDown :=
  { request with generation := c.generation, detached := c.clients.names }

/-- The record with a bring-up admitted. -/
def Connection.begun (c : Connection) (request : BringUp) : Connection :=
  { c with
    clients := (c.clients.attach request.client).2
    accessPoint := some request.accessPoint }

/-- What a piece of mail can bring about. -/
inductive Rule {ι : Type} [Interceptor ι] (s : Setting) (c : Connection) (i : ι) :
    Phase → Mail → Reaction ι → Prop
  | waits {p : Phase} {mail : Mail} (busy : p.isBusy = true) (request : mail.isRequest = true) :
    Rule s c i p mail (wait c i mail)
  | impossible {request : BringUp} (order : s.technology.orderFor? request.accessPoint = none) :
    Rule s c i .idle (.bringUp request)
      { connection := c.begun request, interceptor := i
        events := [.dropped (.bringUp (request.stamped c))], halt := some .impossibleOrder }
  | intercepted {request : BringUp} {order : SetupOrder} {reply : SetupReply} {i' : ι}
    (ordered : s.technology.orderFor? request.accessPoint = some order)
    (caught : Interceptor.intercept order c.radioVersion i = (some reply, i')) :
    Rule s c i .idle (.bringUp request)
      { connection := c.begun request, interceptor := i'
        posts := [.setUpDone (request.stamped c) (.ok reply)]
        events := [.handled .idle (.bringUp (request.stamped c))]
        next := some (.settingUp, .quiet) }
  | ordered {request : BringUp} {order : SetupOrder} {i' : ι}
    (ordered : s.technology.orderFor? request.accessPoint = some order)
    (passed : Interceptor.intercept order c.radioVersion i = (none, i')) :
    Rule s c i .idle (.bringUp request)
      { connection := c.begun request, interceptor := i'
        commands := [.setUp order (request.stamped c)]
        events := [.handled .idle (.bringUp (request.stamped c))]
        next := some (.settingUp, .quiet) }
  | joins (request : BringUp) : Rule s c i .up (.bringUp request) (join c i request)
  /-- Nothing is up that could be torn down. -/
  | vacuous (request : TearDown) :
    Rule s c i .idle (.tearDown request) (finish .idle c i c.clients request)
  | strange {request : TearDown} {client : String} (own : request.client = some client)
    (stranger : client ∉ c.clients) :
    Rule s c i .up (.tearDown request) (finish .up c i c.clients request)
  | leaves {request : TearDown} {client : String} (own : request.client = some client)
    (member : client ∈ c.clients) (others : c.clients.size ≠ 1) :
    Rule s c i .up (.tearDown request) (finish .up c i (c.clients.detach client).2 request)
  | releases {request : TearDown}
    (last : ∀ client, request.client = some client → client ∈ c.clients ∧ c.clients.size = 1) :
    Rule s c i .up (.tearDown request)
      { connection := { c with clients := ∅ }, interceptor := i
        commands := [.release c.bearerId (ReleaseReason.ofText request.reason)
          (.tearDown (request.stamped c))]
        events := [.handled .up (.tearDown (request.stamped c))]
        next := some (.releasing, .quiet) }
  | fails {mail : Mail} {request : BringUp} {failure : SetupFailure}
    (setback : Setback s mail request failure) (current : request.generation = c.generation) :
    Rule s c i .settingUp mail (fail c i request failure)
  /-- The answer says nothing of the cause, so that the radio is asked for it. -/
  | asks {request : BringUp} {error : RadioError} (available : error ≠ .radioNotAvailable)
    (vague : ∀ reply, error = .rejected reply → ¬ s.structuredSince ≤ reply.version)
    (current : request.generation = c.generation) :
    Rule s c i .settingUp (.setUpDone request (.error error))
      { connection := c, interceptor := i, commands := [.lastCause request] }
  | accepts {request : BringUp} {reply : SetupReply} {link : Link} (status : reply.status = 0)
    (agreed : negotiate reply (s.fallback c reply.interface) = .ok link)
    (current : request.generation = c.generation) :
    Rule s c i .settingUp (.setUpDone request (.ok reply))
      { connection := { c with link := link.withProxy c.link.proxy, bearerId := reply.bearerId }
        interceptor := i, next := some (.up, .succeeded request) }
  | refuses {request : BringUp} {reply : SetupReply} {rejection : Rejection}
    (status : reply.status = 0)
    (refused : negotiate reply (s.fallback c reply.interface) = .error rejection)
    (current : request.generation = c.generation) :
    Rule s c i .settingUp (.setUpDone request (.ok reply))
      { connection := c, interceptor := i
        commands := [.release reply.bearerId .unspecified (.cleanUp request)]
        next := some (.cleaningUp, .quiet) }
  | released {p : Phase} {purpose : ReleasePurpose} (awaited : p.awaits (.release purpose) = true)
    (current : purpose.generation = c.generation) :
    Rule s c i p (.releaseDone purpose) (onReleaseDone c i purpose)
  | ignores {p : Phase} {mail : Mail} {task : Task} (reports : mail.task? = some task)
    (stale : ¬ (p.awaits task = true ∧ task.generation = c.generation)) :
    Rule s c i p mail (ignore c i mail)
  | hears {p : Phase} (result : Except RadioError Int32) :
    Rule s c i p (.radioConnected result)
      (noted { c with radioVersion := result.toOption.getD (-1) } i)
  | answers {p : Phase} {number : Nat} {inquiry : Inquiry} (kept : inquiry = .reset → p = .idle) :
    Rule s c i p (.inquiry number inquiry)
      { connection := (c.answer s p inquiry).2, interceptor := i
        events := [.answered number (c.answer s p inquiry).1] }
  | resets {p : Phase} (number : Nat) (away : p ≠ .idle) :
    Rule s c i p (.inquiry number .reset)
      { connection := c, interceptor := i, events := [.answered number .done]
        next := some (.idle, .quiet) }
  | stops {p : Phase} :
    Rule s c i p .stop { connection := c, interceptor := i, halt := some .told }

section

variable {ι : Type} [Interceptor ι] (s : Setting) (c : Connection) (i : ι)

theorem rule_launch (request : BringUp) :
    Rule s c i .idle (.bringUp request) (launch s c i request) := by
  rw [launch]
  dsimp only
  split
  · next horder => exact .impossible horder
  · next order horder =>
    split
    · next reply i' hcaught => exact .intercepted horder hcaught
    · next i' hpassed => exact .ordered horder hpassed

omit [Interceptor ι] in
theorem leave_eq (request : TearDown) :
    leave c i request = releaseFor c i request ∧
        (∀ client, request.client = some client → client ∈ c.clients ∧ c.clients.size = 1) ∨
      ∃ client, request.client = some client ∧
        (client ∉ c.clients ∧ leave c i request = finish .up c i c.clients request ∨
          client ∈ c.clients ∧ c.clients.size ≠ 1 ∧
            leave c i request = finish .up c i (c.clients.detach client).2 request) := by
  rw [leave]
  cases hclient : request.client with
  | none => exact Or.inl ⟨rfl, fun client h => by cases h⟩
  | some client =>
    dsimp only
    by_cases hmem : client ∈ c.clients
    · rw [if_neg (fun h => h hmem)]
      by_cases hsize : c.clients.size = 1
      · rw [if_pos hsize]
        refine Or.inl ⟨rfl, fun other h => ?_⟩
        rw [← Option.some.inj h]
        exact ⟨hmem, hsize⟩
      · rw [if_neg hsize]
        exact Or.inr ⟨client, rfl, Or.inr ⟨hmem, hsize, rfl⟩⟩
    · rw [if_pos hmem]
      exact Or.inr ⟨client, rfl, Or.inl ⟨hmem, rfl⟩⟩

theorem rule_leave (request : TearDown) :
    Rule s c i .up (.tearDown request) (leave c i request) := by
  rcases leave_eq c i request with ⟨h, hlast⟩ | ⟨client, hown, ⟨hmem, h⟩ | ⟨hmem, hsize, h⟩⟩
  · rw [h]
    exact .releases hlast
  · rw [h]
    exact .strange hown hmem
  · rw [h]
    exact .leaves hown hmem hsize

theorem rule_onSetUpDone {request : BringUp} (h : request.generation = c.generation)
    (result : Except RadioError SetupReply) :
    Rule s c i .settingUp (.setUpDone request result) (onSetUpDone s c i request result) := by
  rw [onSetUpDone.eq_def]
  split
  · exact .fails (.unavailable request) h
  · next reply =>
    by_cases hsince : s.structuredSince ≤ reply.version
    · rw [if_pos hsince]
      exact .fails (.rejected request hsince) h
    · rw [if_neg hsince]
      refine .asks (by simp) (fun other hother => ?_) h
      cases hother
      exact hsince
  · next error havailable hrejected =>
    exact .asks havailable (fun reply hreply => absurd hreply (hrejected reply)) h
  · next reply =>
    rw [Connection.updateLink]
    by_cases hstatus : reply.status = 0
    · rw [if_pos hstatus]
      cases hagreed : negotiate reply (s.fallback c reply.interface) with
      | ok link => exact .accepts hstatus hagreed h
      | error rejection => exact .refuses hstatus hagreed h
    · rw [if_neg hstatus]
      exact .fails (.reported request hstatus) h

theorem rule_onLastCauseDone {request : BringUp} (h : request.generation = c.generation)
    (result : Except RadioError Int32) :
    Rule s c i .settingUp (.lastCauseDone request result)
      (onLastCauseDone c i request result) := by
  cases result with
  | ok code => exact .fails (.named request code) h
  | error e => exact .fails (.unnamed request e) h

/-- Every reaction follows one of the rules. -/
theorem rule_react (p : Phase) (mail : Mail) : Rule s c i p mail (react s p c i mail) := by
  -- an answer is stale in every phase but the one that awaits it, so that the guard is split first
  cases mail with
  | bringUp request =>
    cases p with
    | idle => exact rule_launch s c i request
    | up => exact .joins request
    | settingUp | releasing | cleaningUp => exact .waits rfl rfl
  | tearDown request =>
    cases p with
    | idle => exact .vacuous request
    | up => exact rule_leave s c i request
    | settingUp | releasing | cleaningUp => exact .waits rfl rfl
  | setUpDone request result =>
    rw [react]
    split
    · next h =>
      obtain ⟨rfl, hcurrent⟩ := h
      exact rule_onSetUpDone s c i hcurrent result
    · next h =>
      refine .ignores rfl fun hstale => h ?_
      cases p <;> first | exact ⟨rfl, hstale.2⟩ | cases hstale.1
  | lastCauseDone request result =>
    rw [react]
    split
    · next h =>
      obtain ⟨rfl, hcurrent⟩ := h
      exact rule_onLastCauseDone s c i hcurrent result
    · next h =>
      refine .ignores rfl fun hstale => h ?_
      cases p <;> first | exact ⟨rfl, hstale.2⟩ | cases hstale.1
  | releaseDone purpose =>
    rw [react]
    split
    · next h =>
      refine .released ?_ h.2
      rcases h.1 with rfl | rfl <;> rfl
    · next h =>
      refine .ignores rfl fun hstale => h ⟨?_, hstale.2⟩
      cases p <;> first | exact Or.inl rfl | exact Or.inr rfl | cases hstale.1
  | radioConnected result => exact .hears result
  | inquiry number inquiry =>
    -- a reset of an idle bearer is an inquiry like the others
    rw [react]
    by_cases hreset : inquiry = .reset ∧ p ≠ .idle
    · rw [if_pos hreset]
      obtain ⟨rfl, haway⟩ := hreset
      exact .resets number haway
    · rw [if_neg hreset]
      refine .answers fun h => ?_
      by_contra haway
      exact hreset ⟨h, haway⟩
  | stop => exact .stops

end

/-- An event that a reaction shows by itself.  Changes of phase, calls and notices come of what
follows. -/
def Event.isOwn : Event → Bool
  | moved _ _ | notice _ | called _ _ => false
  | handled _ _ | deferred _ | ignored _ | broughtUp _ _ | tornDown _ | dropped _ | answered _ _ =>
    true

theorem Rule.isOwn {ι : Type} [Interceptor ι] {s : Setting} {c : Connection} {i : ι} {p : Phase}
    {mail : Mail} {r : Reaction ι} {event : Event} (h : Rule s c i p mail r)
    (mem : event ∈ r.events) : event.isOwn = true := by
  cases h with
  | ignores =>
    rcases List.mem_cons.mp mem with rfl | hdropped
    · rfl
    · obtain ⟨request, -, rfl⟩ := Option.map_eq_some_iff.mp (Option.mem_toList.mp hdropped)
      rfl
  | joins | vacuous | strange | leaves =>
    rcases List.mem_cons.mp mem with rfl | hlast
    · rfl
    · rw [List.mem_singleton.mp hlast]
      rfl
  | waits | impossible | intercepted | ordered | releases | answers | resets =>
    rw [List.mem_singleton.mp mem]
    rfl
  | fails | asks | accepts | refuses | released | hears | stops => cases mem

/-! ### The controller after a reaction -/

namespace Controller

variable {ι : Type}

/-- The controller with another mailbox. -/
def withMailbox (m : Controller ι) (mailbox : List Mail) : Controller ι := { m with mailbox }

/-- The controller after a reaction to a piece of mail, and the events. -/
def after (s : Setting) (m : Controller ι) (mail : Mail) (r : Reaction ι) :
    Controller ι × List Event :=
  match r.halt, r.next with
  | some halt, _ => (m.halted halt, r.events ++ m.requests.map Event.dropped)
  | none, none => (m.absorb mail r, r.events)
  | none, some (target, arrival) =>
    (((m.absorb mail r).move s target arrival).1,
      r.events ++ ((m.absorb mail r).move s target arrival).2)

theorem handle_eq_after [Interceptor ι] (s : Setting) (m : Controller ι) (mail : Mail) :
    m.handle s mail = m.after s mail (react s m.phase m.connection m.interceptor mail) := rfl

/-- What can be seen of a reaction: its events, what is dropped, and the change of phase. -/
theorem mem_after {s : Setting} {m : Controller ι} {mail : Mail} {r : Reaction ι} {event : Event}
    (h : event ∈ (m.after s mail r).2) :
    event ∈ r.events ∨ (r.halt ≠ none ∧ ∃ request, event = .dropped request) ∨
      r.halt = none ∧ ∃ target arrival, r.next = some (target, arrival) ∧
        (event = .moved m.phase target ∨ event ∈ (r.connection.enter s target arrival).2) := by
  rw [after] at h
  cases hhalt : r.halt with
  | some halt =>
    rw [hhalt] at h
    rcases List.mem_append.mp h with hown | hdropped
    · exact Or.inl hown
    · obtain ⟨request, -, rfl⟩ := List.mem_map.mp hdropped
      exact Or.inr (Or.inl ⟨by simp, request, rfl⟩)
  | none =>
    cases hnext : r.next with
    | none =>
      rw [hhalt, hnext] at h
      exact Or.inl h
    | some next =>
      rw [hhalt, hnext] at h
      rcases List.mem_append.mp h with hown | hmove
      · exact Or.inl hown
      · exact Or.inr (Or.inr ⟨rfl, next.1, next.2, rfl, List.mem_cons.mp hmove⟩)

/-- All that entering the next phase shows can be seen. -/
theorem mem_after_of_enter {s : Setting} {m : Controller ι} {mail : Mail} {r : Reaction ι}
    {target : Phase} {arrival : Arrival} {event : Event} (hlive : r.halt = none)
    (next : r.next = some (target, arrival))
    (mem : event ∈ (r.connection.enter s target arrival).2) : event ∈ (m.after s mail r).2 := by
  rw [after, hlive, next]
  exact List.mem_append_right _ (List.mem_cons_of_mem _ mem)

end Controller

/-- What can be seen of entering a phase: a request is completed or given up, and clients are told
that they have lost their bearer. -/
theorem Connection.mem_enter {s : Setting} {c : Connection} {target : Phase} {arrival : Arrival}
    {event : Event} (h : event ∈ (c.enter s target arrival).2) :
    (∃ request outcome, event = .broughtUp request outcome) ∨
      (∃ request, event = .tornDown request) ∨ (∃ notice, event = .notice notice) ∨
        ∃ request, event = .dropped request := by
  cases target with
  | idle =>
    cases arrival with
    | quiet => cases h
    | succeeded | failed => exact Or.inl ⟨_, _, List.mem_singleton.mp h⟩
    | tornDown request =>
      rcases List.mem_cons.mp h with h | hnotice
      · exact Or.inr (Or.inl ⟨request, h⟩)
      · exact Or.inr (Or.inr (Or.inl (notice_of_mem_lossNotices hnotice)))
  | up =>
    cases arrival with
    | quiet => cases h
    | succeeded => exact Or.inl ⟨_, _, List.mem_singleton.mp h⟩
    | failed | tornDown => exact Or.inr (Or.inr (Or.inr ⟨_, List.mem_singleton.mp h⟩))
  | settingUp | releasing | cleaningUp =>
    cases arrival with
    | quiet => cases h
    | succeeded | failed | tornDown =>
      exact Or.inr (Or.inr (Or.inr ⟨_, List.mem_singleton.mp h⟩))

end PacketBearer
