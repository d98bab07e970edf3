/-
What an attempt leads to.

An idle bearer admits a bring-up and tells the radio to set up a bearer.  What the radio answers
decides what comes of it.

* `Ends` — the answers to an attempt, the commands that they lead to, and the outcome;
* `Ends.determined` — the outcome is the same wherever the answers are;
* `Underway` — how far an attempt has come, and the one piece of work that is next;
* `Underway.call`, `Underway.answer`, `Underway.react` — what comes after that piece of work.

Design notes: what an attempt leads to is read off the record, where a release that a radio which is
off need not carry out does not appear.
-/
import PacketBearer.Proofs.Delivery
import PacketBearer.Proofs.Record

namespace PacketBearer

/-! ### Outcomes -/

/-- The entry is a command for the bring-up of this number, or an answer to one. -/
def Entry.isFor (number : Nat) : Entry → Bool
  | told command | heard command _ => decide (command.task.request.id = .bringUp number)
  | _ => false

/-- What is on record about the attempt for the bring-up of a number. -/
def attemptOf (number : Nat) (record : List Entry) : List Entry := record.filter (·.isFor number)

/-- What the bring-up of a number is told in the end. -/
def outcomesOf (number : Nat) (events : List Event) : List BringUpOutcome :=
  events.filterMap fun
    | .broughtUp request outcome => if request.number = number then some outcome else none
    | _ => none

/-- The link that a reply offers for an access point. -/
def Setting.linkFor (s : Setting) (accessPoint : AccessPoint) (reply : SetupReply) :
    Except Rejection Link :=
  negotiate reply (s.fallback { accessPoint := some accessPoint } reply.interface)

/-- The error does not say why the set-up has failed. -/
structure RadioError.IsVague (s : Setting) (error : RadioError) : Prop where
  available : error ≠ .radioNotAvailable
  unstructured : ∀ reply, error = .rejected reply → ¬ s.structuredSince ≤ reply.version

section

variable (s : Setting) (request : BringUp) (order : SetupOrder)

/-- The radio is told to set up a bearer, and answers. -/
def setUpEntries (result : Except RadioError SetupReply) : List Entry :=
  [.told (.setUp order request), .heard (.setUp order request) (.setUpDone request result)]

/-- The radio is asked for the cause of a failure, and answers. -/
def lastCauseEntries (result : Except RadioError Int32) : List Entry :=
  [.told (.lastCause request), .heard (.lastCause request) (.lastCauseDone request result)]

/-- The command to release a bearer that is of no use. -/
def cleanUpCommand (reply : SetupReply) : Command :=
  .release reply.bearerId .unspecified (.cleanUp request)

/-- The radio is told to release a bearer that is of no use, and answers. -/
def cleanUpEntries (reply : SetupReply) : List Entry :=
  [.told (cleanUpCommand request reply),
    .heard (cleanUpCommand request reply) (.releaseDone (.cleanUp request))]

/-- The course of an attempt from its first command to its outcome. -/
inductive Ends : List Entry → BringUpOutcome → Prop
  | unavailable :
    Ends (setUpEntries request order (.error .radioNotAvailable))
      (.error ⟨.radioNotAvailable, none⟩)
  | rejected {reply : SetupReply} (since : s.structuredSince ≤ reply.version)
    (status : reply.status ≠ 0) :
    Ends (setUpEntries request order (.error (.rejected reply)))
      (.error ⟨Cause.ofCode reply.status, none⟩)
  | named {error : RadioError} {code : Int32} (vague : error.IsVague s) (cause : code ≠ 0) :
    Ends (setUpEntries request order (.error error) ++ lastCauseEntries request (.ok code))
      (.error ⟨Cause.ofCode code, none⟩)
  | unnamed {error : RadioError} (vague : error.IsVague s) (failure : RadioError) :
    Ends (setUpEntries request order (.error error) ++ lastCauseEntries request (.error failure))
      (.error ⟨.unknown, none⟩)
  | reported {reply : SetupReply} (status : reply.status ≠ 0) :
    Ends (setUpEntries request order (.ok reply))
      (.error ⟨Cause.ofCode reply.status, reply.retryDelay?⟩)
  | accepted {reply : SetupReply} {link : Link} (status : reply.status = 0)
    (agreed : s.linkFor request.accessPoint reply = .ok link) :
    Ends (setUpEntries request order (.ok reply)) (.ok reply.bearerId)
  | refused {reply : SetupReply} {rejection : Rejection} (status : reply.status = 0)
    (refused : s.linkFor request.accessPoint reply = .error rejection) :
    Ends (setUpEntries request order (.ok reply) ++ cleanUpEntries request reply)
      (.error ⟨.unacceptableNetworkParameter, none⟩)
  /-- The radio is off by then, and has nothing to release. -/
  | refusedOff {reply : SetupReply} {rejection : Rejection} (status : reply.status = 0)
    (refused : s.linkFor request.accessPoint reply = .error rejection) :
    Ends (setUpEntries request order (.ok reply)) (.error ⟨.unacceptableNetworkParameter, none⟩)
  /-- A rejection without a cause. -/
  | rejectedCauseless {reply : SetupReply} (since : s.structuredSince ≤ reply.version)
    (status : reply.status = 0) :
    Ends (setUpEntries request order (.error (.rejected reply))) (.ok (-1))
  /-- A failure whose cause is that there is none. -/
  | namedCauseless {error : RadioError} (vague : error.IsVague s) :
    Ends (setUpEntries request order (.error error) ++ lastCauseEntries request (.ok 0)) (.ok (-1))

/-- How far an attempt has come, the phase of the bearer, and what is next. -/
inductive Underway : List Entry → Phase → Work → Prop
  | ordered : Underway [] .settingUp (.order (.setUp order request))
  | told (call : Nat) :
    Underway [.told (.setUp order request)] .settingUp (.call call (.setUp order request))
  | heard (result : Except RadioError SetupReply) :
    Underway (setUpEntries request order result) .settingUp (.mail (.setUpDone request result))
  | asks {error : RadioError} (vague : error.IsVague s) :
    Underway (setUpEntries request order (.error error)) .settingUp (.order (.lastCause request))
  | asked {error : RadioError} (vague : error.IsVague s) (call : Nat) :
    Underway (setUpEntries request order (.error error) ++ [.told (.lastCause request)]) .settingUp
      (.call call (.lastCause request))
  | learned {error : RadioError} (vague : error.IsVague s) (result : Except RadioError Int32) :
    Underway (setUpEntries request order (.error error) ++ lastCauseEntries request result)
      .settingUp (.mail (.lastCauseDone request result))
  | refused {reply : SetupReply} {rejection : Rejection} (status : reply.status = 0)
    (refused : s.linkFor request.accessPoint reply = .error rejection) :
    Underway (setUpEntries request order (.ok reply)) .cleaningUp
      (.order (cleanUpCommand request reply))
  | releases {reply : SetupReply} {rejection : Rejection} (status : reply.status = 0)
    (refused : s.linkFor request.accessPoint reply = .error rejection) (call : Nat) :
    Underway (setUpEntries request order (.ok reply) ++ [.told (cleanUpCommand request reply)])
      .cleaningUp (.call call (cleanUpCommand request reply))
  | released {reply : SetupReply} {rejection : Rejection} (status : reply.status = 0)
    (refused : s.linkFor request.accessPoint reply = .error rejection) :
    Underway (setUpEntries request order (.ok reply) ++ cleanUpEntries request reply) .cleaningUp
      (.mail (.releaseDone (.cleanUp request)))
  | skipped {reply : SetupReply} {rejection : Rejection} (status : reply.status = 0)
    (refused : s.linkFor request.accessPoint reply = .error rejection) :
    Underway (setUpEntries request order (.ok reply)) .cleaningUp
      (.mail (.releaseDone (.cleanUp request)))

end

/-- What the radio has said. -/
inductive RadioWord where
  | setUp (result : Except RadioError SetupReply)
  | lastCause (result : Except RadioError Int32)
  | release

/-- What the radio says by an answer. -/
def Mail.word? : Mail → Option RadioWord
  | setUpDone _ result => some (.setUp result)
  | lastCauseDone _ result => some (.lastCause result)
  | releaseDone _ => some .release
  | _ => none

/-- What the radio has said in a course. -/
def wordsOf (course : List Entry) : List RadioWord :=
  course.filterMap fun
    | .heard _ answer => answer.word?
    | _ => none

section

variable {s : Setting} {request other : BringUp} {order order' : SetupOrder}

/-- The outcome is the same wherever the radio's answers are. -/
theorem Ends.determined {course course' : List Entry} {outcome outcome' : BringUpOutcome}
    (h : Ends s request order course outcome) (h' : Ends s other order' course' outcome')
    (accessPoint : other.accessPoint = request.accessPoint)
    (words : wordsOf course' = wordsOf course) : outcome' = outcome := by
  cases h with
  | unavailable =>
    cases h' with
    | unavailable => rfl
    | _ => cases words
  | rejected since status =>
    cases h' with
    | rejected =>
      cases words
      rfl
    | rejectedCauseless since' status' =>
      cases words
      exact absurd status' status
    | _ => cases words
  | named vague cause =>
    cases h' with
    | named =>
      cases words
      rfl
    | namedCauseless =>
      cases words
      exact absurd rfl cause
    | _ => cases words
  | unnamed =>
    cases h' with
    | unnamed => rfl
    | _ => cases words
  | reported status =>
    cases h' with
    | reported =>
      cases words
      rfl
    | accepted status' | refusedOff status' =>
      cases words
      exact absurd status' status
    | _ => cases words
  | accepted status agreed =>
    cases h' with
    | accepted =>
      cases words
      rfl
    | reported status' =>
      cases words
      exact absurd status status'
    | refusedOff status' refused =>
      cases words
      rw [accessPoint, agreed] at refused
      cases refused
    | _ => cases words
  | refused =>
    cases h' with
    | refused => rfl
    | _ => cases words
  | refusedOff status refused =>
    cases h' with
    | refusedOff => rfl
    | reported status' =>
      cases words
      exact absurd status status'
    | accepted status' agreed =>
      cases words
      rw [accessPoint, refused] at agreed
      cases agreed
    | _ => cases words
  | rejectedCauseless since status =>
    cases h' with
    | rejectedCauseless => rfl
    | rejected since' status' =>
      cases words
      exact absurd status status'
    | _ => cases words
  | namedCauseless =>
    cases h' with
    | namedCauseless => rfl
    | named vague' cause' =>
      cases words
      exact absurd rfl cause'
    | _ => cases words

/-! ### Stages -/

variable {course : List Entry} {phase : Phase} {number : Nat} {command : Command}

theorem attemptOf_append (n : Nat) (first second : List Entry) :
    attemptOf n (first ++ second) = attemptOf n first ++ attemptOf n second :=
  List.filter_append _ _

namespace Underway

/-- All that is underway for an attempt is for its request. -/
theorem request_of_task {work : Work} (h : Underway s request order course phase work) {task : Task}
    (about : work.task? = some task) : task.request = .bringUp request := by
  cases h <;>
  · cases about
    rfl

theorem isBusy {work : Work} (h : Underway s request order course phase work) :
    phase.isBusy = true := by
  cases h <;> rfl

/-- The radio is given the command. -/
theorem call (h : Underway s request order course phase (.order command)) (number : Nat) :
    Underway s request order (course ++ [.told command]) phase (.call number command) := by
  cases h with
  | ordered => exact .told number
  | asks vague => exact .asked vague number
  | refused status refused => exact .releases status refused number

/-- The radio is off, and has nothing to release. -/
theorem skip {id : Int32} {reason : ReleaseReason} {purpose : ReleasePurpose}
    (h : Underway s request order course phase (.order (.release id reason purpose))) :
    Underway s request order course phase (.mail (.releaseDone purpose)) := by
  cases h with
  | refused status refused => exact .skipped status refused

/-- The radio answers the command. -/
theorem answer {given : RadioAnswers} {mail : Mail}
    (h : Underway s request order course phase (.call number command))
    (ready : command.completion? given = some mail) :
    Underway s request order (course ++ [.heard command mail]) phase (.mail mail) := by
  cases h with
  | told =>
    obtain ⟨result, -, rfl⟩ := Option.map_eq_some_iff.mp ready
    exact .heard result
  | asked vague =>
    obtain ⟨result, -, rfl⟩ := Option.map_eq_some_iff.mp ready
    rw [List.append_assoc]
    exact .learned vague result
  | releases status refused =>
    obtain ⟨result, -, rfl⟩ := Option.map_eq_some_iff.mp ready
    rw [List.append_assoc]
    exact .released status refused

end Underway

end

/-! ### Reactions -/

section

variable {ι : Type} [Interceptor ι] {s t : Setting} {request : BringUp} {order : SetupOrder}
  {course : List Entry} {m : Controller ι} {mail : Mail} {r : Reaction ι}

/-- What a failure tells the request whose attempt has not led to a bearer. -/
theorem Connection.outcome_of_cause {c : Connection} {failure : SetupFailure}
    (cause : failure.cause ≠ .noCause) : c.outcome failure = .error failure := by
  rw [outcome, if_neg cause]

theorem Connection.outcome_of_no_cause {c : Connection} {failure : SetupFailure}
    (cause : failure.cause = .noCause) (bearerId : c.bearerId = -1) :
    c.outcome failure = .ok (-1) := by
  rw [outcome, if_pos cause, bearerId]

/-- A setback ends an attempt with the outcome that goes with the answer. -/
theorem Underway.ends (h : Underway s request order course .settingUp (.mail mail))
    {other : BringUp} {failure : SetupFailure} (setback : Setback t mail other failure)
    (since : t.structuredSince = s.structuredSince) {c : Connection} (bearerId : c.bearerId = -1) :
    other = request ∧ Ends s request order course (c.outcome failure) := by
  cases h with
  | heard result =>
    cases setback with
    | unavailable => exact ⟨rfl, .unavailable⟩
    | @rejected _ reply hsince =>
      rw [since] at hsince
      refine ⟨rfl, ?_⟩
      by_cases hstatus : reply.status = 0
      · have hcause : Cause.ofCode reply.status = .noCause :=
          Cause.ofCode_eq_noCause_iff.mpr hstatus
        rw [Connection.outcome_of_no_cause hcause bearerId]
        exact .rejectedCauseless hsince hstatus
      · have hcause : Cause.ofCode reply.status ≠ .noCause :=
          fun h => hstatus (Cause.ofCode_eq_noCause_iff.mp h)
        rw [Connection.outcome_of_cause hcause]
        exact .rejected hsince hstatus
    | @reported _ reply status =>
      have hcause : Cause.ofCode reply.status ≠ .noCause :=
        fun h => status (Cause.ofCode_eq_noCause_iff.mp h)
      refine ⟨rfl, ?_⟩
      rw [Connection.outcome_of_cause hcause]
      exact .reported status
  | learned vague result =>
    cases setback with
    | named _ code =>
      refine ⟨rfl, ?_⟩
      by_cases hcode : code = 0
      · have hcause : Cause.ofCode code = .noCause := Cause.ofCode_eq_noCause_iff.mpr hcode
        rw [Connection.outcome_of_no_cause hcause bearerId, hcode]
        exact .namedCauseless vague
      · have hcause : Cause.ofCode code ≠ .noCause :=
          fun h => hcode (Cause.ofCode_eq_noCause_iff.mp h)
        rw [Connection.outcome_of_cause hcause]
        exact .named vague hcode
    | unnamed _ error => exact ⟨rfl, .unnamed vague error⟩

/-- Mail that is not for the radio's tasks, and disturbs nothing, leaves a busy phase as it is. -/
theorem Rule.nothing_of_no_task {c : Connection} {i : ι} {p : Phase} (h : Rule s c i p mail r)
    (busy : p.isBusy = true) (no_task : mail.task? = none) (calm : mail.disturbs = false) :
    r.posts = [] ∧ r.commands = [] ∧ r.next = none ∧ r.halt = none := by
  cases h with
  | waits | hears | answers => exact ⟨rfl, rfl, rfl, rfl⟩
  | impossible | intercepted | ordered | joins | vacuous | strange | leaves | releases => cases busy
  | fails setback => cases setback <;> cases no_task
  | asks | accepts | refuses | released => cases no_task
  | ignores reports =>
    rw [reports] at no_task
    cases no_task
  | resets | stops => cases calm

/-- Among events, only a call puts something about an attempt on record. -/
theorem Event.called_of_isFor {event : Event} {emptied : Bool} {entry : Entry} {n : Nat}
    (noted : event.entry? emptied = some entry) (isFor : entry.isFor n = true) :
    ∃ number command, event = .called number command := by
  rw [Event.entry?.eq_def] at noted
  split at noted
  · cases noted
    cases isFor
  · split at noted
    · cases noted
      cases isFor
    · cases noted
  · exact ⟨_, _, rfl⟩
  · cases noted

theorem Rule.attemptOf_noted (h : Rule t m.connection m.interceptor m.phase mail r) (n : Nat) :
    attemptOf n (m.noted t mail r) = [] := by
  rw [attemptOf, Controller.noted_eq, List.filter_eq_nil_iff]
  intro entry hentry isFor
  obtain ⟨event, hevent, hnoted⟩ := List.mem_filterMap.mp hentry
  obtain ⟨number, command, rfl⟩ := Event.called_of_isFor hnoted isFor
  exact h.not_called number command hevent

/-- What handling an answer to an attempt leads to: another command, or its end. -/
theorem Underway.react (h : Underway s request order course m.phase (.mail mail))
    (rule : Rule t m.connection m.interceptor m.phase mail r)
    (current : m.connection.generation = request.generation)
    (technology : t.technology = s.technology) (since : t.structuredSince = s.structuredSince)
    (accessPoint : m.connection.accessPoint = some request.accessPoint)
    (bearerId : m.connection.bearerId = -1) :
    (∃ command, r.commands = [command] ∧ r.posts = [] ∧ r.halt = none ∧
      (m.after t mail r).1.connection.generation = m.connection.generation ∧
      Underway s request order course (m.after t mail r).1.phase (.order command)) ∨
    ∃ target outcome, Ends s request order course outcome ∧
      (m.after t mail r).2 = [.moved m.phase target, .broughtUp request outcome] := by
  obtain ⟨phase, c, i, mailbox, deferred, outbox, halt⟩ := m
  have hlink : ∀ reply : SetupReply, negotiate reply (t.fallback c reply.interface) =
      s.linkFor request.accessPoint reply := by
    intro reply
    have hpoint : c.accessPoint = some request.accessPoint := accessPoint
    simp only [Setting.linkFor, Setting.fallback, technology, hpoint]
  cases rule with
  | fails setback hcurrent =>
    obtain ⟨rfl, hends⟩ := h.ends setback since (c := c) bearerId
    exact Or.inr ⟨.idle, _, hends, rfl⟩
  | asks available vague hcurrent =>
    cases h with
    | heard =>
      rw [since] at vague
      exact Or.inl ⟨_, rfl, rfl, rfl, rfl, .asks ⟨available, vague⟩⟩
  | @accepts _ reply link status agreed hcurrent =>
    cases h with
    | heard =>
      rw [hlink] at agreed
      exact Or.inr ⟨.up, _, .accepted status agreed, rfl⟩
  | @refuses _ reply rejection status refused hcurrent =>
    cases h with
    | heard =>
      rw [hlink] at refused
      exact Or.inl ⟨_, rfl, rfl, rfl, rfl, .refused status refused⟩
  | released awaited hcurrent =>
    cases h with
    | released status refused =>
      refine Or.inr ⟨.idle, _, .refused status refused, ?_⟩
      rfl
    | skipped status refused =>
      refine Or.inr ⟨.idle, _, .refusedOff status refused, ?_⟩
      rfl
  | ignores reports stale =>
    -- it would be awaited, and it is current
    cases h <;>
    · cases reports
      exact absurd ⟨rfl, current.symm⟩ stale
  | waits busy isRequest => cases h <;> cases isRequest
  | impossible | intercepted | ordered | joins | vacuous | strange | leaves | releases | hears
  | answers | resets | stops => cases h

/-- The record during an attempt is that of its request. -/
theorem Underway.record {phase : Phase}
    (h : Underway s request order course phase (.mail mail)) {task : Task}
    {others : Multiset Task} (about : mail.task? = some task) {c : Connection}
    {deferred : List Mail} (fits : Fits c deferred ({task} + others) phase) :
    c.accessPoint = some request.accessPoint ∧ c.bearerId = -1 := by
  cases h with
  | heard result =>
    cases about
    exact (fits.attempt (Or.inl rfl)).2.2
  | learned vague result =>
    cases about
    exact (fits.attempt (Or.inr rfl)).2.2
  | released | skipped =>
    cases about
    have hothers := fits.awaits.2
    obtain ⟨other, hcurrent, -, hrecord⟩ := fits
    rw [hothers, add_zero, Multiset.singleton_inj] at hcurrent
    cases hcurrent
    exact hrecord

end

end PacketBearer
