/-
How a bearer reacts to its mail.

`react` is the rule book of the five phases: given the phase, the record and one piece of mail,
it says what happens to the record, what the bearer tells itself and the radio, whether the mail
has to wait, and which phase comes next.  It sees neither the mail that still waits nor the
commands that are still open.

* A bring-up is admitted when the bearer is idle, joins when it is up, and waits otherwise.
* A tear-down is done at once when the bearer is idle, leaves when it is up, and waits otherwise.
* An answer of the radio counts only in the phase that waits for it, and only if it carries the
  current generation.

Entering a phase is a step of its own (`enter`): a request that ends with the phase before is
completed only then, so that whoever hears of it finds the bearer in its new phase.
-/
import PacketBearer.Mail
import PacketBearer.Radio.Access
import PacketBearer.Radio.Interception

namespace PacketBearer

/-- What a bearer has to know of the world around it. -/
structure Setting where
  /-- The bearer's own number. -/
  id : UInt32 := 1
  /-- From this version on, the reply that comes with a rejection can be relied on. -/
  structuredSince : Int32 := 4
  technology : AccessTechnology
  /-- Someone listens to the notices of lost bearers. -/
  trackerOpen : Bool := false
  radioOn : Bool := true

/-- What a phase begins with. -/
inductive Arrival where
  | quiet
  | succeeded (request : BringUp)
  | failed (request : BringUp) (failure : SetupFailure)
  | tornDown (request : TearDown)
  deriving DecidableEq, Repr

/-- Why a bearer works no longer. -/
inductive Halt where
  /-- It was told to stop. -/
  | told
  /-- The order for a set-up could not be expressed. -/
  | impossibleOrder
  deriving DecidableEq, Repr

/-- What one piece of mail brings about. -/
structure Reaction (ι : Type) where
  connection : Connection
  interceptor : ι
  /-- The mail that the bearer sends itself. -/
  posts : List Mail := []
  /-- The commands to the radio. -/
  commands : List Command := []
  events : List Event := []
  /-- The mail has to wait for another phase. -/
  waits : Bool := false
  /-- The next phase, and what it begins with. -/
  next : Option (Phase × Arrival) := none
  halt : Option Halt := none

/-- The request that an arrival completes. -/
def Arrival.request? : Arrival → Option ClientRequest
  | quiet => none
  | succeeded request | failed request _ => some (.bringUp request)
  | tornDown request => some (.tearDown request)

/-! ### Links -/

/-- What the system offers for a bearer on an interface. -/
def Setting.fallback (s : Setting) (c : Connection) (interface : String) : Fallback :=
  let servers := s.technology.systemDns interface
  { dns := if s.technology.acceptsDns servers (c.accessPoint.getD {}) then some servers else none
    gateways := s.technology.systemGateways interface }

/-- Takes over the parameters of a reply, if they make a link.  The proxy stays. -/
def Connection.updateLink (s : Setting) (c : Connection) (reply : SetupReply) :
    LinkUpdate × Connection :=
  if reply.status = 0 then
    -- The radio knows nothing of the proxy.
    match negotiate reply (s.fallback c reply.interface) with
    | .ok link =>
      let link := link.withProxy c.link.proxy
      (⟨.accepted, c.link, link⟩, { c with link })
    | .error _ => (⟨.refused, c.link, {}⟩, c)
  else (⟨.failed (Cause.ofCode reply.status), c.link, {}⟩, c)

/-! ### Inquiries -/

/-- The answer to an inquiry, and the record after it. -/
def Connection.answer (s : Setting) (phase : Phase) (c : Connection) :
    Inquiry → Answer × Connection
  | .isIdle => (.flag (phase == .idle), c)
  | .bearerId => (.bearerId c.bearerId, c)
  | .accessPoint => (.accessPoint c.accessPoint, c)
  | .link => (.link c.link, c)
  | .setProxy proxy => (.done, { c with link := c.link.withProxy proxy })
  | .updateLink reply =>
    let (update, c) := c.updateLink s reply
    (.update update, c)
  | .capabilities => (.capabilities c.capabilities, c)
  | .reset => (.done, c)
  | .clientCount => (.count c.clients.size, c)
  | .clients => (.clients c.clients.names, c)
  | .setReconnectIntent intent => (.done, { c with reconnectIntent := intent })
  | .reconnectIntent => (.intent c.reconnectIntent, c)

/-- An inquiry changes the link and the owner's intent at most. -/
theorem Connection.answer_eq (s : Setting) (p : Phase) (c : Connection) (inquiry : Inquiry) :
    ∃ link intent, (c.answer s p inquiry).2 = { c with link, reconnectIntent := intent } := by
  cases inquiry with
  | setProxy proxy => exact ⟨c.link.withProxy proxy, c.reconnectIntent, rfl⟩
  | setReconnectIntent intent => exact ⟨c.link, intent, rfl⟩
  | updateLink reply =>
    show ∃ link intent, (c.updateLink s reply).2 = _
    rw [Connection.updateLink]
    split
    · split
      · next link _ => exact ⟨link.withProxy c.link.proxy, c.reconnectIntent, rfl⟩
      · exact ⟨c.link, c.reconnectIntent, rfl⟩
    · exact ⟨c.link, c.reconnectIntent, rfl⟩
  | _ => exact ⟨c.link, c.reconnectIntent, rfl⟩

/-! ### Mail -/

section

variable {ι : Type} [Interceptor ι] (s : Setting) (phase : Phase) (c : Connection) (i : ι)

/-- The record is noted, and nothing else happens. -/
def noted : Reaction ι := { connection := c, interceptor := i }

/-- The mail waits for another phase. -/
def wait (mail : Mail) : Reaction ι :=
  { connection := c, interceptor := i, waits := true, events := [.deferred mail.kind] }

/-- The mail goes unheeded, and the request it carries is given up. -/
def ignore (mail : Mail) : Reaction ι :=
  { connection := c, interceptor := i
    events := .ignored mail.kind :: (mail.request?.map Event.dropped).toList }

/-- A bring-up is admitted: its client is the first one, and the radio is told to set up a
bearer, unless the interceptor answers in its place. -/
def launch (request : BringUp) : Reaction ι :=
  let request := { request with generation := c.generation }
  let c := { c with
    clients := (c.clients.attach request.client).2
    accessPoint := some request.accessPoint }
  match s.technology.orderFor? request.accessPoint with
  | none =>
    { connection := c, interceptor := i
      events := [.dropped (.bringUp request)], halt := some .impossibleOrder }
  | some order =>
    match Interceptor.intercept order c.radioVersion i with
    | (some reply, i) =>
      { connection := c, interceptor := i
        posts := [.setUpDone request (.ok reply)]
        events := [.handled .idle (.bringUp request)]
        next := some (.settingUp, .quiet) }
    | (none, i) =>
      { connection := c, interceptor := i
        commands := [.setUp order request]
        events := [.handled .idle (.bringUp request)]
        next := some (.settingUp, .quiet) }

/-- A bring-up joins a bearer that is up. -/
def join (request : BringUp) : Reaction ι :=
  { connection := { c with clients := (c.clients.attach request.client).2 }, interceptor := i
    events := [.handled .up (.bringUp request), .broughtUp request (.ok c.bearerId)] }

/-- A tear-down ends without more ado, and leaves the given clients. -/
def finish (clients : Roster) (request : TearDown) : Reaction ι :=
  { connection := { c with clients }, interceptor := i
    events := [.handled phase (.tearDown request), .tornDown request] }

/-- A tear-down detaches all clients and releases the bearer. -/
def releaseFor (request : TearDown) : Reaction ι :=
  let request := { request with generation := c.generation, detached := c.clients.clear.1 }
  { connection := { c with clients := c.clients.clear.2 }, interceptor := i
    commands := [.release c.bearerId (ReleaseReason.ofText request.reason) (.tearDown request)]
    events := [.handled .up (.tearDown request)]
    next := some (.releasing, .quiet) }

/-- A tear-down of a bearer that is up: for all clients, or for the last one, it releases the
bearer; it detaches any other client. -/
def leave (request : TearDown) : Reaction ι :=
  match request.client with
  | none => releaseFor c i request
  | some client =>
    if client ∉ c.clients then finish .up c i c.clients request
    else if c.clients.size = 1 then releaseFor c i request
    else finish .up c i (c.clients.detach client).2 request

/-- The attempt has failed: the bearer becomes idle. -/
def fail (request : BringUp) (failure : SetupFailure) : Reaction ι :=
  { connection := c, interceptor := i, next := some (.idle, .failed request failure) }

/-- The radio has answered the command to set up a bearer. -/
def onSetUpDone (request : BringUp) : Except RadioError SetupReply → Reaction ι
  | .error .radioNotAvailable => fail c i request ⟨.radioNotAvailable, none⟩
  | .error (.rejected reply) =>
    if s.structuredSince ≤ reply.version then fail c i request ⟨Cause.ofCode reply.status, none⟩
    else { connection := c, interceptor := i, commands := [.lastCause request] }
  | .error _ => { connection := c, interceptor := i, commands := [.lastCause request] }
  | .ok reply =>
    let (update, c) := c.updateLink s reply
    match update.verdict with
    | .accepted =>
      { connection := { c with bearerId := reply.bearerId }, interceptor := i
        next := some (.up, .succeeded request) }
    | .refused =>
      { connection := c, interceptor := i
        commands := [.release reply.bearerId .unspecified (.cleanUp request)]
        next := some (.cleaningUp, .quiet) }
    | .failed cause => fail c i request ⟨cause, reply.retryDelay?⟩

/-- The radio has named the cause of the last failure, or failed to. -/
def onLastCauseDone (request : BringUp) : Except RadioError Int32 → Reaction ι
  | .ok code => fail c i request ⟨Cause.ofCode code, none⟩
  | .error _ => fail c i request ⟨.unknown, none⟩

/-- The bearer is released. -/
def onReleaseDone (purpose : ReleasePurpose) : Reaction ι :=
  { connection := c, interceptor := i
    next := some (.idle, match purpose with
      | .tearDown request => .tornDown request
      | .cleanUp request => .failed request ⟨.unacceptableNetworkParameter, none⟩) }

/-- What a piece of mail brings about. -/
def react (mail : Mail) : Reaction ι :=
  match mail with
  | .bringUp request =>
    match phase with
    | .idle => launch s c i request
    | .up => join c i request
    | .settingUp | .releasing | .cleaningUp => wait c i mail
  | .tearDown request =>
    match phase with
    | .idle => finish .idle c i c.clients request
    | .up => leave c i request
    | .settingUp | .releasing | .cleaningUp => wait c i mail
  | .setUpDone request result =>
    if phase = .settingUp ∧ request.generation = c.generation then
      onSetUpDone s c i request result
    else ignore c i mail
  | .lastCauseDone request result =>
    if phase = .settingUp ∧ request.generation = c.generation then
      onLastCauseDone c i request result
    else ignore c i mail
  | .releaseDone purpose =>
    if (phase = .releasing ∨ phase = .cleaningUp) ∧ purpose.generation = c.generation then
      onReleaseDone c i purpose
    else ignore c i mail
  | .radioConnected result =>
    noted { c with radioVersion := result.toOption.getD (-1) } i
  | .inquiry number inquiry =>
    let (answer, c) := c.answer s phase inquiry
    { connection := c, interceptor := i
      events := [.answered number answer]
      next := if inquiry = .reset ∧ phase ≠ .idle then some (.idle, .quiet) else none }
  | .stop => { connection := c, interceptor := i, halt := some .told }

end

/-! ### Phases -/

/-- A bring-up that failed for no cause has succeeded. -/
def Connection.outcome (c : Connection) (failure : SetupFailure) : BringUpOutcome :=
  if failure.cause = .noCause then .ok c.bearerId else .error failure

/-- The notices of a tear-down: one for each client it has detached, but the one that asked. -/
def Setting.lossNotices (s : Setting) (request : TearDown) : List Event :=
  if s.trackerOpen then
    (request.detached.filter (some · ≠ request.client)).map fun client =>
      .notice ⟨s.id, client, request.reason⟩
  else []

theorem notice_of_mem_lossNotices {s : Setting} {request : TearDown} {event : Event}
    (h : event ∈ s.lossNotices request) : ∃ notice, event = .notice notice := by
  rw [Setting.lossNotices] at h
  split at h
  · obtain ⟨client, -, rfl⟩ := List.mem_map.mp h
    exact ⟨_, rfl⟩
  · cases h

/-- Enters a phase.  Becoming idle starts a new generation with a wiped record. -/
def Connection.enter (s : Setting) (c : Connection) (target : Phase) (arrival : Arrival) :
    Connection × List Event :=
  match target with
  | .idle =>
    ({ c.wiped with generation := c.generation + 1 }, match arrival with
      | .quiet => []
      | .succeeded request => [.broughtUp request (.error ⟨.unknown, none⟩)]
      | .failed request failure => [.broughtUp request (c.outcome failure)]
      | .tornDown request => .tornDown request :: s.lossNotices request)
  | .up =>
    (c, match arrival with
      | .succeeded request => [.broughtUp request (.ok c.bearerId)]
      | arrival => (arrival.request?.map Event.dropped).toList)
  | .settingUp | .releasing | .cleaningUp => (c, (arrival.request?.map Event.dropped).toList)

end PacketBearer
