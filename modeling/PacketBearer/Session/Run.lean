/-
Running a session, step by step.

Every step runs until nothing is left to do.  The actions of a batch are all sent before the
bearer takes any of them, and the radio's answers among them come behind everything that the
owner has sent.  There is room in the inbox for all of it: the capacity that an inbox may have is
left out, and a sender that would wait for a free place counts as having sent at once.  What
happened is read off the events:

* a request is resolved when it is completed or dropped, and then awaited no longer;
* an inquiry that leaves no answer among the events has met a bearer that stopped.
-/
import PacketBearer.Session.Basic

namespace PacketBearer.Session

/-! ### Sending -/

/-- The result of an action as soon as it is sent. -/
inductive Pending where
  | known (result : ActionResult)
  /-- The result is the answer to the inquiry with this number. -/
  | awaited (number : Nat)

/-- What sending an action amounts to. -/
structure Sent where
  session : Session
  pending : Pending
  /-- The mail of the owner. -/
  mail : List Mail := []
  /-- The mail of the radio, which comes behind the owner's. -/
  completions : List Mail := []

/-- Sends a request or an inquiry through the handle of a bearer that works. -/
def sendCall (s : Session) : Call → Sent
  | .bringUp client accessPoint =>
    { session := { s with
        bringUps := s.bringUps + 1, awaitedBringUps := s.awaitedBringUps ++ [s.bringUps] }
      pending := .known (.sent s.bringUps)
      mail := [.bringUp { number := s.bringUps, client, accessPoint }] }
  | .tearDown client reason => sendTearDown (some client) reason
  | .tearDownAll reason => sendTearDown none reason
  | .inquire inquiry =>
    { session := { s with inquiries := s.inquiries + 1 }
      pending := .awaited s.inquiries
      mail := [.inquiry s.inquiries inquiry] }
  | .stop => { session := s, pending := .known .done, mail := [.stop] }
  | .isClosed => { session := s, pending := .known (.closed s.bearer.isHalted) }
  | .redial call =>
    let (answer, redial) := s.redial.call call
    { session := { s with redial }, pending := .known (.redial answer) }
where
  /-- Sends a tear-down for one client or for all. -/
  sendTearDown (client : Option String) (reason : String) : Sent :=
    { session := { s with
        tearDowns := s.tearDowns + 1, awaitedTearDowns := s.awaitedTearDowns ++ [s.tearDowns] }
      pending := .known (.sent s.tearDowns)
      mail := [.tearDown { number := s.tearDowns, client, reason }] }

/-- These calls are answered by the handle itself, whatever has become of the bearer. -/
def Call.isLocal : Call → Bool
  | isClosed | redial _ => true
  | _ => false

/-- Uses the handle, if there is one still. -/
def useHandle (s : Session) (call : Call) : Sent :=
  if !s.handleHeld then { session := s, pending := .known .noHandle }
  else if s.bearer.isHalted && !call.isLocal then
    { session := s, pending := .known (.failed .closed) }
  else s.sendCall call

/-- The open call that is meant. -/
def choose (s : Session) : CallChoice → Option (Nat × Command)
  | .number n => s.bearer.openCalls.find? fun call => call.1 == n
  | .oldest => s.bearer.openCalls.head?
  | .newest => s.bearer.openCalls.getLast?

/-- Lets the radio answer an open call. -/
def respond (s : Session) (choice : CallChoice) (answers : RadioAnswers) : Sent :=
  match s.choose choice with
  | none => { session := s, pending := .known .noSuchCall }
  | some (call, command) =>
    match command.completion? answers with
    | none => { session := s, pending := .known (.noAnswer (CommandKind.of command)) }
    | some mail =>
      { session := { s with bearer := s.bearer.close call }
        pending := .known (.responded call)
        completions := [mail] }

/-- Sends an action. -/
def sendAction (s : Session) : Action → Sent
  | .call call => s.useHandle call
  | .respond choice answers => s.respond choice answers

/-- Sends actions in turn. -/
def sendAll (s : Session) : List Action → Session × List Pending × List Mail × List Mail
  | [] => (s, [], [], [])
  | action :: actions =>
    let sent := s.sendAction action
    let (s, pending, mail, completions) := sent.session.sendAll actions
    (s, sent.pending :: pending, sent.mail ++ mail, sent.completions ++ completions)

/-! ### Reading events -/

/-- What became of a bring-up. -/
def bringUpResolution? (events : List Event) (n : Nat) : Option (Resolution BringUpOutcome) :=
  events.findSome? fun
    | .broughtUp request outcome =>
      if request.number = n then some (.completed outcome) else none
    | .dropped (.bringUp request) => if request.number = n then some .dropped else none
    | _ => none

/-- What became of a tear-down. -/
def tearDownResolution? (events : List Event) (n : Nat) : Option (Resolution TearDown) :=
  events.findSome? fun
    | .tornDown request => if request.number = n then some (.completed request) else none
    | .dropped (.tearDown request) => if request.number = n then some .dropped else none
    | _ => none

/-- The result of an action, once everything has happened that will. -/
def Pending.result (events : List Event) : Pending → ActionResult
  | known result => result
  | awaited n =>
    (events.findSome? fun
      | .answered number answer => if number = n then some (ActionResult.answer answer) else none
      | _ => none).getD (.failed .unanswered)

/-- The requests of a list that are resolved. -/
def resolutions {α : Type} (resolution? : Nat → Option (Resolution α)) (awaited : List Nat) :
    List (Nat × Resolution α) :=
  awaited.filterMap fun n => (resolution? n).map (n, ·)

/-- The requests of a list that are awaited still. -/
def unresolved {α : Type} (resolution? : Nat → Option (Resolution α)) (awaited : List Nat) :
    List Nat :=
  awaited.filter fun n => (resolution? n).isNone

/-- Awaits the resolved requests no longer, and reports what happened. -/
def conclude (s : Session) (result : StepResult) (events : List Event) : Session × Report :=
  let bringUp? := bringUpResolution? events
  let tearDown? := tearDownResolution? events
  ({ s with
      awaitedBringUps := unresolved bringUp? s.awaitedBringUps
      awaitedTearDowns := unresolved tearDown? s.awaitedTearDowns },
    { result
      view := s.view
      transitions := events.filterMap fun
        | .moved source target => some (source, target)
        | _ => none
      deferred := events.filterMap fun
        | .deferred kind => some kind
        | _ => none
      ignored := events.filterMap fun
        | .ignored kind => some kind
        | _ => none
      calls := events.filterMap fun
        | .called call command => some (call, command)
        | _ => none
      bringUps := resolutions bringUp? s.awaitedBringUps
      tearDowns := resolutions tearDown? s.awaitedTearDowns
      notices := events.filterMap fun
        | .notice notice => some notice
        | _ => none
      toFail := s.bearer.controller.interceptor.map FailureCountdown.remaining })

/-! ### Steps -/

/-- Sends mail to the bearer and lets it work. -/
def settle (s : Session) (mail : List Mail) : Session × List Event :=
  let (bearer, events) := (s.bearer.send mail).settle s.setting
  ({ s with bearer }, events)

/-- Sends actions and lets the bearer work. -/
def act (s : Session) (actions : List Action) : Session × List ActionResult × List Event :=
  let (s, pending, mail, completions) := s.sendAll actions
  let (s, events) := s.settle (mail ++ completions)
  (s, pending.map (Pending.result events), events)

/-- Arms the countdown, if the bearer has one. -/
def arm (s : Session) (countdown : FailureCountdown) : Session :=
  let controller := s.bearer.controller
  let interceptor := controller.interceptor.map fun _ => countdown
  { s with bearer := { s.bearer with controller := { controller with interceptor } } }

/-- One step of a session. -/
def step (s : Session) : Step → Session × Report
  | .single action =>
    let (s, results, events) := s.act [action]
    s.conclude (results.head?.elim .done .single) events
  | .batch actions =>
    let (s, results, events) := s.act actions
    s.conclude (.batch results) events
  | .radioConnected result =>
    let heard := s.isSubscribed
    let (s, events) := s.settle (if heard then [.radioConnected result] else [])
    s.conclude (.delivered heard) events
  | .closeSource => { s with sourceOpen := false }.conclude .done []
  | .switchRadio on =>
    { s with setting := { s.setting with radioOn := on || !s.hasSwitch } }.conclude .done []
  | .arm countdown => (s.arm countdown).conclude .done []
  | .dropTracker => { s with setting := { s.setting with trackerOpen := false } }.conclude .done []
  | .abandonBringUp n =>
    { s with awaitedBringUps := s.awaitedBringUps.filter (· ≠ n) }.conclude .done []
  | .abandonTearDown n =>
    { s with awaitedTearDowns := s.awaitedTearDowns.filter (· ≠ n) }.conclude .done []
  | .dropHandle =>
    let (s, events) := { s with handleHeld := false }.settle [.stop]
    s.conclude .done events

/-- The steps of a session in turn. -/
def run (s : Session) : List Step → Session × List Report
  | [] => (s, [])
  | step :: steps =>
    let (s, report) := s.step step
    let (s, reports) := s.run steps
    (s, report :: reports)

end PacketBearer.Session
