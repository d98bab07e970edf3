/-
Runs of a bearer in a world that acts on it at any time.

A `Session` sends, and then lets the bearer work until nothing is left to do.  Outside a session
nobody waits: between any two turns of the bearer a client may ask for something, the radio may
answer a call or report its version, and the owner may inquire.  A `Scene` is a bearer at such a
moment, an `Act` is the next thing to happen, and a run is a list of acts.

* `change_step` — what an act can bring about, case by case;
* `run_append`, `run_concat` — a run can be cut anywhere, and its last act is a step of its own.

Design notes: an act that is not possible changes nothing, so that every list of acts is a run.
The bearer takes mail only while its controller rests.  What the radio reports about itself does
not queue behind the owner's mail; the bearer hears of it between two pieces of mail.
-/
import PacketBearer.Proofs.Rule

namespace PacketBearer

/-- What a client asks for. -/
inductive Wish where
  | bringUp (client : String) (accessPoint : AccessPoint)
  /-- Tear the bearer down for one client; none stands for all. -/
  | tearDown (client : Option String) (reason : String)
  deriving DecidableEq, Repr

/-- What happens next around a bearer. -/
inductive Act (ι : Type) where
  | ask (wish : Wish)
  | inquire (inquiry : Inquiry)
  /-- The order to stop is sent, or the last handle is dropped. -/
  | stop
  /-- The bearer hears the radio's version. -/
  | hear (result : Except RadioError Int32)
  /-- The radio answers a call. -/
  | answer (call : Nat) (answers : RadioAnswers)
  /-- The bearer takes the first piece of mail from its inbox. -/
  | take
  | turn
  | switchRadio (on : Bool)
  | closeTracker
  /-- The interceptor is set anew. -/
  | rearm (interceptor : ι)

/-- A world with the cellular technology. -/
def Setting.cellular : Setting where
  technology := CellularAccess.technology {}

/-- A reply that makes a link. -/
def plainReply : SetupReply where
  version := 15
  status := 0
  bearerId := 7
  active := 2
  pdpType := "IP"
  interface := "rmnet0"
  addresses := ["10.0.0.1"]
  dns := ["10.0.0.2"]
  gateways := ["10.0.0.3"]
  suggestedRetry := -1

/-- What the radio needs to know to set up a bearer for an access point without settings. -/
def plainOrder : SetupOrder where
  technology := 2
  usage := .own
  accessPoint := ""
  user := none
  password := none
  authentication := .none
  protocol := .ipv4

/-- A bearer between two turns, in its surroundings. -/
structure Scene (ι : Type) where
  setting : Setting
  bearer : Bearer ι
  /-- The number of the next bring-up. -/
  bringUps : Nat := 0
  /-- The number of the next tear-down. -/
  tearDowns : Nat := 0
  /-- The number of the next inquiry. -/
  inquiries : Nat := 0

/-- The bearer with another controller. -/
def Bearer.withController {ι : Type} (b : Bearer ι) (m : Controller ι) : Bearer ι :=
  { b with controller := m }

/-- The bearer with another inbox. -/
def Bearer.withInbox {ι : Type} (b : Bearer ι) (inbox : List Mail) : Bearer ι :=
  { b with inbox }

/-- Hands a piece of mail to the controller; a bearer that has halted drops it. -/
def Bearer.accept {ι : Type} (b : Bearer ι) (mail : Mail) : Bearer ι × List Event :=
  if b.isHalted then (b, (mail.request?.map Event.dropped).toList)
  else (b.withController (b.controller.post mail), [])

namespace Scene

variable {ι : Type}

/-- A scene at its beginning. -/
def start (setting : Setting) (interceptor : ι) : Scene ι where
  setting
  bearer := Bearer.start interceptor

/-- The controller of the bearer. -/
abbrev controller (w : Scene ι) : Controller ι := w.bearer.controller

/-- The scene with another bearer. -/
def withBearer (w : Scene ι) (b : Bearer ι) : Scene ι := { w with bearer := b }

/-- The scene with another controller. -/
def withController (w : Scene ι) (m : Controller ι) : Scene ι :=
  { w with bearer := w.bearer.withController m }

/-- The mail that a wish makes. -/
def mailOf (w : Scene ι) : Wish → Mail
  | .bringUp client accessPoint => .bringUp { number := w.bringUps, client, accessPoint }
  | .tearDown client reason => .tearDown { number := w.tearDowns, client, reason }

/-- The scene with its numbers used up for a wish. -/
def count (w : Scene ι) : Wish → Scene ι
  | .bringUp _ _ => { w with bringUps := w.bringUps + 1 }
  | .tearDown _ _ => { w with tearDowns := w.tearDowns + 1 }

/-- The scene with another piece of mail at the end of the inbox. -/
def send (w : Scene ι) (mail : Mail) : Scene ι := { w with bearer := w.bearer.send [mail] }

/-- The controller has nothing to do. -/
def Resting (w : Scene ι) : Prop := w.controller.mailbox = [] ∧ w.controller.outbox = []

/-- The controller handles a piece of mail at an act. -/
def Handles (w : Scene ι) (act : Act ι) (mail : Mail) : Prop :=
  act = .turn ∧ ∃ rest, w.controller.mailbox = mail :: rest

/-- A piece of mail comes into being at an act, from outside the bearer. -/
inductive Sends (w : Scene ι) : Act ι → Mail → Prop
  | ask (wish : Wish) : Sends w (.ask wish) (w.mailOf wish)
  | inquire (inquiry : Inquiry) : Sends w (.inquire inquiry) (.inquiry w.inquiries inquiry)
  | stop : Sends w .stop .stop
  | hear (result : Except RadioError Int32) : Sends w (.hear result) (.radioConnected result)

/-- What an act brings about. -/
def step [Interceptor ι] (w : Scene ι) : Act ι → Scene ι × List Event
  | .ask wish => ((w.send (w.mailOf wish)).count wish, [])
  | .inquire inquiry =>
    ({ w.send (.inquiry w.inquiries inquiry) with inquiries := w.inquiries + 1 }, [])
  | .stop => (w.send .stop, [])
  | .hear result =>
    match w.controller.mailbox, w.controller.outbox with
    | [], [] =>
      let (bearer, events) := w.bearer.accept (.radioConnected result)
      ({ w with bearer }, events)
    | _, _ => (w, [])
  | .answer call answers =>
    match w.bearer.openCalls.find? fun c => c.1 == call with
    | none => (w, [])
    | some (_, command) =>
      match command.completion? answers with
      | none => (w, [])
      | some mail => ({ w with bearer := w.bearer.close call }.send mail, [])
  | .take =>
    match w.controller.mailbox, w.controller.outbox, w.bearer.inbox with
    | [], [], mail :: rest =>
      let (bearer, events) := (w.bearer.withInbox rest).accept mail
      ({ w with bearer }, events)
    | _, _, _ => (w, [])
  | .turn =>
    match w.bearer.turn w.setting with
    | none => (w, [])
    | some (bearer, events) => ({ w with bearer }, events)
  | .switchRadio on => ({ w with setting := { w.setting with radioOn := on } }, [])
  | .closeTracker => ({ w with setting := { w.setting with trackerOpen := false } }, [])
  | .rearm interceptor => (w.withController { w.controller with interceptor }, [])

/-- Acts in turn. -/
def run [Interceptor ι] (w : Scene ι) : List (Act ι) → Scene ι × List Event
  | [] => (w, [])
  | act :: acts =>
    let (w, now) := w.step act
    let (w, later) := w.run acts
    (w, now ++ later)

section

variable [Interceptor ι]

/-! ### What an act brings about -/

/-- What an act can bring about: the scene after it, and the events. -/
inductive Change (w : Scene ι) : Act ι → Scene ι → List Event → Prop
  /-- The act is not possible. -/
  | still {act : Act ι} : Change w act w []
  | asked (wish : Wish) : Change w (.ask wish) ((w.send (w.mailOf wish)).count wish) []
  | inquired (inquiry : Inquiry) :
    Change w (.inquire inquiry)
      { w.send (.inquiry w.inquiries inquiry) with inquiries := w.inquiries + 1 } []
  | stopSent : Change w .stop (w.send .stop) []
  | heard (result : Except RadioError Int32) (resting : w.Resting)
    (live : w.bearer.isHalted = false) :
    Change w (.hear result) (w.withController (w.controller.post (.radioConnected result))) []
  | answered {call : Nat} {answers : RadioAnswers} {command : Command} {mail : Mail}
    (isOpen : (call, command) ∈ w.bearer.openCalls)
    (ready : command.completion? answers = some mail) :
    Change w (.answer call answers) ({ w with bearer := w.bearer.close call }.send mail) []
  | taken {mail : Mail} {rest : List Mail} (first : w.bearer.inbox = mail :: rest)
    (resting : w.Resting) (live : w.bearer.isHalted = false) :
    Change w .take
      { w with bearer :=
          (w.bearer.withInbox rest).withController (w.controller.post mail) } []
  | refused {mail : Mail} {rest : List Mail} (first : w.bearer.inbox = mail :: rest)
    (halted : w.bearer.isHalted = true) :
    Change w .take { w with bearer := w.bearer.withInbox rest }
      (mail.request?.map Event.dropped).toList
  | handled {mail : Mail} {rest : List Mail} {r : Reaction ι}
    (first : w.controller.mailbox = mail :: rest)
    (rule : Rule w.setting w.controller.connection w.controller.interceptor w.controller.phase
      mail r) :
    Change w .turn
      (w.withController ((w.controller.withMailbox rest).after w.setting mail r).1)
      ((w.controller.withMailbox rest).after w.setting mail r).2
  | dispatched (empty : w.controller.mailbox = []) :
    Change w .turn
      { w with bearer := (w.bearer.clearOutbox.dispatchAll w.setting w.controller.outbox).1 }
      (w.bearer.clearOutbox.dispatchAll w.setting w.controller.outbox).2
  | switched (on : Bool) :
    Change w (.switchRadio on) { w with setting := { w.setting with radioOn := on } } []
  | trackerClosed :
    Change w .closeTracker { w with setting := { w.setting with trackerOpen := false } } []
  | rearmed (interceptor : ι) :
    Change w (.rearm interceptor) (w.withController { w.controller with interceptor }) []

/-- The controller reacts to its first piece of mail, by one of the rules. -/
theorem step_turn {w : Scene ι} {mail : Mail} {rest : List Mail}
    (first : w.controller.mailbox = mail :: rest) :
    ∃ r : Reaction ι, react w.setting w.controller.phase w.controller.connection
        w.controller.interceptor mail = r ∧
      Rule w.setting w.controller.connection w.controller.interceptor w.controller.phase mail r ∧
      w.step .turn =
        (w.withController ((w.controller.withMailbox rest).after w.setting mail r).1,
          ((w.controller.withMailbox rest).after w.setting mail r).2) := by
  refine ⟨_, rfl, rule_react _ _ _ _ mail, ?_⟩
  rw [step, Bearer.turn_of_cons first, Controller.handle_eq_after]
  rfl

/-- A turn of the scene is one of its bearer. -/
theorem step_turn_eq {w : Scene ι} {b b' : Bearer ι} {now : List Event}
    (h : b.turn w.setting = some (b', now)) :
    (w.withBearer b).step .turn = (w.withBearer b', now) := by
  rw [step, show (w.withBearer b).bearer.turn (w.withBearer b).setting = some (b', now) from h]
  rfl

theorem step_turn_of_rest {w : Scene ι} (resting : w.Resting) : w.step .turn = (w, []) := by
  rw [step, Bearer.turn_eq_none_iff.mpr resting]

/-- The only command in the outbox is carried out. -/
theorem step_turn_of_order {w : Scene ι} {command : Command} (empty : w.controller.mailbox = [])
    (only : w.controller.outbox = [command]) :
    w.step .turn =
      ({ w with bearer := (w.bearer.clearOutbox.dispatch w.setting command).1 },
        (w.bearer.clearOutbox.dispatch w.setting command).2) := by
  have some : w.controller.outbox ≠ [] := only ▸ List.cons_ne_nil command []
  rw [step, Bearer.turn_of_nil empty some, only]
  exact congrArg (Prod.mk _) (List.append_nil _)

theorem step_take {w : Scene ι} {mail : Mail} {rest : List Mail} (resting : w.Resting)
    (first : w.bearer.inbox = mail :: rest) :
    w.step .take =
      ({ w with bearer := ((w.bearer.withInbox rest).accept mail).1 },
        ((w.bearer.withInbox rest).accept mail).2) := by
  rw [step, resting.1, resting.2, first]

theorem step_hear {w : Scene ι} {result : Except RadioError Int32} (resting : w.Resting) :
    w.step (.hear result) =
      ({ w with bearer := (w.bearer.accept (.radioConnected result)).1 },
        (w.bearer.accept (.radioConnected result)).2) := by
  rw [step, resting.1, resting.2]

theorem step_hear_of_busy {w : Scene ι} {result : Except RadioError Int32} (busy : ¬ w.Resting) :
    w.step (.hear result) = (w, []) := by
  rw [step]
  split
  · next hmailbox houtbox => exact absurd ⟨hmailbox, houtbox⟩ busy
  · rfl

theorem step_take_of_busy {w : Scene ι} (busy : ¬ w.Resting) : w.step .take = (w, []) := by
  rw [step]
  split
  · next hmailbox houtbox _ => exact absurd ⟨hmailbox, houtbox⟩ busy
  · rfl

theorem step_take_of_nil {w : Scene ι} (empty : w.bearer.inbox = []) : w.step .take = (w, []) := by
  rw [step]
  split
  · next hinbox =>
    rw [empty] at hinbox
    cases hinbox
  · rfl

theorem step_answer {w : Scene ι} {given : RadioAnswers} {call number : Nat} {command : Command}
    {mail : Mail}
    (isOpen : w.bearer.openCalls.find? (fun c => c.1 == call) = some (number, command))
    (ready : command.completion? given = some mail) :
    w.step (.answer call given) = ({ w with bearer := w.bearer.close call }.send mail, []) := by
  rw [step, isOpen]
  dsimp only
  rw [ready]

theorem change_step (w : Scene ι) (act : Act ι) :
    Change w act (w.step act).1 (w.step act).2 := by
  -- an act that finds nothing to act on leaves everything as it is
  cases act with
  | ask wish => exact .asked wish
  | inquire inquiry => exact .inquired inquiry
  | stop => exact .stopSent
  | hear result =>
    rw [step]
    split
    · next hmail hout =>
      rw [Bearer.accept]
      by_cases hh : w.bearer.isHalted = true
      · rw [if_pos hh]
        exact .still
      · rw [if_neg hh]
        exact .heard result ⟨hmail, hout⟩ (Bool.eq_false_iff.mpr hh)
    · exact .still
  | answer call answers =>
    rw [step]
    split
    · exact .still
    · next number command hfind =>
      have hnumber : number = call := by simpa using List.find?_some hfind
      have hmem := List.mem_of_find?_eq_some hfind
      rw [hnumber] at hmem
      split
      · exact .still
      · next mail hready => exact .answered hmem hready
  | take =>
    rw [step]
    split
    · next mail rest hmail hout hin =>
      rw [Bearer.accept]
      by_cases hh : w.bearer.isHalted = true
      · rw [if_pos (show (w.bearer.withInbox rest).isHalted = true from hh)]
        exact .refused hin hh
      · rw [if_neg (show ¬ (w.bearer.withInbox rest).isHalted = true from hh)]
        exact .taken hin ⟨hmail, hout⟩ (Bool.eq_false_iff.mpr hh)
    · exact .still
  | turn =>
    cases hmail : w.controller.mailbox with
    | cons mail rest =>
      -- the reaction is known by its rule from here on
      obtain ⟨r, -, hrule, hstep⟩ := step_turn hmail
      rw [hstep]
      exact .handled hmail hrule
    | nil =>
      rw [step]
      by_cases hout : w.controller.outbox = []
      · rw [Bearer.turn_eq_none_iff.mpr ⟨hmail, hout⟩]
        exact .still
      · rw [Bearer.turn_of_nil hmail hout]
        exact .dispatched hmail
  | switchRadio on => exact .switched on
  | closeTracker => exact .trackerClosed
  | rearm interceptor => exact .rearmed interceptor

/-- At the act the controller has handled its first piece of mail, with this reaction. -/
structure Turned (w : Scene ι) (act : Act ι) (w' : Scene ι) (events : List Event) (mail : Mail)
    (rest : List Mail) (r : Reaction ι) : Prop where
  act_eq : act = .turn
  first : w.controller.mailbox = mail :: rest
  rule : Rule w.setting w.controller.connection w.controller.interceptor w.controller.phase mail r
  scene_eq : w' = w.withController ((w.controller.withMailbox rest).after w.setting mail r).1
  events_eq : events = ((w.controller.withMailbox rest).after w.setting mail r).2

/-- At the act the controller has handled nothing. -/
structure Quiet (w w' : Scene ι) (events : List Event) : Prop where
  phase : w'.controller.phase = w.controller.phase
  connection : w'.controller.connection = w.controller.connection
  deferred : w'.controller.deferred = w.controller.deferred
  halt : w'.controller.halt = w.controller.halt
  events : ∀ event ∈ events, (∃ call command, event = .called call command) ∨
    w.bearer.isHalted = true ∧ ∃ request, event = .dropped request

theorem Change.turned_or_quiet {w w' : Scene ι} {act : Act ι} {events : List Event}
    (h : Change w act w' events) :
    (∃ mail rest r, Turned w act w' events mail rest r) ∨ Quiet w w' events := by
  have silent : ∀ {w' : Scene ι}, w'.controller.phase = w.controller.phase →
      w'.controller.connection = w.controller.connection →
      w'.controller.deferred = w.controller.deferred →
      w'.controller.halt = w.controller.halt → Quiet w w' [] :=
    fun phase connection deferred halt =>
      ⟨phase, connection, deferred, halt, fun event hevent => absurd hevent List.not_mem_nil⟩
  cases h with
  | handled first rule => exact Or.inl ⟨_, _, _, ⟨rfl, first, rule, rfl, rfl⟩⟩
  | dispatched empty =>
    -- commands that are carried out change the mailbox only
    obtain ⟨purposes, hcontroller⟩ :=
      Bearer.controller_dispatchAll w.setting w.bearer.clearOutbox w.controller.outbox
    refine Or.inr ⟨?_, ?_, ?_, ?_, fun event hevent => Or.inl ?_⟩
    · rw [controller, hcontroller]
      rfl
    · rw [controller, hcontroller]
      rfl
    · rw [controller, hcontroller]
      rfl
    · rw [controller, hcontroller]
      rfl
    · obtain ⟨call, command, -, heq⟩ := Bearer.called_of_mem_dispatchAll hevent
      exact ⟨call, command, heq⟩
  | refused first halted =>
    refine Or.inr ⟨rfl, rfl, rfl, rfl, fun event hevent => Or.inr ⟨halted, ?_⟩⟩
    obtain ⟨request, -, rfl⟩ := Option.map_eq_some_iff.mp (Option.mem_toList.mp hevent)
    exact ⟨request, rfl⟩
  | asked wish => cases wish <;> exact Or.inr (silent rfl rfl rfl rfl)
  | _ => exact Or.inr (silent rfl rfl rfl rfl)

/-! ### Runs -/

@[simp] theorem run_nil (w : Scene ι) : w.run [] = (w, []) := rfl

theorem run_cons (w : Scene ι) (act : Act ι) (acts : List (Act ι)) :
    w.run (act :: acts) =
      (((w.step act).1.run acts).1, (w.step act).2 ++ ((w.step act).1.run acts).2) := rfl

/-- A run can be cut anywhere. -/
theorem run_append (w : Scene ι) (first second : List (Act ι)) :
    w.run (first ++ second) =
      (((w.run first).1.run second).1, (w.run first).2 ++ ((w.run first).1.run second).2) := by
  induction first generalizing w with
  | nil => rfl
  | cons act first ih =>
    rw [List.cons_append, run_cons, run_cons, ih]
    simp only [List.append_assoc]

/-- The last act of a run is a step of its own. -/
theorem run_concat (w : Scene ι) (acts : List (Act ι)) (act : Act ι) :
    w.run (acts ++ [act]) =
      (((w.run acts).1.step act).1, (w.run acts).2 ++ ((w.run acts).1.step act).2) := by
  rw [run_append, run_cons, run_nil, List.append_nil]

/-- What can be seen of a run was seen at one of its acts. -/
theorem exists_of_mem_run {w : Scene ι} {acts : List (Act ι)} {event : Event}
    (h : event ∈ (w.run acts).2) :
    ∃ earlier act later, acts = earlier ++ act :: later ∧
      event ∈ ((w.run earlier).1.step act).2 := by
  induction acts generalizing w with
  | nil => cases h
  | cons act acts ih =>
    rw [run_cons] at h
    rcases List.mem_append.mp h with hnow | hlater
    · exact ⟨[], act, acts, rfl, hnow⟩
    · obtain ⟨earlier, later_act, later, rfl, hmem⟩ := ih hlater
      exact ⟨act :: earlier, later_act, later, rfl, hmem⟩

end

end Scene

/-- A list with one more element at its end can be cut before that element, or before an earlier
one. -/
theorem split_concat {α : Type} {l earlier later : List α} {last one : α}
    (h : l ++ [last] = earlier ++ one :: later) :
    (earlier = l ∧ one = last ∧ later = []) ∨
      ∃ rest, later = rest ++ [last] ∧ l = earlier ++ one :: rest := by
  rcases List.eq_nil_or_concat later with rfl | ⟨rest, final, rfl⟩
  · obtain ⟨rfl, hlast⟩ := List.append_inj' h rfl
    cases hlast
    exact Or.inl ⟨rfl, rfl, rfl⟩
  · rw [List.concat_eq_append, ← List.cons_append, ← List.append_assoc] at h
    obtain ⟨rfl, hlast⟩ := List.append_inj' h rfl
    cases hlast
    exact Or.inr ⟨rest, List.concat_eq_append, rfl⟩

end PacketBearer
