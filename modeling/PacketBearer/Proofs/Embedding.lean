/-
Sessions are runs.

A session lets the bearer work until nothing is left to do, and then reports.  Whatever it does in
one step is a run of the scene that the session is in, and its report is read off the events of that
run:

* `run_settle` — to take all that is in the inbox is a run of the bearer's own acts;
* `exists_run_step` — a step of a session is a run;
* `exists_run` — so is a session.
-/
import PacketBearer.Proofs.Tally
import PacketBearer.Session.Run

namespace PacketBearer

/-! ### A bearer at work -/

theorem Bearer.turn_drive {ι : Type} [Interceptor ι] (s : Setting) (b : Bearer ι) :
    (b.drive s).1.turn s = none := by
  fun_induction Bearer.drive s b with
  | case1 b h => exact h
  | case2 b b' now h _ b'' later hdrive ih =>
    rw [hdrive] at ih
    exact ih

/-- A bearer that works posts the mail that it takes to itself, and works it off. -/
theorem Bearer.take_of_live {ι : Type} [Interceptor ι] {s : Setting} {b : Bearer ι}
    (live : b.isHalted = false) (mail : Mail) :
    b.take s mail = (b.withController (b.controller.post mail)).drive s :=
  if_neg (Bool.eq_false_iff.mp live)

theorem Bearer.settle_of_inbox {ι : Type} [Interceptor ι] (s : Setting) {b : Bearer ι}
    (inbox : b.inbox = []) : b.settle s = (b, []) := by
  rw [settle]
  split
  · rfl
  · next h =>
    rw [receive, inbox] at h
    cases h

theorem Bearer.settle_of_cons {ι : Type} [Interceptor ι] (s : Setting) {b : Bearer ι}
    {mail : Mail} {rest : List Mail} (inbox : b.inbox = mail :: rest) :
    b.settle s = ((((b.withInbox rest).take s mail).1.settle s).1,
      ((b.withInbox rest).take s mail).2 ++ (((b.withInbox rest).take s mail).1.settle s).2) := by
  have hreceive : b.receive s = some ((b.withInbox rest).take s mail) := by
    rw [receive, inbox]
    rfl
  rw [settle]
  split
  · next h =>
    rw [hreceive] at h
    cases h
  · next h =>
    rw [hreceive] at h
    rw [Option.some.inj h]

namespace Scene

section

variable {ι : Type} [Interceptor ι]

/-- To work until nothing is left to do is a run of turns. -/
theorem run_drive (w : Scene ι) (b : Bearer ι) :
    ∃ acts, (w.withBearer b).run acts =
      (w.withBearer (b.drive w.setting).1, (b.drive w.setting).2) := by
  fun_induction Bearer.drive w.setting b with
  | case1 b h => exact ⟨[], rfl⟩
  | case2 b b' now h _ b'' later hdrive ih =>
    obtain ⟨acts, hacts⟩ := ih
    refine ⟨.turn :: acts, ?_⟩
    rw [run_cons, step_turn_eq h, hacts, hdrive]

/-- A bearer that rests takes a piece of mail, and works until nothing is left to do. -/
theorem run_take (w : Scene ι) {b : Bearer ι} {mail : Mail} {rest : List Mail}
    (resting : (w.withBearer b).Resting) (first : b.inbox = mail :: rest) :
    ∃ acts, (w.withBearer b).run acts =
        (w.withBearer ((b.withInbox rest).take w.setting mail).1,
          ((b.withInbox rest).take w.setting mail).2) ∧
      (w.withBearer ((b.withInbox rest).take w.setting mail).1).Resting := by
  have hstep : (w.withBearer b).step .take =
      (w.withBearer ((b.withInbox rest).accept mail).1, ((b.withInbox rest).accept mail).2) :=
    step_take resting first
  rw [Bearer.accept] at hstep
  rw [Bearer.take]
  split
  · next halted =>
    rw [if_pos halted] at hstep
    refine ⟨[.take], ?_, resting⟩
    rw [run_cons, hstep, run_nil, List.append_nil]
  · next live =>
    -- the mail has only been taken so far, and the turns come after it
    rw [if_neg live] at hstep
    obtain ⟨acts, hacts⟩ := run_drive w
      ((b.withInbox rest).withController ((b.withInbox rest).controller.post mail))
    refine ⟨.take :: acts, ?_, Bearer.turn_eq_none_iff.mp (Bearer.turn_drive w.setting _)⟩
    rw [run_cons, hstep, hacts]
    rfl

/-- To take all that is in the inbox is a run of the bearer's own acts. -/
theorem run_settle (w : Scene ι) (b : Bearer ι) (resting : (w.withBearer b).Resting) :
    ∃ acts, (w.withBearer b).run acts =
        (w.withBearer (b.settle w.setting).1, (b.settle w.setting).2) ∧
      (w.withBearer (b.settle w.setting).1).Resting ∧ (b.settle w.setting).1.inbox = [] := by
  induction hinbox : b.inbox generalizing b with
  | nil =>
    rw [Bearer.settle_of_inbox w.setting hinbox]
    exact ⟨[], rfl, resting, hinbox⟩
  | cons mail rest ih =>
    obtain ⟨first, hfirst, hrests⟩ := run_take w resting hinbox
    obtain ⟨acts, hacts, hend⟩ := ih _ hrests ((b.withInbox rest).inbox_take w.setting mail)
    rw [Bearer.settle_of_cons w.setting hinbox]
    refine ⟨first ++ acts, ?_, hend⟩
    rw [run_append, hfirst, hacts]

end

end Scene

/-- A bearer that is sent one piece of mail takes it. -/
theorem Bearer.settle_one {ι : Type} [Interceptor ι] (s : Setting) (b : Bearer ι) (mail : Mail)
    (inbox : b.inbox = []) : (b.send [mail]).settle s = b.take s mail := by
  have hsent : (b.send [mail]).inbox = [mail] := congrArg (· ++ [mail]) inbox
  have hrest : (b.send [mail]).withInbox [] = b := by
    rw [← inbox]
    rfl
  rw [settle_of_cons s hsent, hrest, settle_of_inbox s ((b.inbox_take s mail).trans inbox)]
  exact Prod.ext rfl (List.append_nil _)

theorem Bearer.send_of_inbox {ι : Type} {b : Bearer ι} (inbox : b.inbox = []) (mails : List Mail) :
    b.send mails = b.withInbox mails := by
  rw [send, inbox]
  rfl

/-! ### What is sent -/

namespace Session

/-- The scene that a session is in. -/
def scene (s : Session) : Scene (Option FailureCountdown) where
  setting := s.setting
  bearer := s.bearer
  bringUps := s.bringUps
  tearDowns := s.tearDowns
  inquiries := s.inquiries

/-- A session between two steps: the bearer rests with an empty inbox. -/
structure Rested (s : Session) : Prop where
  resting : s.scene.Resting
  inbox : s.bearer.inbox = []
  numbered : s.bearer.Numbered

/-- What is sent from one session to the next, and by which acts. -/
structure Sends (s s' : Session) (mail completions : List Mail)
    (asks answers : List (Act (Option FailureCountdown))) : Prop where
  asked : ∀ b, (s.scene.withBearer b).run asks = (s'.scene.withBearer (b.send mail), [])
  answered : ∀ (v : Scene (Option FailureCountdown)) (inbox : List Mail),
    v.bearer = s.bearer.withInbox inbox →
      v.run answers = (v.withBearer (s'.bearer.withInbox (inbox ++ completions)), [])
  setting : s'.setting = s.setting
  controller : s'.bearer.controller = s.bearer.controller
  inbox : s'.bearer.inbox = s.bearer.inbox
  numbered : s.bearer.Numbered → s'.bearer.Numbered

namespace Sends

variable {s s' s'' : Session} {mail mail' completions completions' : List Mail}
  {asks asks' answers answers' : List (Act (Option FailureCountdown))}

theorem nothing (same : s'.scene = s.scene) : Sends s s' [] [] [] [] where
  asked b := by rw [Scene.run_nil, Bearer.send, List.append_nil, same]
  answered v inbox h := by
    have hbearer : s'.bearer = s.bearer := congrArg Scene.bearer same
    rw [Scene.run_nil, List.append_nil, hbearer, ← h]
    rfl
  setting := congrArg Scene.setting same
  controller := congrArg Scene.controller same
  inbox := congrArg (Bearer.inbox ∘ Scene.bearer) same
  numbered h := by
    rw [show s'.bearer = s.bearer from congrArg Scene.bearer same]
    exact h

theorem append (first : Sends s s' mail completions asks answers)
    (second : Sends s' s'' mail' completions' asks' answers') :
    Sends s s'' (mail ++ mail') (completions ++ completions') (asks ++ asks')
      (answers ++ answers') where
  asked b := by
    rw [Scene.run_append, first.asked, second.asked]
    simp only [Bearer.send, List.append_assoc, List.append_nil]
  answered v inbox h := by
    rw [Scene.run_append, first.answered v inbox h, second.answered _ _ rfl]
    simp only [List.append_assoc, List.append_nil]
    rfl
  setting := second.setting.trans first.setting
  controller := second.controller.trans first.controller
  inbox := second.inbox.trans first.inbox
  numbered h := second.numbered (first.numbered h)

/-- A session that has sent nothing but one piece of its own mail. -/
theorem one (act : Act (Option FailureCountdown)) {message : Mail} (bearer : s'.bearer = s.bearer)
    (setting : s'.setting = s.setting)
    (step : ∀ b, (s.scene.withBearer b).step act = (s'.scene.withBearer (b.send [message]), [])) :
    Sends s s' [message] [] [act] [] where
  asked b := by rw [Scene.run_cons, step, Scene.run_nil]; rfl
  answered v inbox h := by
    rw [Scene.run_nil, List.append_nil, bearer, ← h]
    rfl
  setting := setting
  controller := by rw [bearer]
  inbox := by rw [bearer]
  numbered := by rw [bearer]; exact id

end Sends

theorem sends_call (s : Session) (call : Call) :
    ∃ asks answers, Sends s (s.sendCall call).session (s.sendCall call).mail
      (s.sendCall call).completions asks answers := by
  cases call with
  | bringUp client accessPoint =>
    exact ⟨_, _, .one (.ask (.bringUp client accessPoint)) rfl rfl fun b => rfl⟩
  | tearDown client reason =>
    exact ⟨_, _, .one (.ask (.tearDown (some client) reason)) rfl rfl fun b => rfl⟩
  | tearDownAll reason =>
    exact ⟨_, _, .one (.ask (.tearDown none reason)) rfl rfl fun b => rfl⟩
  | inquire inquiry => exact ⟨_, _, .one (.inquire inquiry) rfl rfl fun b => rfl⟩
  | stop => exact ⟨_, _, .one .stop rfl rfl fun b => rfl⟩
  | isClosed => exact ⟨_, _, .nothing rfl⟩
  | redial call => exact ⟨_, _, .nothing rfl⟩

theorem sends_handle (s : Session) (call : Call) :
    ∃ asks answers, Sends s (s.useHandle call).session (s.useHandle call).mail
      (s.useHandle call).completions asks answers := by
  rw [useHandle]
  split
  · exact ⟨_, _, .nothing rfl⟩
  · split
    · exact ⟨_, _, .nothing rfl⟩
    · exact s.sends_call call

/-- The radio's answer finds the call that is meant. -/
theorem find?_of_choose {s : Session} (numbered : s.bearer.Numbered) {choice : CallChoice}
    {call : Nat} {command : Command} (h : s.choose choice = some (call, command)) :
    s.bearer.openCalls.find? (fun c => c.1 == call) = some (call, command) := by
  refine numbered.find? ?_
  cases choice with
  | number n => exact List.mem_of_find?_eq_some h
  | oldest => exact List.mem_of_head? h
  | newest => exact List.mem_of_getLast? h

theorem sends_respond {s : Session} (numbered : s.bearer.Numbered) (choice : CallChoice)
    (given : RadioAnswers) :
    ∃ asks answers, Sends s (s.respond choice given).session (s.respond choice given).mail
      (s.respond choice given).completions asks answers := by
  rw [respond]
  split
  · exact ⟨_, _, .nothing rfl⟩
  · next call command hchoice =>
    split
    · exact ⟨_, _, .nothing rfl⟩
    · next mail hready =>
      have hfind := find?_of_choose numbered hchoice
      -- the call is closed here already, and its answer is sent behind the owner's mail
      refine ⟨[], [.answer call given], ?_, ?_, rfl, rfl, rfl, fun h => h.close call⟩
      · intro b
        rw [Scene.run_nil, Bearer.send, List.append_nil]
        rfl
      · intro v inbox hv
        have hopen : v.bearer.openCalls.find? (fun c => c.1 == call) = some (call, command) := by
          rw [hv]
          exact hfind
        rw [Scene.run_cons, Scene.step_answer hopen hready, Scene.run_nil]
        rw [Scene.withBearer, Scene.send, hv]
        rfl

theorem sends_all {s : Session} (numbered : s.bearer.Numbered) (actions : List Action) :
    ∃ asks answers, Sends s (s.sendAll actions).1 (s.sendAll actions).2.2.1
      (s.sendAll actions).2.2.2 asks answers := by
  induction actions generalizing s with
  | nil => exact ⟨_, _, .nothing rfl⟩
  | cons action actions ih =>
    have hfirst : ∃ asks answers, Sends s (s.sendAction action).session
        (s.sendAction action).mail (s.sendAction action).completions asks answers := by
      cases action with
      | call call => exact s.sends_handle call
      | respond choice given => exact sends_respond numbered choice given
    obtain ⟨asks, answers, hfirst⟩ := hfirst
    obtain ⟨asks', answers', hrest⟩ := ih (hfirst.numbered numbered)
    exact ⟨_, _, hfirst.append hrest⟩

/-! ### Steps -/

/-- A bearer that rests, and to which mail has been sent, is let work. -/
theorem run_settle {s s' : Session} {mail : List Mail}
    {acts : List (Act (Option FailureCountdown))} (rested : s.Rested)
    (sent : s.scene.run acts = (s'.scene.withBearer (s'.bearer.send mail), []))
    (resting : s'.scene.Resting) :
    ∃ acts', s.scene.run acts' = ((s'.settle mail).1.scene, (s'.settle mail).2) ∧
      (s'.settle mail).1.Rested := by
  obtain ⟨later, hlater, hresting, hinbox⟩ :=
    s'.scene.run_settle (s'.bearer.send mail) resting
  have hrun : s.scene.run (acts ++ later) =
      ((s'.settle mail).1.scene, (s'.settle mail).2) := by
    rw [Scene.run_append, sent, hlater]
    rfl
  refine ⟨acts ++ later, hrun, hresting, hinbox, ?_⟩
  have hnumbered := s.scene.numbered_run (acts ++ later) rested.numbered
  rw [hrun] at hnumbered
  exact hnumbered

/-- To act is a run. -/
theorem run_act {s : Session} (rested : s.Rested) (actions : List Action) :
    ∃ acts, s.scene.run acts = ((s.act actions).1.scene, (s.act actions).2.2) ∧
      (s.act actions).1.Rested := by
  obtain ⟨asks, answers, hsends⟩ := sends_all rested.numbered actions
  -- all that is asked comes first, as the radio's answers come behind the owner's mail
  have hasked := hsends.asked s.bearer
  have hanswered := hsends.answered ((s.sendAll actions).1.scene.withBearer
    (s.bearer.send (s.sendAll actions).2.2.1)) _ (Bearer.send_of_inbox rested.inbox _)
  rw [← Bearer.send_of_inbox (hsends.inbox.trans rested.inbox)] at hanswered
  have hsent : s.scene.run (asks ++ answers) =
      ((s.sendAll actions).1.scene.withBearer ((s.sendAll actions).1.bearer.send
        ((s.sendAll actions).2.2.1 ++ (s.sendAll actions).2.2.2)), []) := by
    rw [Scene.run_append, show s.scene.run asks = _ from hasked, hanswered]
    rfl
  have hresting : (s.sendAll actions).1.scene.Resting := by
    rw [Scene.Resting, Scene.controller, scene, hsends.controller]
    exact rested.resting
  exact run_settle rested hsent hresting

/-- What the bearer hears of the radio is heard between two pieces of mail. -/
theorem run_hear {s : Session} (rested : s.Rested) (live : s.bearer.isHalted = false)
    (result : Except RadioError Int32) :
    ∃ acts, s.scene.run acts =
        ((s.settle [.radioConnected result]).1.scene, (s.settle [.radioConnected result]).2) ∧
      (s.settle [.radioConnected result]).1.Rested := by
  obtain ⟨acts, hacts⟩ := s.scene.run_drive
    (s.bearer.withController (s.bearer.controller.post (.radioConnected result)))
  have hsettle := s.bearer.settle_one s.setting (.radioConnected result) rested.inbox
  rw [Bearer.take_of_live live] at hsettle
  have hhear : s.scene.step (.hear result) =
      (s.scene.withBearer
        (s.bearer.withController (s.bearer.controller.post (.radioConnected result))), []) := by
    rw [Scene.step, rested.resting.1, rested.resting.2]
    dsimp only
    have hlive : ¬ s.scene.bearer.isHalted = true := Bool.eq_false_iff.mp live
    rw [Bearer.accept, if_neg hlive]
    rfl
  have hrun : s.scene.run (.hear result :: acts) =
      ((s.settle [.radioConnected result]).1.scene, (s.settle [.radioConnected result]).2) := by
    rw [Scene.run_cons, hhear, hacts, Session.settle, hsettle]
    rfl
  refine ⟨_, hrun, ?_, ?_, ?_⟩
  · rw [Session.settle, hsettle]
    exact Bearer.turn_eq_none_iff.mp (Bearer.turn_drive s.setting _)
  · rw [Session.settle, hsettle]
    exact (Bearer.inbox_drive _ _).trans rested.inbox
  · have hnumbered := s.scene.numbered_run (.hear result :: acts) rested.numbered
    rw [hrun] at hnumbered
    exact hnumbered

/-- A step of a session is a run, and its report is read off the events. -/
theorem exists_run_step {s : Session} (rested : s.Rested) (step : Step) :
    ∃ (acts : List (Act (Option FailureCountdown))) (s' : Session) (result : StepResult),
      s.step step = s'.conclude result (s.scene.run acts).2 ∧
        (s.scene.run acts).1 = s'.scene ∧ s'.Rested := by
  cases step with
  | single action =>
    obtain ⟨acts, hrun, hrested⟩ := run_act rested [action]
    refine ⟨acts, (s.act [action]).1, (s.act [action]).2.1.head?.elim .done .single, ?_, ?_,
      hrested⟩
    · rw [hrun]
      rfl
    · rw [hrun]
  | batch actions =>
    obtain ⟨acts, hrun, hrested⟩ := run_act rested actions
    refine ⟨acts, (s.act actions).1, .batch (s.act actions).2.1, ?_, ?_, hrested⟩
    · rw [hrun]
      rfl
    · rw [hrun]
  | radioConnected result =>
    by_cases hheard : s.isSubscribed = true
    · have hlive : s.bearer.isHalted = false := by
        rw [isSubscribed, Bool.and_eq_true] at hheard
        simpa using hheard.1
      obtain ⟨acts, hrun, hrested⟩ := run_hear rested hlive result
      refine ⟨acts, (s.settle [.radioConnected result]).1, .delivered true, ?_, ?_, hrested⟩
      · rw [hrun, Session.step]
        simp only [hheard, if_true]
      · rw [hrun]
    · -- nobody hears of it, but the bearer is let work all the same
      have hnothing : s.scene.run [] = (s.scene.withBearer (s.bearer.send []), []) := by
        rw [Bearer.send, List.append_nil]
        rfl
      obtain ⟨acts, hrun, hrested⟩ := run_settle rested hnothing rested.resting
      refine ⟨acts, (s.settle []).1, .delivered false, ?_, ?_, hrested⟩
      · rw [hrun, Session.step]
        simp [hheard]
      · rw [hrun]
  | closeSource =>
    exact ⟨[], { s with sourceOpen := false }, .done, rfl, rfl,
      ⟨rested.resting, rested.inbox, rested.numbered⟩⟩
  | switchRadio on =>
    exact ⟨[.switchRadio (on || !s.hasSwitch)],
      { s with setting := { s.setting with radioOn := on || !s.hasSwitch } }, .done, rfl, rfl,
      ⟨rested.resting, rested.inbox, rested.numbered⟩⟩
  | arm countdown =>
    exact ⟨[.rearm (s.bearer.controller.interceptor.map fun _ => countdown)], s.arm countdown,
      .done, rfl, rfl, ⟨rested.resting, rested.inbox, ⟨rested.numbered.nodup, rested.numbered.lt⟩⟩⟩
  | dropTracker =>
    exact ⟨[.closeTracker], { s with setting := { s.setting with trackerOpen := false } }, .done,
      rfl, rfl, ⟨rested.resting, rested.inbox, rested.numbered⟩⟩
  | abandonBringUp n =>
    exact ⟨[], { s with awaitedBringUps := s.awaitedBringUps.filter (· ≠ n) }, .done, rfl, rfl,
      ⟨rested.resting, rested.inbox, rested.numbered⟩⟩
  | abandonTearDown n =>
    exact ⟨[], { s with awaitedTearDowns := s.awaitedTearDowns.filter (· ≠ n) }, .done, rfl, rfl,
      ⟨rested.resting, rested.inbox, rested.numbered⟩⟩
  | dropHandle =>
    -- whoever drops the last handle tells the bearer to stop
    let s' : Session := { s with handleHeld := false }
    have hsent : s.scene.run [.stop] = (s'.scene.withBearer (s'.bearer.send [.stop]), []) := rfl
    obtain ⟨acts, hrun, hrested⟩ := run_settle rested hsent rested.resting
    refine ⟨acts, (s'.settle [.stop]).1, .done, ?_, ?_, hrested⟩
    · rw [hrun]
      rfl
    · rw [hrun]

theorem rested_start (setting : Setting) (countdown : Option FailureCountdown) :
    (start setting countdown).Rested :=
  ⟨⟨rfl, rfl⟩, rfl, Bearer.numbered_start countdown⟩

/-- The reports are read off the events, piece by piece. -/
inductive ReadOff : List Report → List Event → Prop
  | nil : ReadOff [] []
  | cons (s : Session) (result : StepResult) {events later : List Event} {reports : List Report}
    (rest : ReadOff reports later) :
    ReadOff ((s.conclude result events).2 :: reports) (events ++ later)

/-- A session is a run, and its reports are read off the events of that run. -/
theorem exists_run {s : Session} (rested : s.Rested) (steps : List Step) :
    ∃ acts : List (Act (Option FailureCountdown)),
      (s.scene.run acts).1 = (s.run steps).1.scene ∧
        ReadOff (s.run steps).2 (s.scene.run acts).2 ∧ (s.run steps).1.Rested := by
  induction steps generalizing s with
  | nil => exact ⟨[], rfl, .nil, rested⟩
  | cons step steps ih =>
    obtain ⟨first, s', result, hstep, hscene, hrested⟩ := exists_run_step rested step
    -- to conclude a step changes nothing in the scene
    have hnext : (s.step step).1.Rested := by
      rw [hstep]
      exact ⟨hrested.resting, hrested.inbox, hrested.numbered⟩
    obtain ⟨later, hlater, hreports, hend⟩ := ih hnext
    have hsame : (s.step step).1.scene = (s.scene.run first).1 := by
      rw [hstep, hscene]
      rfl
    rw [hsame] at hlater hreports
    refine ⟨first ++ later, ?_, ?_, hend⟩
    · rw [Scene.run_append]
      exact hlater
    · have hruns : (s.run (step :: steps)).2 =
          (s'.conclude result (s.scene.run first).2).2 :: ((s.step step).1.run steps).2 := by
        rw [← hstep]
        rfl
      rw [Scene.run_append, hruns]
      exact .cons s' result hreports

end Session

end PacketBearer
