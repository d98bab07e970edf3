/-
What a bearer does without some of the radio's answers.

An answer that goes unheeded leaves nothing behind, and before it is handled nothing depends on it.
So a bearer does the same without the calls and the answers about some tasks, as long as those
answers would go unheeded.

* `Rule.ignored_or_awaited` — an answer goes unheeded, or it is current and the phase awaits it;
* `step_of_idle` — an act that deals with nothing but such answers changes nothing else;
* `step_overlooks` — every other act does the same whether there are such answers or not.
-/
import PacketBearer.Proofs.InFlight
import PacketBearer.Proofs.Serial

namespace PacketBearer

/-- Something goes unheeded, or one of these requests is given up. -/
def Event.isVain (u : ClientRequest → Bool) : Event → Bool
  | .ignored _ => true
  | .dropped request => u request
  | _ => false

/-- What shows of events besides. -/
def besides (u : ClientRequest → Bool) (events : List Event) : List Event :=
  events.filter (!·.isVain u)

/-- The mail is an answer about one of these tasks. -/
def Mail.isAbout (p : Task → Bool) (mail : Mail) : Bool := mail.task?.any p

section

variable {ι : Type}

/-- The controller without its answers about these tasks. -/
def Controller.without (p : Task → Bool) (m : Controller ι) : Controller ι :=
  m.withMailbox (m.mailbox.filter (!·.isAbout p))

/-- The bearer without the calls and the answers about these tasks. -/
def Bearer.without (p : Task → Bool) (b : Bearer ι) : Bearer ι :=
  { b with
    controller := b.controller.without p
    inbox := b.inbox.filter (!·.isAbout p)
    openCalls := b.openCalls.filter fun call => !p call.2.task }

namespace Scene

/-- The scene without the calls and the answers about these tasks. -/
def without (p : Task → Bool) (w : Scene ι) : Scene ι := w.withBearer (w.bearer.without p)

/-- The act is not possible, or deals with an answer about one of these tasks and nothing else. -/
def idles (p : Task → Bool) (w : Scene ι) : Act ι → Bool
  | .answer call _ => (w.bearer.openCalls.find? fun c => c.1 == call).all fun c => p c.2.task
  | .take => !decide w.Resting || w.bearer.inbox.head?.all (·.isAbout p)
  | .turn => match w.controller.mailbox with
    | mail :: _ => mail.isAbout p
    | [] => w.controller.outbox.isEmpty
  | .hear _ => !decide w.Resting
  | _ => false

end Scene

end

@[simp] theorem besides_append (u : ClientRequest → Bool) (first second : List Event) :
    besides u (first ++ second) = besides u first ++ besides u second :=
  List.filter_append _ _

theorem besides_eq_nil {u : ClientRequest → Bool} {events : List Event}
    (h : ∀ event ∈ events, event.isVain u = true) : besides u events = [] := by
  rw [besides, List.filter_eq_nil_iff]
  intro event hevent
  rw [h event hevent]
  exact Bool.false_ne_true

theorem Mail.isAbout_of_task? {p : Task → Bool} {mail : Mail} {task : Task}
    (h : mail.task? = some task) : mail.isAbout p = p task := by
  rw [isAbout, h, Option.any_some]

theorem Mail.isAbout_of_none {p : Task → Bool} {mail : Mail} (h : mail.task? = none) :
    mail.isAbout p = false := by
  rw [isAbout, h, Option.any_none]

theorem Mail.exists_task {p : Task → Bool} {mail : Mail} (h : mail.isAbout p = true) :
    ∃ task, mail.task? = some task ∧ p task = true :=
  (Option.any_eq_true p mail.task?).mp h

/-! ### Answers that go unheeded -/

section

variable {ι : Type} [Interceptor ι] {s : Setting}

/-- An answer goes unheeded, or it is current and the phase awaits it. -/
theorem Rule.ignored_or_awaited {c : Connection} {i : ι} {p : Phase} {mail : Mail}
    {r : Reaction ι} {task : Task} (h : Rule s c i p mail r) (reports : mail.task? = some task) :
    r = ignore c i mail ∧ ¬ (p.awaits task = true ∧ task.generation = c.generation) ∨
      p.awaits task = true ∧ task.generation = c.generation ∧
        ∀ kind, Event.ignored kind ∉ r.events := by
  cases h with
  | ignores reports' stale =>
    rw [reports'] at reports
    cases reports
    exact Or.inl ⟨rfl, stale⟩
  | waits busy request =>
    rw [Mail.task?_of_isRequest request] at reports
    cases reports
  | fails setback current =>
    right
    cases setback <;>
    · cases reports
      exact ⟨rfl, current, fun kind => List.not_mem_nil⟩
  | asks available vague current =>
    cases reports
    exact Or.inr ⟨rfl, current, fun kind => List.not_mem_nil⟩
  | accepts status agreed current =>
    cases reports
    exact Or.inr ⟨rfl, current, fun kind => List.not_mem_nil⟩
  | refuses status refused current =>
    cases reports
    exact Or.inr ⟨rfl, current, fun kind => List.not_mem_nil⟩
  | released awaited current =>
    cases reports
    exact Or.inr ⟨awaited, current, fun kind => List.not_mem_nil⟩
  | _ => cases reports

end

/-! ### What is left without such answers -/

section

variable {ι : Type} {s : Setting} {p q : Task → Bool} {u : ClientRequest → Bool}

/-- Answers that are taken away at last may be taken away before. -/
theorem filter_isAbout (mails : List Mail)
    (h : ∀ mail ∈ mails, ∀ task, mail.task? = some task → p task = true → q task = true) :
    (mails.filter (!·.isAbout p)).filter (!·.isAbout q) = mails.filter (!·.isAbout q) := by
  rw [List.filter_filter]
  refine List.filter_congr fun mail hmail => ?_
  cases htask : mail.task? with
  | none => rw [Mail.isAbout_of_none htask, Mail.isAbout_of_none htask]; rfl
  | some task =>
    rw [Mail.isAbout_of_task? htask, Mail.isAbout_of_task? htask]
    have himp := h mail hmail task htask
    cases hp : p task with
    | false => exact Bool.and_true _
    | true => rw [himp hp]; rfl

theorem filter_call (calls : List (Nat × Command))
    (h : ∀ call ∈ calls, p call.2.task = true → q call.2.task = true) :
    (calls.filter fun call => !p call.2.task).filter (fun call => !q call.2.task) =
      calls.filter fun call => !q call.2.task := by
  rw [List.filter_filter]
  refine List.filter_congr fun call hcall => ?_
  have himp := h call hcall
  cases hp : p call.2.task with
  | false => exact Bool.and_true _
  | true => rw [himp hp]; rfl

/-- The requests of these answers aside, mail carries the same requests. -/
theorem filterMap_request? (mails : List Mail)
    (given : ∀ task, p task = true → u task.request = true) :
    ((mails.filter (!·.isAbout p)).filterMap Mail.request?).filter (!u ·) =
      (mails.filterMap Mail.request?).filter (!u ·) := by
  induction mails with
  | nil => rfl
  | cons mail mails ih =>
    cases habout : mail.isAbout p with
    | false =>
      rw [List.filter_cons_of_pos (by rw [habout]; rfl), List.filterMap_cons, List.filterMap_cons]
      cases mail.request? with
      | none => exact ih
      | some request => rw [List.filter_cons, List.filter_cons, ih]
    | true =>
      rw [List.filter_cons_of_neg (by rw [habout]; exact Bool.false_ne_true), ih]
      obtain ⟨task, htask, hp⟩ := Mail.exists_task habout
      rw [List.filterMap_cons_some (Mail.request?_of_task? htask),
        List.filter_cons_of_neg (by rw [given task hp]; exact Bool.false_ne_true)]

/-- The requests of these answers aside, a controller gives up the same requests when it halts. -/
theorem Controller.dropped_without (m : Controller ι)
    (given : ∀ task, p task = true → u task.request = true) :
    besides u ((m.without p).requests.map Event.dropped) =
      besides u (m.requests.map Event.dropped) := by
  have hrequests : (m.without p).requests.filter (!u ·) = m.requests.filter (!u ·) := by
    simp only [requests, without, withMailbox, List.filterMap_append, List.filter_append,
      filterMap_request? m.mailbox given]
  rw [besides, besides, List.filter_map, List.filter_map]
  exact congrArg (List.map Event.dropped) hrequests

/-- A reaction does the same whether such answers wait behind the mail or not. -/
theorem Controller.after_without (s : Setting) (m : Controller ι) (mail : Mail) (r : Reaction ι)
    (given : ∀ task, p task = true → u task.request = true)
    (h : ∀ other ∈ m.mailbox, ∀ task, other.task? = some task → p task = true → q task = true) :
    ((m.without p).after s mail r).1.without q = (m.after s mail r).1.without q ∧
      besides u ((m.without p).after s mail r).2 = besides u (m.after s mail r).2 := by
  have hmails := filter_isAbout _ h
  rw [after, after]
  cases r.halt with
  | some halt =>
    -- all is dropped that the controller holds
    dsimp only
    rw [besides_append, besides_append, m.dropped_without given]
    exact ⟨rfl, rfl⟩
  | none =>
    cases r.next with
    | none =>
      refine ⟨?_, rfl⟩
      simp only [without, withMailbox, absorb, List.filter_append, hmails]
    | some next =>
      refine ⟨?_, rfl⟩
      simp only [without, withMailbox, absorb, move, List.filter_append, hmails]

namespace Bearer

variable {b : Bearer ι}

theorem mem_tasks_of_mailbox {mail : Mail} {task : Task} (mem : mail ∈ b.controller.mailbox)
    (reports : mail.task? = some task) : task ∈ b.tasks := by
  refine List.mem_append_right _ (List.mem_filterMap.mpr ⟨mail, ?_, reports⟩)
  exact List.mem_append_left _ (List.mem_append_left _ mem)

theorem mem_tasks_of_inbox {mail : Mail} {task : Task} (mem : mail ∈ b.inbox)
    (reports : mail.task? = some task) : task ∈ b.tasks :=
  List.mem_append_right _ (List.mem_filterMap.mpr ⟨mail, List.mem_append_right _ mem, reports⟩)

theorem mem_tasks_of_openCalls {call : Nat × Command} (mem : call ∈ b.openCalls) :
    call.2.task ∈ b.tasks :=
  List.mem_append_left _ (List.mem_append_right _ (List.mem_map.mpr ⟨call, mem, rfl⟩))

theorem without_without (h : ∀ task ∈ b.tasks, p task = true → q task = true) :
    (b.without p).without q = b.without q := by
  have hmailbox := filter_isAbout (p := p) (q := q) b.controller.mailbox
    fun mail hmail task htask => h task (mem_tasks_of_mailbox hmail htask)
  have hinbox := filter_isAbout (p := p) (q := q) b.inbox
    fun mail hmail task htask => h task (mem_tasks_of_inbox hmail htask)
  have hcalls := filter_call (p := p) (q := q) b.openCalls
    fun call hcall => h _ (mem_tasks_of_openCalls hcall)
  simp only [without, Controller.without, Controller.withMailbox, hmailbox, hinbox, hcalls]

theorem send_without (b : Bearer ι) (mail : Mail) :
    ((b.without p).send [mail]).without p = (b.send [mail]).without p := by
  simp [without, send, Controller.without, Controller.withMailbox]

theorem accept_without (b : Bearer ι) (mail : Mail) :
    ((b.without p).accept mail).1.without p = (b.accept mail).1.without p ∧
      ((b.without p).accept mail).2 = (b.accept mail).2 := by
  have hhalted : (b.without p).isHalted = b.isHalted := rfl
  rw [accept, accept, hhalted]
  split
  · exact ⟨b.without_without fun task _ hp => hp, rfl⟩
  · refine ⟨?_, rfl⟩
    simp [without, withController, Controller.without, Controller.withMailbox, Controller.post]

theorem close_without (b : Bearer ι) (call : Nat) :
    (b.without p).close call = (b.close call).without p := by
  simp only [without, close]
  rw [List.filter_comm]

theorem dispatch_without (s : Setting) (b : Bearer ι) (command : Command) :
    ((b.without p).dispatch s command).1.without p = (b.dispatch s command).1.without p ∧
      ((b.without p).dispatch s command).2 = (b.dispatch s command).2 := by
  rw [dispatch.eq_def, dispatch.eq_def]
  split
  · refine ⟨?_, rfl⟩
    simp [without, Controller.without, Controller.withMailbox, Controller.post]
  · refine ⟨?_, rfl⟩
    simp [without, Controller.without, Controller.withMailbox, call]

/-- To carry out commands does the same whether there are such calls and answers or not. -/
theorem dispatchAll_without (s : Setting) (b : Bearer ι) (commands : List Command) :
    ((b.without p).dispatchAll s commands).1.without p = (b.dispatchAll s commands).1.without p ∧
      ((b.without p).dispatchAll s commands).2 = (b.dispatchAll s commands).2 := by
  induction commands generalizing b with
  | nil => exact ⟨b.without_without fun task _ hp => hp, rfl⟩
  | cons command commands ih =>
    obtain ⟨hfirst, hevents⟩ := b.dispatch_without (p := p) s command
    obtain ⟨hleft, hleft'⟩ := ih ((b.without p).dispatch s command).1
    obtain ⟨hright, hright'⟩ := ih (b.dispatch s command).1
    rw [hfirst] at hleft hleft'
    refine ⟨hleft.symm.trans hright, ?_⟩
    rw [dispatchAll, dispatchAll]
    dsimp only
    rw [hevents, ← hleft', hright']

end Bearer

end

/-! ### Acts -/

namespace Scene

section

variable {ι : Type} {p q : Task → Bool} {u : ClientRequest → Bool} {w : Scene ι}

/-- The answer to such a call is such an answer, and comes in its place. -/
theorem without_of_answered {call : Nat} {given : RadioAnswers} {command : Command} {mail : Mail}
    (numbered : w.bearer.Numbered) (isOpen : (call, command) ∈ w.bearer.openCalls)
    (ready : command.completion? given = some mail) (about : p command.task = true) :
    ({ w with bearer := w.bearer.close call }.send mail).without p = w.without p := by
  have hmail : mail.isAbout p = true := by
    rw [Mail.isAbout_of_task? (Command.task?_completion ready), about]
  have hcalls : (w.bearer.openCalls.filter fun c => c.1 ≠ call).filter (fun c => !p c.2.task) =
      w.bearer.openCalls.filter fun c => !p c.2.task := by
    rw [List.filter_filter]
    refine List.filter_congr fun other hother => ?_
    by_cases hnumber : other.1 = call
    · have hsame : other = (call, command) :=
        List.inj_on_of_nodup_map numbered.nodup hother isOpen hnumber
      rw [hsame, about]
      rfl
    · rw [decide_eq_true hnumber, Bool.and_true]
  simp only [without, withBearer, send, Bearer.without, Bearer.close, Bearer.send,
    List.filter_append, hcalls]
  rw [List.filter_cons_of_neg (by rw [hmail]; exact Bool.false_ne_true), List.filter_nil,
    List.append_nil]

variable [Interceptor ι]

/-- All that is left of an answer of the past is that it went unheeded. -/
theorem without_of_handled {mail : Mail} {rest : List Mail} {r : Reaction ι} {task : Task}
    (first : w.controller.mailbox = mail :: rest)
    (rule : Rule w.setting w.controller.connection w.controller.interceptor w.controller.phase
      mail r)
    (reports : mail.task? = some task) (about : p task = true)
    (past : task.generation ≠ w.controller.connection.generation)
    (given : u task.request = true) :
    (w.withController ((w.controller.withMailbox rest).after w.setting mail r).1).without p =
        w.without p ∧
      besides u ((w.controller.withMailbox rest).after w.setting mail r).2 = [] := by
  rcases rule.ignored_or_awaited reports with ⟨rfl, -⟩ | ⟨-, hcurrent, -⟩
  · refine ⟨?_, besides_eq_nil fun event hevent => ?_⟩
    · have hmail : mail.isAbout p = true := by
        rw [Mail.isAbout_of_task? reports, about]
      simp only [controller] at first
      simp [without, withBearer, withController, Bearer.without, Bearer.withController,
        Controller.after, ignore, Controller.absorb, Controller.without, Controller.withMailbox,
        first, hmail]
    · rcases List.mem_cons.mp hevent with rfl | hdropped
      · rfl
      · rw [Mail.request?_of_task? reports] at hdropped
        rw [List.mem_singleton.mp hdropped]
        exact given
  · exact absurd hcurrent past

theorem take_of_idle (given : ∀ task, p task = true → u task.request = true)
    (idle : w.idles p .take = true) :
    (w.step .take).1.without p = w.without p ∧ besides u (w.step .take).2 = [] := by
  by_cases hrests : w.Resting
  · cases hinbox : w.bearer.inbox with
    | nil =>
      rw [step_take_of_nil hinbox]
      exact ⟨rfl, rfl⟩
    | cons mail rest =>
      rw [idles, decide_eq_true hrests, hinbox] at idle
      have hmail : mail.isAbout p = true := idle
      rw [step_take hrests hinbox, Bearer.accept]
      split
      · refine ⟨?_, besides_eq_nil fun event hevent => ?_⟩
        · simp [without, withBearer, Bearer.without, Bearer.withInbox, hinbox, hmail]
        · obtain ⟨task, htask, hp⟩ := Mail.exists_task hmail
          rw [Mail.request?_of_task? htask] at hevent
          rw [List.mem_singleton.mp hevent]
          exact given task hp
      · refine ⟨?_, rfl⟩
        obtain ⟨hmailbox, -⟩ := hrests
        simp only [controller] at hmailbox
        simp [without, withBearer, Bearer.without, Bearer.withController, Bearer.withInbox,
          Controller.without, Controller.withMailbox, Controller.post, hmailbox, hinbox, hmail]
  · rw [step_take_of_busy hrests]
    exact ⟨rfl, rfl⟩

/-- An act that deals with nothing but such answers changes nothing else. -/
theorem step_of_idle {act : Act ι} (numbered : w.bearer.Numbered)
    (past : ∀ mail ∈ w.controller.mailbox, ∀ task, mail.task? = some task → p task = true →
      task.generation ≠ w.controller.connection.generation)
    (given : ∀ task, p task = true → u task.request = true) (idle : w.idles p act = true) :
    (w.step act).1.without p = w.without p ∧ besides u (w.step act).2 = [] := by
  by_cases htake : act = .take
  · rw [htake] at idle ⊢
    exact take_of_idle given idle
  · have hchange := w.change_step act
    generalize w.step act = after at hchange
    obtain ⟨w', events⟩ := after
    cases hchange with
    | still => exact ⟨rfl, rfl⟩
    | asked | inquired | stopSent | switched | trackerClosed | rearmed => cases idle
    | taken | refused => exact absurd rfl htake
    | heard result resting _ =>
      rw [idles, decide_eq_true resting] at idle
      cases idle
    | @answered call given command mail isOpen ready =>
      rw [idles, numbered.find? isOpen, Option.all_some] at idle
      exact ⟨without_of_answered numbered isOpen ready idle, rfl⟩
    | @handled mail rest r first rule =>
      rw [idles, first] at idle
      dsimp only at idle
      cases htask : mail.task? with
      | none =>
        rw [Mail.isAbout_of_none htask] at idle
        cases idle
      | some task =>
        rw [Mail.isAbout_of_task? htask] at idle
        refine without_of_handled first rule htask idle ?_ (given task idle)
        exact past mail (by rw [first]; exact List.mem_cons_self) task htask idle
    | dispatched empty =>
      rw [idles, empty] at idle
      have hout : w.controller.outbox = [] := List.isEmpty_iff.mp idle
      rw [hout]
      refine ⟨?_, rfl⟩
      simp only [controller] at hout
      simp [without, withBearer, Bearer.dispatchAll, Bearer.clearOutbox, Bearer.without,
        Controller.without, Controller.withMailbox, hout]

omit [Interceptor ι] in
/-- An open call that is another one's is found without these. -/
theorem find?_without {call : Nat} {found : Nat × Command}
    (isOpen : w.bearer.openCalls.find? (fun c => c.1 == call) = some found)
    (other : p found.2.task = false) :
    (w.without p).bearer.openCalls.find? (fun c => c.1 == call) = some found := by
  obtain ⟨hnumber, before, after, hcalls, hbefore⟩ := List.find?_eq_some_iff_append.mp isOpen
  refine List.find?_eq_some_iff_append.mpr ⟨hnumber,
    before.filter fun c => !p c.2.task, after.filter fun c => !p c.2.task, ?_, ?_⟩
  · show w.bearer.openCalls.filter _ = _
    rw [hcalls, List.filter_append, List.filter_cons_of_pos (by rw [other]; rfl)]
  · intro earlier hearlier
    exact hbefore earlier (List.mem_filter.mp hearlier).1

omit [Interceptor ι] in
/-- A bearer that rests does so without these answers. -/
theorem Resting.without (resting : w.Resting) (p : Task → Bool) : (w.without p).Resting := by
  refine ⟨?_, resting.2⟩
  show w.controller.mailbox.filter _ = []
  rw [resting.1, List.filter_nil]

omit [Interceptor ι] in
/-- Scenes are the same without these answers if their bearers are, and all else is the same. -/
theorem without_eq {v v' : Scene ι} (same : ∀ b, v.withBearer b = v'.withBearer b)
    (bearer : v.bearer.without p = v'.bearer.without p) : v.without p = v'.without p := by
  rw [without, without, bearer, same]

/-- An act does the same whether there are such answers or not. -/
def Overlooks (p : Task → Bool) (u : ClientRequest → Bool) (w : Scene ι) (act : Act ι) : Prop :=
  (w.step act).1.without p = ((w.without p).step act).1.without p ∧
    besides u (w.step act).2 = besides u ((w.without p).step act).2

theorem answer_overlooks {call : Nat} {given : RadioAnswers}
    (other : w.idles p (.answer call given) = false) : w.Overlooks p u (.answer call given) := by
  rw [idles] at other
  cases hfind : w.bearer.openCalls.find? fun c => c.1 == call with
  | none =>
    rw [hfind] at other
    cases other
  | some found =>
    obtain ⟨number, command⟩ := found
    rw [hfind] at other
    have hfind' := find?_without hfind other
    cases hready : command.completion? given with
    | none =>
      rw [Overlooks, step, step, hfind, hfind']
      dsimp only
      rw [hready]
      exact ⟨without_eq (fun b => rfl) (Bearer.without_without fun _ _ h => h).symm, rfl⟩
    | some mail =>
      rw [Overlooks, step_answer hfind hready, step_answer hfind' hready]
      refine ⟨without_eq (fun b => rfl) ?_, rfl⟩
      show ((w.bearer.close call).send [mail]).without p =
        (((w.bearer.without p).close call).send [mail]).without p
      rw [Bearer.close_without, Bearer.send_without]

theorem take_overlooks (other : w.idles p .take = false) : w.Overlooks p u .take := by
  rw [idles, Bool.or_eq_false_iff, Bool.not_eq_false', decide_eq_true_iff] at other
  obtain ⟨hrests, hhead⟩ := other
  cases hinbox : w.bearer.inbox with
  | nil =>
    rw [hinbox] at hhead
    cases hhead
  | cons mail rest =>
    rw [hinbox] at hhead
    have hinbox' : (w.without p).bearer.inbox = mail :: rest.filter (!·.isAbout p) := by
      show w.bearer.inbox.filter _ = _
      rw [hinbox]
      exact List.filter_cons_of_pos (by rw [show mail.isAbout _ = false from hhead]; rfl)
    rw [Overlooks, step_take hrests hinbox, step_take (hrests.without p) hinbox']
    obtain ⟨hbearer, hevents⟩ := (w.bearer.withInbox rest).accept_without (p := p) mail
    exact ⟨without_eq (fun b => rfl) hbearer.symm, congrArg (besides u) hevents.symm⟩

/-- The controller reacts to a piece of mail, and not to what waits behind it.  More answers may be
left out after the reaction than before. -/
theorem turn_without {mail : Mail} {rest : List Mail} (first : w.controller.mailbox = mail :: rest)
    (given : ∀ task, p task = true → u task.request = true) (other : w.idles p .turn = false)
    (grows : ∀ task ∈ w.bearer.tasks, p task = true → q task = true) :
    (w.step .turn).1.without q = ((w.without p).step .turn).1.without q ∧
      besides u (w.step .turn).2 = besides u ((w.without p).step .turn).2 := by
  rw [idles, first] at other
  have first' : (w.without p).controller.mailbox = mail :: rest.filter (!·.isAbout p) := by
    show w.controller.mailbox.filter _ = _
    rw [first]
    exact List.filter_cons_of_pos (by rw [show mail.isAbout _ = false from other]; rfl)
  obtain ⟨r, hr, -, hstep⟩ := step_turn first
  obtain ⟨r', hr', -, hstep'⟩ := step_turn first'
  obtain rfl : r = r' := hr.symm.trans hr'
  have hrest : ∀ other ∈ rest, ∀ task, other.task? = some task → p task = true → q task = true := by
    intro other hother task htask
    have hmem : other ∈ w.controller.mailbox := first ▸ List.mem_cons_of_mem mail hother
    exact grows task (Bearer.mem_tasks_of_mailbox hmem htask)
  obtain ⟨hcontroller, hevents⟩ :=
    (w.controller.withMailbox rest).after_without w.setting mail r given hrest
  have hbearer := Bearer.without_without grows
  rw [hstep, hstep']
  refine ⟨without_eq (fun b => rfl) ?_, hevents.symm⟩
  -- outside its controller a bearer is as it was
  have hall := congrArg₂ Bearer.withController hbearer hcontroller
  exact hall.symm

theorem dispatch_overlooks (empty : w.controller.mailbox = [])
    (other : w.idles p .turn = false) : w.Overlooks p u .turn := by
  rw [idles, empty] at other
  have hout : w.controller.outbox ≠ [] := List.isEmpty_eq_false_iff.mp other
  have empty' : (w.without p).controller.mailbox = [] := by
    show w.controller.mailbox.filter _ = []
    rw [empty, List.filter_nil]
  obtain ⟨hbearer, hevents⟩ :=
    w.bearer.clearOutbox.dispatchAll_without (p := p) w.setting w.controller.outbox
  rw [Overlooks, step, step, Bearer.turn_of_nil empty hout, Bearer.turn_of_nil empty' hout]
  exact ⟨without_eq (fun b => rfl) hbearer.symm, congrArg (besides u) hevents.symm⟩

/-- An act that deals with something else does the same whether there are such answers or not. -/
theorem step_overlooks {act : Act ι} (given : ∀ task, p task = true → u task.request = true)
    (other : w.idles p act = false) : w.Overlooks p u act := by
  have hagain : (w.bearer.without p).without p = w.bearer.without p :=
    Bearer.without_without fun _ _ h => h
  cases act with
  | ask wish =>
    have hsent := w.bearer.send_without (p := p) (w.mailOf wish)
    cases wish <;> exact ⟨without_eq (fun b => rfl) hsent.symm, rfl⟩
  | inquire inquiry =>
    have hsent := w.bearer.send_without (p := p) (.inquiry w.inquiries inquiry)
    exact ⟨without_eq (fun b => rfl) hsent.symm, rfl⟩
  | stop =>
    have hsent := w.bearer.send_without (p := p) .stop
    exact ⟨without_eq (fun b => rfl) hsent.symm, rfl⟩
  | hear result =>
    rw [idles, Bool.not_eq_false', decide_eq_true_iff] at other
    obtain ⟨hbearer, hevents⟩ := w.bearer.accept_without (p := p) (.radioConnected result)
    rw [Overlooks, step_hear other, step_hear (other.without p)]
    exact ⟨without_eq (fun b => rfl) hbearer.symm, congrArg (besides u) hevents.symm⟩
  | answer call given => exact answer_overlooks other
  | take => exact take_overlooks other
  | turn =>
    cases hmailbox : w.controller.mailbox with
    | cons mail rest => exact turn_without hmailbox given other fun _ _ h => h
    | nil => exact dispatch_overlooks hmailbox other
  | switchRadio | closeTracker => exact ⟨without_eq (fun b => rfl) hagain.symm, rfl⟩
  | rearm interceptor =>
    have hrearmed := congrArg (fun b => b.withController { b.controller with interceptor })
      hagain.symm
    exact ⟨without_eq (fun b => rfl) hrearmed, rfl⟩

end

end Scene

end PacketBearer
