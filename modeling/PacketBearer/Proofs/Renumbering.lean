/-
Generations and calls, numbered from elsewhere.

A bearer compares generations and hands out the numbers of calls, but it does nothing else with
either.  So it does the same where some generations and some calls have come before, and its
generations and calls are only numbered later.

* `Renumbering` — how many generations and how many calls have come before;
* `react_later`, `step_later` — what has come before makes no difference to a reaction, nor to an
  act.

Design notes: a request that no bearer has admitted is of generation zero, and so it stays.
-/
import PacketBearer.Proofs.Generation

namespace PacketBearer

/-- How many generations and how many calls have come before. -/
structure Renumbering where
  generations : UInt64
  calls : Nat

/-- The number of a generation; zero stands for none. -/
def Renumbering.generation (ρ : Renumbering) (g : UInt64) : UInt64 :=
  if g = 0 then 0 else g + ρ.generations

/-- A generation that has a number after those that have come before, of which there is one at
least. -/
structure Renumbering.HasRoom (ρ : Renumbering) (g : UInt64) : Prop where
  some : g ≠ 0
  before : ρ.generations ≠ 0
  bound : g.toNat + ρ.generations.toNat < 2 ^ 64

/-! ### What is numbered -/

section

variable (ρ : Renumbering)

def BringUp.later (request : BringUp) : BringUp :=
  { request with generation := ρ.generation request.generation }

def TearDown.later (request : TearDown) : TearDown :=
  { request with generation := ρ.generation request.generation }

def ClientRequest.later : ClientRequest → ClientRequest
  | bringUp request => .bringUp (request.later ρ)
  | tearDown request => .tearDown (request.later ρ)

def ReleasePurpose.later : ReleasePurpose → ReleasePurpose
  | tearDown request => .tearDown (request.later ρ)
  | cleanUp request => .cleanUp (request.later ρ)

def Command.later : Command → Command
  | setUp order request => .setUp order (request.later ρ)
  | lastCause request => .lastCause (request.later ρ)
  | release id reason purpose => .release id reason (purpose.later ρ)

def Task.later : Task → Task
  | setUp request => .setUp (request.later ρ)
  | lastCause request => .lastCause (request.later ρ)
  | release purpose => .release (purpose.later ρ)

def Mail.later : Mail → Mail
  | bringUp request => .bringUp (request.later ρ)
  | tearDown request => .tearDown (request.later ρ)
  | setUpDone request result => .setUpDone (request.later ρ) result
  | lastCauseDone request result => .lastCauseDone (request.later ρ) result
  | releaseDone purpose => .releaseDone (purpose.later ρ)
  | radioConnected result => .radioConnected result
  | inquiry number question => .inquiry number question
  | stop => .stop

def Event.later : Event → Event
  | handled phase request => .handled phase (request.later ρ)
  | broughtUp request outcome => .broughtUp (request.later ρ) outcome
  | tornDown request => .tornDown (request.later ρ)
  | dropped request => .dropped (request.later ρ)
  | called call command => .called (call + ρ.calls) (command.later ρ)
  | deferred kind => .deferred kind
  | ignored kind => .ignored kind
  | moved source target => .moved source target
  | notice loss => .notice loss
  | answered number answer => .answered number answer

def Arrival.later : Arrival → Arrival
  | quiet => .quiet
  | succeeded request => .succeeded (request.later ρ)
  | failed request failure => .failed (request.later ρ) failure
  | tornDown request => .tornDown (request.later ρ)

def Connection.later (c : Connection) : Connection :=
  { c with generation := ρ.generation c.generation }

variable {ι : Type}

def Reaction.later (r : Reaction ι) : Reaction ι :=
  { r with
    connection := r.connection.later ρ
    posts := r.posts.map (·.later ρ)
    commands := r.commands.map (·.later ρ)
    events := r.events.map (·.later ρ)
    next := r.next.map fun next => (next.1, next.2.later ρ) }

def Controller.later (m : Controller ι) : Controller ι :=
  { m with
    connection := m.connection.later ρ
    mailbox := m.mailbox.map (·.later ρ)
    deferred := m.deferred.map (·.later ρ)
    outbox := m.outbox.map (·.later ρ) }

def Bearer.later (b : Bearer ι) : Bearer ι where
  controller := b.controller.later ρ
  inbox := b.inbox.map (·.later ρ)
  openCalls := b.openCalls.map fun call => (call.1 + ρ.calls, call.2.later ρ)
  calls := b.calls + ρ.calls

def Scene.later (w : Scene ι) : Scene ι := { w with bearer := w.bearer.later ρ }

def Act.later : Act ι → Act ι
  | answer call given => .answer (call + ρ.calls) given
  | act => act

end

section

variable {ρ : Renumbering}

theorem Renumbering.HasRoom.pos {g : UInt64} (h : ρ.HasRoom g) :
    0 < g.toNat ∧ 0 < ρ.generations.toNat := by
  constructor
  · exact Nat.pos_of_ne_zero fun hzero => h.some (UInt64.toNat_inj.mp hzero)
  · exact Nat.pos_of_ne_zero fun hzero => h.before (UInt64.toNat_inj.mp hzero)

theorem Renumbering.HasRoom.generation_eq {g : UInt64} (h : ρ.HasRoom g) :
    ρ.generation g = g + ρ.generations := if_neg h.some

theorem Renumbering.HasRoom.toNat_generation {g : UInt64} (h : ρ.HasRoom g) :
    (ρ.generation g).toNat = g.toNat + ρ.generations.toNat := by
  have hbound := h.bound
  rw [h.generation_eq, UInt64.toNat_add]
  omega

/-- Generations that are told apart are still told apart. -/
theorem Renumbering.HasRoom.eq_iff {g : UInt64} (h : ρ.HasRoom g) (other : UInt64) :
    ρ.generation other = ρ.generation g ↔ other = g := by
  constructor
  · intro heq
    by_cases hother : other = 0
    · -- what has room does not come round to zero
      have hzero : ρ.generation other = 0 := if_pos hother
      have hnat := congrArg UInt64.toNat (hzero.symm.trans heq)
      have hnone : (0 : UInt64).toNat = 0 := rfl
      have hpos := h.pos
      rw [h.toNat_generation, hnone] at hnat
      omega
    · rw [h.generation_eq, generation, if_neg hother] at heq
      exact (UInt64.add_left_inj _).mp heq
  · rintro rfl
    rfl

/-- There is a generation after one that has room. -/
theorem Renumbering.HasRoom.generation_succ {g : UInt64} (h : ρ.HasRoom g) :
    ρ.generation (g + 1) = ρ.generation g + 1 := by
  have hnext : g + 1 ≠ 0 := by
    intro hzero
    have hnat := congrArg UInt64.toNat hzero
    have hone : (1 : UInt64).toNat = 1 := rfl
    have hnone : (0 : UInt64).toNat = 0 := rfl
    have hbound := h.bound
    have hpos := h.pos
    rw [UInt64.toNat_add, hone, hnone] at hnat
    omega
  rw [h.generation_eq, generation, if_neg hnext, UInt64.add_assoc, UInt64.add_assoc,
    UInt64.add_comm 1 ρ.generations]

theorem Mail.kind_later (mail : Mail) : (mail.later ρ).kind = mail.kind := by
  cases mail <;> rfl

theorem Mail.request?_later (mail : Mail) :
    (mail.later ρ).request? = mail.request?.map (·.later ρ) := by
  cases mail with
  | releaseDone purpose => cases purpose <;> rfl
  | _ => rfl

theorem Command.request_later (command : Command) :
    (command.later ρ).request = command.request.later ρ := by
  cases command with
  | release id reason purpose => cases purpose <;> rfl
  | _ => rfl

theorem Command.task_later (command : Command) :
    (command.later ρ).task = command.task.later ρ := by
  cases command <;> rfl

theorem Mail.task?_later (mail : Mail) : (mail.later ρ).task? = mail.task?.map (·.later ρ) := by
  cases mail <;> rfl

theorem Command.completion?_later (given : RadioAnswers) (command : Command) :
    (command.later ρ).completion? given = (command.completion? given).map (·.later ρ) := by
  cases command with
  | setUp | lastCause | release =>
    simp only [later, completion?, Option.map_map]
    rfl

/-! ### Reactions -/

section

variable {ι : Type} (s : Setting) (c : Connection) (i : ι)

theorem ignore_later (mail : Mail) :
    ignore (c.later ρ) i (mail.later ρ) = (ignore c i mail).later ρ := by
  simp only [ignore, Reaction.later, Mail.kind_later, Mail.request?_later]
  cases mail.request? <;> rfl

theorem updateLink_later (reply : SetupReply) :
    (c.later ρ).updateLink s reply =
      ((c.updateLink s reply).1, (c.updateLink s reply).2.later ρ) := by
  have hfallback : s.fallback (c.later ρ) reply.interface = s.fallback c reply.interface := rfl
  simp only [Connection.updateLink, hfallback]
  split
  · cases negotiate reply (s.fallback c reply.interface) <;> rfl
  · rfl

theorem onSetUpDone_later (request : BringUp) (result : Except RadioError SetupReply) :
    onSetUpDone s (c.later ρ) i (request.later ρ) result =
      (onSetUpDone s c i request result).later ρ := by
  cases result with
  | error error =>
    cases error with
    | rejected reply =>
      simp only [onSetUpDone]
      split
      · rfl
      · rfl
    | _ => rfl
  | ok reply =>
    simp only [onSetUpDone, updateLink_later]
    split
    · rfl
    · rfl
    · rfl

theorem leave_later (request : TearDown) :
    leave (c.later ρ) i (request.later ρ) = (leave c i request).later ρ := by
  have hclients : (c.later ρ).clients = c.clients := rfl
  have hclient : (request.later ρ).client = request.client := rfl
  simp only [leave, hclients, hclient]
  cases request.client with
  | none => rfl
  | some client =>
    dsimp only
    split
    · rfl
    · split
      · rfl
      · rfl

variable [Interceptor ι]

theorem launch_later (request : BringUp) :
    launch s (c.later ρ) i (request.later ρ) = (launch s c i request).later ρ := by
  have hpoint : (request.later ρ).accessPoint = request.accessPoint := rfl
  have hversion : (c.later ρ).radioVersion = c.radioVersion := rfl
  simp only [launch, hpoint, hversion]
  split
  · rfl
  · split
    · rfl
    · rfl

/-- What has come before makes no difference to a reaction. -/
theorem react_later (room : ρ.HasRoom c.generation) (p : Phase) (mail : Mail) :
    react s p (c.later ρ) i (mail.later ρ) = (react s p c i mail).later ρ := by
  have hgeneration : ∀ g, ρ.generation g = (c.later ρ).generation ↔ g = c.generation :=
    room.eq_iff
  cases mail with
  | bringUp request =>
    cases p with
    | idle => exact launch_later s c i request
    | up | settingUp | releasing | cleaningUp => rfl
  | tearDown request =>
    cases p with
    | up => exact leave_later c i request
    | idle | settingUp | releasing | cleaningUp => rfl
  | setUpDone request result =>
    have hstamp : (request.later ρ).generation = (c.later ρ).generation ↔
      request.generation = c.generation := hgeneration _
    simp only [Mail.later, react, hstamp]
    split
    · exact onSetUpDone_later s c i request result
    · exact ignore_later c i (.setUpDone request result)
  | lastCauseDone request result =>
    have hstamp : (request.later ρ).generation = (c.later ρ).generation ↔
      request.generation = c.generation := hgeneration _
    simp only [Mail.later, react, hstamp]
    split
    · cases result <;> rfl
    · exact ignore_later c i (.lastCauseDone request result)
  | releaseDone purpose =>
    have hstamp : (purpose.later ρ).generation = (c.later ρ).generation ↔
        purpose.generation = c.generation := by
      cases purpose <;> exact hgeneration _
    simp only [Mail.later, react, hstamp]
    split
    · cases purpose <;> rfl
    · exact ignore_later c i (.releaseDone purpose)
  | radioConnected result => rfl
  | inquiry number question =>
    have hanswer : (c.later ρ).answer s p question =
        ((c.answer s p question).1, (c.answer s p question).2.later ρ) := by
      cases question with
      | updateLink reply => simp only [Connection.answer, updateLink_later]
      | _ => rfl
    simp only [Mail.later, react, hanswer]
    split <;> rfl
  | stop => rfl

end

/-! ### The controller and the bearer -/

section

variable {ι : Type} (s : Setting)

theorem lossNotices_later (request : TearDown) :
    s.lossNotices (request.later ρ) = (s.lossNotices request).map (·.later ρ) := by
  have hsame : s.lossNotices (request.later ρ) = s.lossNotices request := rfl
  rw [hsame, List.map_congr_left (g := id), List.map_id]
  intro event hevent
  obtain ⟨notice, rfl⟩ := notice_of_mem_lossNotices hevent
  rfl

theorem Connection.enter_later (c : Connection) (target : Phase) (arrival : Arrival)
    (room : ρ.HasRoom c.generation) :
    (c.later ρ).enter s target (arrival.later ρ) =
      ((c.enter s target arrival).1.later ρ, (c.enter s target arrival).2.map (·.later ρ)) := by
  cases target with
  | idle =>
    have hrecord : { (c.later ρ).wiped with generation := (c.later ρ).generation + 1 } =
        Connection.later ρ { c.wiped with generation := c.generation + 1 } := by
      have hsucc := room.generation_succ
      simp only [later, wiped, hsucc]
    simp only [enter, hrecord]
    cases arrival with
    | tornDown request => exact congrArg (Prod.mk _ ∘ List.cons _) (lossNotices_later s request)
    | quiet | succeeded | failed => rfl
  | up => cases arrival <;> rfl
  | settingUp | releasing | cleaningUp => cases arrival <;> rfl

theorem Controller.requests_later (m : Controller ι) :
    (m.later ρ).requests = m.requests.map (·.later ρ) := by
  simp only [requests, later, List.map_append, List.map_map, List.filterMap_append,
    List.filterMap_map, List.map_filterMap, Function.comp_def, Mail.request?_later,
    Command.request_later]

theorem Controller.absorb_later (m : Controller ι) (mail : Mail) (r : Reaction ι) :
    (m.later ρ).absorb (mail.later ρ) (r.later ρ) = (m.absorb mail r).later ρ := by
  have hwaits : (if (r.later ρ).waits then [mail.later ρ] else []) =
      (if r.waits then [mail] else []).map (·.later ρ) := by
    cases hwait : r.waits <;> simp [Reaction.later, hwait]
  simp only [absorb, later, List.map_append, hwaits]
  rfl

theorem Controller.move_later (m : Controller ι) (target : Phase) (arrival : Arrival)
    (room : ρ.HasRoom m.connection.generation) :
    (m.later ρ).move s target (arrival.later ρ) =
      ((m.move s target arrival).1.later ρ, (m.move s target arrival).2.map (·.later ρ)) := by
  have hentered : (m.later ρ).connection.enter s target (arrival.later ρ) = _ :=
    m.connection.enter_later s target arrival room
  simp only [move, hentered]
  simp only [later, List.map_append, List.map_cons, List.map_nil]
  rfl

/-- What has come before makes no difference to what a reaction leaves. -/
theorem Controller.after_later (m : Controller ι) (mail : Mail) (r : Reaction ι)
    (room : ρ.HasRoom r.connection.generation) :
    (m.later ρ).after s (mail.later ρ) (r.later ρ) =
      ((m.after s mail r).1.later ρ, (m.after s mail r).2.map (·.later ρ)) := by
  rw [after, after, absorb_later, show (r.later ρ).halt = r.halt from rfl,
    show (r.later ρ).next = r.next.map fun next => (next.1, next.2.later ρ) from rfl]
  cases r.halt with
  | some halt =>
    simp only [requests_later, List.map_append, List.map_map]
    rfl
  | none =>
    cases r.next with
    | none => rfl
    | some target =>
      have hmoved := (m.absorb mail r).move_later s target.1 target.2 room
      simp only [Option.map_some, hmoved, List.map_append]
      rfl

namespace Bearer

theorem send_later (b : Bearer ι) (mail : Mail) :
    (b.later ρ).send [mail.later ρ] = (b.send [mail]).later ρ := by
  simp only [send, later, List.map_append, List.map_cons, List.map_nil]

theorem accept_later (b : Bearer ι) (mail : Mail) :
    (b.later ρ).accept (mail.later ρ) =
      ((b.accept mail).1.later ρ, (b.accept mail).2.map (·.later ρ)) := by
  rw [accept, accept, show (b.later ρ).isHalted = b.isHalted from rfl, Mail.request?_later]
  split
  · cases mail.request? <;> rfl
  · simp only [withController, later, Controller.later, Controller.post, List.map_append,
      List.map_cons, List.map_nil]

theorem close_later (b : Bearer ι) (call : Nat) :
    (b.later ρ).close (call + ρ.calls) = (b.close call).later ρ := by
  have hcalls : ∀ c : Nat × Command, (decide (c.1 + ρ.calls ≠ call + ρ.calls)) =
      decide (c.1 ≠ call) := by
    intro c
    simp only [ne_eq, Nat.add_right_cancel_iff]
  simp only [close, later, List.filter_map, Function.comp_def, hcalls]

theorem dispatch_later (b : Bearer ι) (command : Command) :
    (b.later ρ).dispatch s (command.later ρ) =
      ((b.dispatch s command).1.later ρ, (b.dispatch s command).2.map (·.later ρ)) := by
  have hcall : (b.later ρ).call (command.later ρ) =
      ((b.call command).1.later ρ, (b.call command).2.map (·.later ρ)) := by
    simp only [call, later, List.map_append, List.map_cons, List.map_nil, Nat.add_right_comm]
    rfl
  cases command with
  | setUp | lastCause => exact hcall
  | release id reason purpose =>
    simp only [Command.later, dispatch]
    cases s.radioOn with
    | true => exact hcall
    | false =>
      simp only [later, Controller.later, Controller.post, List.map_append, List.map_cons,
        List.map_nil]
      rfl

/-- What has come before makes no difference to carrying out commands. -/
theorem dispatchAll_later (b : Bearer ι) (commands : List Command) :
    (b.later ρ).dispatchAll s (commands.map (·.later ρ)) =
      ((b.dispatchAll s commands).1.later ρ,
        (b.dispatchAll s commands).2.map (·.later ρ)) := by
  induction commands generalizing b with
  | nil => rfl
  | cons command commands ih =>
    simp only [List.map_cons, dispatchAll, dispatch_later, ih, List.map_append]

end Bearer

end

/-! ### Acts -/

namespace Scene

variable {ι : Type}

theorem find?_later (w : Scene ι) (call : Nat) :
    (w.later ρ).bearer.openCalls.find? (fun c => c.1 == call + ρ.calls) =
      (w.bearer.openCalls.find? fun c => c.1 == call).map
        fun c => (c.1 + ρ.calls, c.2.later ρ) := by
  have hcalls : ∀ c : Nat × Command, (c.1 + ρ.calls == call + ρ.calls) = (c.1 == call) := by
    intro c
    rw [Bool.eq_iff_iff, beq_iff_eq, beq_iff_eq, Nat.add_right_cancel_iff]
  simp only [later, Bearer.later, List.find?_map, Function.comp_def, hcalls]

theorem resting_later {w : Scene ι} : (w.later ρ).Resting ↔ w.Resting :=
  and_congr List.map_eq_nil_iff List.map_eq_nil_iff

/-- Mail from outside has not been admitted, and so it is of no generation. -/
theorem mailOf_later (w : Scene ι) (wish : Wish) : (w.mailOf wish).later ρ = w.mailOf wish := by
  have hzero : ρ.generation 0 = 0 := if_pos rfl
  cases wish with
  | bringUp client accessPoint =>
    simp only [mailOf, Mail.later, BringUp.later, hzero]
  | tearDown client reason =>
    simp only [mailOf, Mail.later, TearDown.later, hzero]

variable [Interceptor ι]

theorem turn_later {w : Scene ι} {mail : Mail} {rest : List Mail}
    (first : w.controller.mailbox = mail :: rest)
    (room : ρ.HasRoom w.controller.connection.generation) :
    (w.later ρ).step .turn = ((w.step .turn).1.later ρ, (w.step .turn).2.map (·.later ρ)) := by
  have first' : (w.later ρ).controller.mailbox = mail.later ρ :: rest.map (·.later ρ) := by
    show w.controller.mailbox.map _ = _
    rw [first]
    rfl
  obtain ⟨r, hr, rule, hstep⟩ := step_turn first
  obtain ⟨r', hr', -, hstep'⟩ := step_turn first'
  have hsame : r' = r.later ρ := by
    rw [← hr', ← hr]
    exact react_later w.setting _ _ room _ mail
  have hroom : ρ.HasRoom r.connection.generation := by
    rw [rule.generation]
    exact room
  rw [hstep]
  rw [hstep', hsame]
  have hafter : Controller.after (w.later ρ).setting
      ((w.later ρ).controller.withMailbox (rest.map (·.later ρ))) (mail.later ρ) (r.later ρ) = _ :=
    (w.controller.withMailbox rest).after_later w.setting mail r hroom
  rw [hafter]
  rfl

theorem dispatch_later {w : Scene ι} (empty : w.controller.mailbox = []) :
    (w.later ρ).step .turn = ((w.step .turn).1.later ρ, (w.step .turn).2.map (·.later ρ)) := by
  have empty' : (w.later ρ).controller.mailbox = [] := by
    show w.controller.mailbox.map _ = []
    rw [empty]
    rfl
  by_cases hout : w.controller.outbox = []
  · have hout' : (w.later ρ).controller.outbox = [] := by
      show w.controller.outbox.map _ = []
      rw [hout]
      rfl
    rw [step_turn_of_rest ⟨empty, hout⟩, step_turn_of_rest ⟨empty', hout'⟩]
    rfl
  · have hout' : (w.later ρ).controller.outbox ≠ [] :=
      fun hnil => hout (List.map_eq_nil_iff.mp hnil)
    have hall : (w.later ρ).bearer.clearOutbox.dispatchAll w.setting
        (w.controller.outbox.map (·.later ρ)) = _ :=
      w.bearer.clearOutbox.dispatchAll_later w.setting w.controller.outbox
    rw [step, step, Bearer.turn_of_nil empty hout, Bearer.turn_of_nil empty' hout']
    exact congrArg (fun p : Bearer ι × List Event => ({ w with bearer := p.1 }, p.2)) hall

theorem answer_later (w : Scene ι) (call : Nat) (given : RadioAnswers) :
    (w.later ρ).step (.answer (call + ρ.calls) given) =
      ((w.step (.answer call given)).1.later ρ,
        (w.step (.answer call given)).2.map (·.later ρ)) := by
  have hfind := w.find?_later (ρ := ρ) call
  cases hopen : w.bearer.openCalls.find? fun c => c.1 == call with
  | none =>
    rw [hopen] at hfind
    rw [step, step, hopen, hfind]
    rfl
  | some found =>
    obtain ⟨number, command⟩ := found
    rw [hopen] at hfind
    have hready := Command.completion?_later (ρ := ρ) given command
    cases hcompletion : command.completion? given with
    | none =>
      rw [hcompletion] at hready
      rw [step, step, hopen, hfind]
      dsimp only [Option.map_some]
      rw [hcompletion, hready]
      rfl
    | some mail =>
      rw [hcompletion] at hready
      rw [step_answer hopen hcompletion, step_answer hfind hready]
      have hsent := (w.bearer.close call).send_later (ρ := ρ) mail
      rw [← Bearer.close_later] at hsent
      exact congrArg (fun b => (w.withBearer b, [])) hsent

/-- What has come before makes no difference to an act. -/
theorem step_later (w : Scene ι) (act : Act ι)
    (room : ρ.HasRoom w.controller.connection.generation) :
    (w.later ρ).step (act.later ρ) =
      ((w.step act).1.later ρ, (w.step act).2.map (·.later ρ)) := by
  cases act with
  | ask wish =>
    have hsent := w.bearer.send_later (ρ := ρ) (w.mailOf wish)
    rw [mailOf_later] at hsent
    have hscene := congrArg (fun b => (w.withBearer b).count wish) hsent
    cases wish <;> exact congrArg (fun v => (v, [])) hscene
  | inquire inquiry =>
    have hsent := w.bearer.send_later (ρ := ρ) (.inquiry w.inquiries inquiry)
    exact congrArg (fun b => ({ w with bearer := b, inquiries := w.inquiries + 1 }, [])) hsent
  | stop =>
    have hsent := w.bearer.send_later (ρ := ρ) .stop
    exact congrArg (fun b => (w.withBearer b, [])) hsent
  | hear result =>
    by_cases hrests : w.Resting
    · have haccepted := w.bearer.accept_later (ρ := ρ) (.radioConnected result)
      rw [step_hear hrests]
      refine (step_hear (resting_later.mpr hrests)).trans ?_
      exact congrArg (fun p : Bearer ι × List Event => ({ w with bearer := p.1 }, p.2)) haccepted
    · rw [step_hear_of_busy hrests]
      exact step_hear_of_busy fun hrests' => hrests (resting_later.mp hrests')
  | answer call given => exact answer_later w call given
  | take =>
    by_cases hrests : w.Resting
    · have hrests' : (w.later ρ).Resting := resting_later.mpr hrests
      cases hinbox : w.bearer.inbox with
      | nil =>
        rw [step_take_of_nil hinbox]
        refine step_take_of_nil ?_
        show w.bearer.inbox.map _ = []
        rw [hinbox]
        rfl
      | cons mail rest =>
        have hinbox' : (w.later ρ).bearer.inbox = mail.later ρ :: rest.map (·.later ρ) := by
          show w.bearer.inbox.map _ = _
          rw [hinbox]
          rfl
        have haccepted := (w.bearer.withInbox rest).accept_later (ρ := ρ) mail
        rw [step_take hrests hinbox]
        refine (step_take hrests' hinbox').trans ?_
        exact congrArg (fun p : Bearer ι × List Event => ({ w with bearer := p.1 }, p.2)) haccepted
    · rw [step_take_of_busy hrests]
      exact step_take_of_busy fun hrests' => hrests (resting_later.mp hrests')
  | turn =>
    cases hmailbox : w.controller.mailbox with
    | cons mail rest => exact turn_later hmailbox room
    | nil => exact dispatch_later hmailbox
  | switchRadio | closeTracker | rearm => rfl

end Scene

end

end PacketBearer
