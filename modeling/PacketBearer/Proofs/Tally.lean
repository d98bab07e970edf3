/-
Taking stock of what a bearer holds.

A `Tally` says what each piece of mail and each command counts for; an answer counts for as much
as the command that it answers.  Summed up over the mailbox, the deferred mail, the outbox, the
inbox and the open calls, such a count can change in few ways only:

* `tally_after` — a reaction adds what it issues, and the mail itself if that waits;
* `tally_dispatchAll`, `tally_answer` — carrying out commands, and answering them, changes nothing.

That every call is open once only (`Bearer.Numbered`) is what makes an answer change nothing.
-/
import Mathlib.Algebra.BigOperators.Group.List.Basic
import Mathlib.Data.List.Nodup
import Mathlib.Tactic.Abel
import PacketBearer.Proofs.Rule
import PacketBearer.Proofs.Scene

namespace PacketBearer

/-- What mail and commands count for. -/
structure Tally (M : Type) [AddCommMonoid M] where
  ofMail : Mail → M
  ofCommand : Command → M
  /-- An answer counts for as much as the command that it answers. -/
  answered : ∀ {answers : RadioAnswers} {command : Command} {mail : Mail},
    command.completion? answers = some mail → ofMail mail = ofCommand command

section

variable {ι M : Type} [AddCommMonoid M] (t : Tally M)

namespace Tally

/-- What a list of mail counts for. -/
def ofMails (mails : List Mail) : M := (mails.map t.ofMail).sum

/-- What a list of commands counts for. -/
def ofCommands (commands : List Command) : M := (commands.map t.ofCommand).sum

@[simp] theorem ofMails_nil : t.ofMails [] = 0 := rfl

@[simp] theorem ofMails_cons (mail : Mail) (mails : List Mail) :
    t.ofMails (mail :: mails) = t.ofMail mail + t.ofMails mails := by
  simp [ofMails]

@[simp] theorem ofMails_append (first second : List Mail) :
    t.ofMails (first ++ second) = t.ofMails first + t.ofMails second := by
  simp [ofMails]

theorem ofMails_eq_zero {mails : List Mail} (h : ∀ mail ∈ mails, t.ofMail mail = 0) :
    t.ofMails mails = 0 := by
  refine List.sum_eq_zero fun count hcount => ?_
  obtain ⟨mail, hmail, rfl⟩ := List.mem_map.mp hcount
  exact h mail hmail

@[simp] theorem ofCommands_nil : t.ofCommands [] = 0 := rfl

@[simp] theorem ofCommands_cons (command : Command) (commands : List Command) :
    t.ofCommands (command :: commands) = t.ofCommand command + t.ofCommands commands := by
  simp [ofCommands]

@[simp] theorem ofCommands_append (first second : List Command) :
    t.ofCommands (first ++ second) = t.ofCommands first + t.ofCommands second := by
  simp [ofCommands]

/-- What a reaction leaves behind of a piece of mail. -/
def ofReaction (mail : Mail) (r : Reaction ι) : M :=
  t.ofMails r.posts + t.ofCommands r.commands + if r.waits then t.ofMail mail else 0

/-- What a controller holds. -/
def ofController (m : Controller ι) : M :=
  t.ofMails m.mailbox + t.ofMails m.deferred + t.ofCommands m.outbox

/-- What a bearer holds, and the radio for it. -/
def ofBearer (b : Bearer ι) : M :=
  t.ofController b.controller + t.ofMails b.inbox + t.ofCommands (b.openCalls.map Prod.snd)

/-- A release that a radio which is off need not carry out counts for as much as its end. -/
theorem ofMail_releaseDone (id : Int32) (reason : ReleaseReason) (purpose : ReleasePurpose) :
    t.ofMail (.releaseDone purpose) = t.ofCommand (.release id reason purpose) :=
  t.answered (show (Command.release id reason purpose).completion? { release := some (.ok ()) } =
    some (.releaseDone purpose) from rfl)

theorem ofMails_ite (waits : Bool) (mail : Mail) :
    t.ofMails (if waits then [mail] else []) = if waits then t.ofMail mail else 0 := by
  cases waits <;> simp

end Tally

/-! ### What the controller does -/

theorem tally_absorb (m : Controller ι) (mail : Mail) (r : Reaction ι) :
    t.ofController (m.absorb mail r) = t.ofController m + t.ofReaction mail r := by
  simp only [Controller.absorb, Tally.ofController, Tally.ofReaction, Tally.ofMails_append,
    Tally.ofCommands_append, Tally.ofMails_ite]
  abel

theorem tally_move (s : Setting) (m : Controller ι) (target : Phase) (arrival : Arrival) :
    t.ofController (m.move s target arrival).1 = t.ofController m := by
  simp only [Controller.move, Tally.ofController, Tally.ofMails_append, Tally.ofMails_nil]
  abel

@[simp] theorem tally_halted (m : Controller ι) (halt : Halt) :
    t.ofController (m.halted halt) = 0 := by
  simp [Controller.halted, Tally.ofController]

/-- A reaction adds what it issues, and the mail itself if that waits. -/
theorem tally_after (s : Setting) (m : Controller ι) (mail : Mail) {r : Reaction ι}
    (h : r.halt = none) :
    t.ofController (m.after s mail r).1 = t.ofController m + t.ofReaction mail r := by
  rw [Controller.after, h]
  cases r.next with
  | none => exact tally_absorb t m mail r
  | some next =>
    dsimp only
    rw [tally_move, tally_absorb]

theorem tally_post (m : Controller ι) (mail : Mail) :
    t.ofController (m.post mail) = t.ofController m + t.ofMail mail := by
  simp only [Controller.post, Tally.ofController, Tally.ofMails_append, Tally.ofMails_cons,
    Tally.ofMails_nil]
  abel

/-! ### What the bearer does -/

/-- The first piece of mail, and all the rest. -/
theorem tally_first {b : Bearer ι} {mail : Mail} {rest : List Mail}
    (h : b.controller.mailbox = mail :: rest) :
    t.ofBearer b =
      t.ofMail mail + t.ofBearer (b.withController (b.controller.withMailbox rest)) := by
  simp only [Tally.ofBearer, Tally.ofController, Bearer.withController, Controller.withMailbox, h,
    Tally.ofMails_cons]
  abel

theorem tally_react (s : Setting) (b : Bearer ι) (m : Controller ι) (mail : Mail)
    {r : Reaction ι} (h : r.halt = none) :
    t.ofBearer (b.withController (m.after s mail r).1) =
      t.ofBearer (b.withController m) + t.ofReaction mail r := by
  simp only [Tally.ofBearer, Bearer.withController, tally_after t s m mail h]
  abel

theorem tally_send (b : Bearer ι) (mail : Mail) :
    t.ofBearer (b.send [mail]) = t.ofBearer b + t.ofMail mail := by
  simp only [Bearer.send, Tally.ofBearer, Tally.ofMails_append, Tally.ofMails_cons,
    Tally.ofMails_nil]
  abel

theorem tally_dispatch (s : Setting) (b : Bearer ι) (command : Command) :
    t.ofBearer (b.dispatch s command).1 = t.ofBearer b + t.ofCommand command := by
  rw [Bearer.dispatch.eq_def]
  split
  · next id reason purpose _ =>
    simp only [Tally.ofBearer, tally_post, t.ofMail_releaseDone id reason]
    abel
  · simp only [Bearer.call, Tally.ofBearer, List.map_append, List.map_cons, List.map_nil,
      Tally.ofCommands_append, Tally.ofCommands_cons, Tally.ofCommands_nil]
    abel

/-- Carrying out commands changes nothing but where they are. -/
theorem tally_dispatchAll (s : Setting) (b : Bearer ι) (commands : List Command) :
    t.ofBearer (b.dispatchAll s commands).1 = t.ofBearer b + t.ofCommands commands := by
  induction commands generalizing b with
  | nil => simp [Bearer.dispatchAll]
  | cons command commands ih =>
    rw [Bearer.dispatchAll, ih, tally_dispatch, Tally.ofCommands_cons]
    abel

theorem tally_clearOutbox (b : Bearer ι) :
    t.ofBearer b = t.ofBearer b.clearOutbox + t.ofCommands b.controller.outbox := by
  simp only [Bearer.clearOutbox, Tally.ofBearer, Tally.ofController, Tally.ofCommands_nil]
  abel

/-! ### Open calls -/

/-- No number is given to two calls. -/
structure Bearer.Numbered (b : Bearer ι) : Prop where
  nodup : (b.openCalls.map Prod.fst).Nodup
  lt : ∀ call ∈ b.openCalls, call.1 < b.calls

theorem Bearer.Numbered.dispatch {b : Bearer ι} (h : b.Numbered) (s : Setting)
    (command : Command) : (b.dispatch s command).1.Numbered := by
  rw [Bearer.dispatch.eq_def]
  split
  · exact ⟨h.nodup, h.lt⟩
  · constructor
    · rw [Bearer.call]
      simp only [List.map_append, List.map_cons, List.map_nil]
      rw [List.nodup_append]
      refine ⟨h.nodup, by simp, ?_⟩
      rintro number hnumber other hother rfl
      obtain ⟨call, hcall, rfl⟩ := List.mem_map.mp hnumber
      have hlt := h.lt call hcall
      rw [List.mem_singleton.mp hother] at hlt
      omega
    · intro call hcall
      rcases List.mem_append.mp hcall with hcall | hcall
      · exact Nat.lt_succ_of_lt (h.lt call hcall)
      · rw [List.mem_singleton.mp hcall]
        exact Nat.lt_succ_self _

theorem Bearer.Numbered.dispatchAll {b : Bearer ι} (h : b.Numbered) (s : Setting)
    (commands : List Command) : (b.dispatchAll s commands).1.Numbered := by
  induction commands generalizing b with
  | nil => exact h
  | cons command commands ih => exact ih (h.dispatch s command)

theorem Bearer.Numbered.close {b : Bearer ι} (h : b.Numbered) (call : Nat) :
    (b.close call).Numbered :=
  ⟨(List.filter_sublist.map Prod.fst).nodup h.nodup,
    fun other hother => h.lt other (List.mem_filter.mp hother).1⟩

/-- An open call is found by its number. -/
theorem Bearer.Numbered.find? {b : Bearer ι} (h : b.Numbered) {call : Nat} {command : Command}
    (isOpen : (call, command) ∈ b.openCalls) :
    b.openCalls.find? (fun c => c.1 == call) = some (call, command) := by
  have hsome : (b.openCalls.find? fun c => c.1 == call).isSome = true := by
    rw [List.find?_isSome]
    exact ⟨_, isOpen, beq_self_eq_true call⟩
  obtain ⟨found, hfound⟩ := Option.isSome_iff_exists.mp hsome
  have hnumber : found.1 = call := by simpa using List.find?_some hfound
  have hsame : found = (call, command) :=
    List.inj_on_of_nodup_map h.nodup (List.mem_of_find?_eq_some hfound) isOpen hnumber
  rw [hfound, hsame]

theorem Scene.Change.numbered [Interceptor ι] {w w' : Scene ι} {act : Act ι}
    {events : List Event} (h : Scene.Change w act w' events) (numbered : w.bearer.Numbered) :
    w'.bearer.Numbered := by
  cases h with
  | answered => exact ⟨(numbered.close _).nodup, (numbered.close _).lt⟩
  | dispatched =>
    refine Bearer.Numbered.dispatchAll ?_ _ _
    exact ⟨numbered.nodup, numbered.lt⟩
  | asked wish => cases wish <;> exact ⟨numbered.nodup, numbered.lt⟩
  | _ => exact ⟨numbered.nodup, numbered.lt⟩

/-- No number is ever given to two calls. -/
theorem Scene.numbered_run [Interceptor ι] (w : Scene ι) (acts : List (Act ι))
    (h : w.bearer.Numbered) : (w.run acts).1.bearer.Numbered := by
  induction acts generalizing w with
  | nil => exact h
  | cons act acts ih => exact ih _ ((w.change_step act).numbered h)

theorem Bearer.numbered_start (interceptor : ι) : (Bearer.start interceptor).Numbered :=
  ⟨List.nodup_nil, fun _ hcall => absurd hcall List.not_mem_nil⟩

theorem sum_filter_ne {calls : List (Nat × Command)} {call : Nat} {command : Command}
    (nodup : (calls.map Prod.fst).Nodup) (mem : (call, command) ∈ calls) :
    t.ofCommands (calls.map Prod.snd) =
      t.ofCommands ((calls.filter (·.1 ≠ call)).map Prod.snd) + t.ofCommand command := by
  induction calls with
  | nil => cases mem
  | cons first calls ih =>
    obtain ⟨hfirst, hnodup⟩ := List.nodup_cons.mp nodup
    rcases List.mem_cons.mp mem with rfl | hmem
    · -- no other call has this number
      have hkeep : calls.filter (·.1 ≠ call) = calls := by
        rw [List.filter_eq_self]
        intro other hother
        have hne : other.1 ≠ call := fun h => hfirst (List.mem_map.mpr ⟨other, hother, h⟩)
        simpa using hne
      rw [List.filter_cons_of_neg (by simp), hkeep, List.map_cons, Tally.ofCommands_cons]
      exact add_comm _ _
    · have hne : first.1 ≠ call := fun h => hfirst (h ▸ List.mem_map.mpr ⟨_, hmem, rfl⟩)
      rw [List.filter_cons_of_pos (by simpa using hne), List.map_cons, List.map_cons,
        Tally.ofCommands_cons, Tally.ofCommands_cons, ih hnodup hmem]
      abel

/-- An answer takes the place of the call that it answers. -/
theorem tally_answer {b : Bearer ι} (h : b.Numbered) {call : Nat} {answers : RadioAnswers}
    {command : Command} {mail : Mail} (isOpen : (call, command) ∈ b.openCalls)
    (ready : command.completion? answers = some mail) :
    t.ofBearer ((b.close call).send [mail]) = t.ofBearer b := by
  rw [tally_send, t.answered ready]
  simp only [Bearer.close, Tally.ofBearer]
  rw [sum_filter_ne t h.nodup isOpen]
  abel

/-- Where nothing is handled, all that a bearer gets that works is what is sent to it. -/
theorem Scene.Change.tally [Interceptor ι] {w w' : Scene ι} {act : Act ι} {events : List Event}
    (h : Scene.Change w act w' events) (numbered : w.bearer.Numbered)
    (live : w.bearer.isHalted = false) :
    (∃ mail rest r, Scene.Turned w act w' events mail rest r) ∨
      Scene.Quiet w w' events ∧ ∃ sent : List Mail, (∀ mail ∈ sent, w.Sends act mail) ∧
        t.ofBearer w'.bearer = t.ofBearer w.bearer + t.ofMails sent := by
  refine or_iff_not_imp_left.mpr fun hnot => ⟨h.turned_or_quiet.resolve_left hnot, ?_⟩
  -- an act sends nothing, or it sends one piece of mail
  have none : t.ofBearer w'.bearer = t.ofBearer w.bearer →
      ∃ sent : List Mail, (∀ mail ∈ sent, w.Sends act mail) ∧
        t.ofBearer w'.bearer = t.ofBearer w.bearer + t.ofMails sent := by
    intro hsame
    refine ⟨[], fun mail hmail => absurd hmail List.not_mem_nil, ?_⟩
    rw [hsame, Tally.ofMails_nil, add_zero]
  have one : ∀ {mail : Mail}, w.Sends act mail →
      t.ofBearer w'.bearer = t.ofBearer w.bearer + t.ofMail mail →
      ∃ sent : List Mail, (∀ mail ∈ sent, w.Sends act mail) ∧
        t.ofBearer w'.bearer = t.ofBearer w.bearer + t.ofMails sent := by
    intro mail hsends hadded
    refine ⟨[mail], fun other hother => ?_, ?_⟩
    · rw [List.mem_singleton.mp hother]
      exact hsends
    · rw [hadded, Tally.ofMails_cons, Tally.ofMails_nil, add_zero]
  cases h with
  | still | switched | trackerClosed | rearmed => exact none rfl
  | asked wish =>
    refine one (.ask wish) ?_
    rw [← tally_send]
    cases wish <;> rfl
  | inquired inquiry => exact one (.inquire inquiry) (tally_send t _ _)
  | stopSent => exact one .stop (tally_send t _ _)
  | heard result resting =>
    refine one (.hear result) ?_
    simp only [Scene.withController, Tally.ofBearer, Bearer.withController, tally_post]
    abel
  | answered isOpen ready => exact none (tally_answer t numbered isOpen ready)
  | @taken mail rest first resting =>
    refine none ?_
    simp only [Tally.ofBearer, Bearer.withController, Bearer.withInbox, tally_post, first,
      Tally.ofMails_cons]
    abel
  | refused first halted => exact absurd halted (Bool.eq_false_iff.mp live)
  | @handled mail rest r first rule =>
    exact absurd ⟨mail, rest, r, ⟨rfl, first, rule, rfl, rfl⟩⟩ hnot
  | dispatched empty =>
    -- the commands have gone from the outbox to the calls, or have been answered at once
    refine none ?_
    rw [tally_dispatchAll, ← tally_clearOutbox]

end

end PacketBearer
