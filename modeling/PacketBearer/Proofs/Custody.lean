/-
Where the requests of a run are.

A request is somewhere at any time: it waits in the mail or apart from it, the radio works on it,
or it has been completed or dropped.

* `settles_after` — a reaction keeps what the bearer holds, or settles it;
* `conserves_run` — no act loses a request, or makes another of it;
* `placed_eq_issued` — the requests in all these places are those that were ever made.
-/
import PacketBearer.Proofs.InFlight

namespace PacketBearer

/-- What tells the requests of a run apart. -/
inductive RequestId where
  | bringUp (number : Nat)
  | tearDown (number : Nat)
  deriving DecidableEq, Repr

def ClientRequest.id : ClientRequest → RequestId
  | bringUp request => .bringUp request.number
  | tearDown request => .tearDown request.number

/-- The request that a piece of mail makes. -/
def Mail.asks? : Mail → Option RequestId
  | bringUp request => some (.bringUp request.number)
  | tearDown request => some (.tearDown request.number)
  | _ => none

/-- The requests that are completed. -/
def completed (events : List Event) : Multiset RequestId :=
  ↑(events.filterMap fun
    | .broughtUp request _ => some (RequestId.bringUp request.number)
    | .tornDown request => some (RequestId.tearDown request.number)
    | _ => none)

/-- The requests that are given up. -/
def dropped (events : List Event) : Multiset RequestId :=
  ↑(events.filterMap fun
    | .dropped request => some request.id
    | _ => none)

namespace Scene

variable {ι : Type}

/-- The requests that wait in the mail. -/
def inMail (w : Scene ι) : Multiset RequestId :=
  ↑((w.bearer.inbox ++ w.controller.mailbox).filterMap Mail.asks?)

/-- The requests that wait for another phase. -/
def inDeferral (w : Scene ι) : Multiset RequestId := ↑(w.controller.deferred.filterMap Mail.asks?)

/-- The requests that the radio works on, or has worked on without the bearer's knowing. -/
def atWork (w : Scene ι) : Multiset RequestId := w.bearer.tasks.map (·.request.id)

/-- The requests ever made. -/
def issued (w : Scene ι) : Multiset RequestId :=
  ↑((List.range w.bringUps).map RequestId.bringUp ++
    (List.range w.tearDowns).map RequestId.tearDown)

end Scene

/-! ### Requests as a tally -/

theorem Command.request?_completion {answers : RadioAnswers} {command : Command} {mail : Mail}
    (h : command.completion? answers = some mail) : mail.request? = some command.request := by
  cases command <;>
  · simp only [completion?, Option.map_eq_some_iff] at h
    obtain ⟨answer, -, rfl⟩ := h
    rfl

namespace Tally

/-- The requests that mail carries, and that commands work on. -/
def requests : Tally (Multiset RequestId) where
  ofMail mail := (mail.request?.map ClientRequest.id).toList
  ofCommand command := {command.request.id}
  answered h := by rw [Command.request?_completion h]; rfl

theorem requests_ofMail (mail : Mail) :
    requests.ofMail mail = mail.asks?.toList + (tasks.ofMail mail).map (·.request.id) := by
  cases mail <;> rfl

theorem requests_ofMails (mails : List Mail) :
    requests.ofMails mails =
      ↑(mails.filterMap Mail.asks?) + (tasks.ofMails mails).map (·.request.id) := by
  induction mails with
  | nil => rfl
  | cons mail mails ih =>
    rw [ofMails_cons, ofMails_cons, ih, requests_ofMail, Multiset.map_add]
    cases h : mail.asks? with
    | none =>
      rw [List.filterMap_cons_none h]
      show 0 + _ + _ = _
      abel
    | some id =>
      rw [List.filterMap_cons_some h, ← Multiset.cons_coe, ← Multiset.singleton_add]
      show {id} + _ + _ = _
      abel

theorem requests_ofCommands (commands : List Command) :
    requests.ofCommands commands = (tasks.ofCommands commands).map (·.request.id) := by
  induction commands with
  | nil => rfl
  | cons command commands ih =>
    rw [ofCommands_cons, ofCommands_cons, ih, Multiset.map_add]
    cases command <;> rfl

end Tally

/-- What a bearer holds is in the mail, waits apart from it, or is worked on. -/
theorem Scene.held_eq {ι : Type} (w : Scene ι) :
    Tally.requests.ofBearer w.bearer = w.inMail + w.inDeferral + w.atWork := by
  rw [atWork, Bearer.tasks_eq]
  simp only [Tally.ofBearer, Tally.ofController, Tally.requests_ofMails, Tally.requests_ofCommands,
    Multiset.map_add, inMail, inDeferral, List.filterMap_append, ← Multiset.coe_add]
  abel

/-! ### What events settle -/

/-- The requests that are completed or given up. -/
def settled (events : List Event) : Multiset RequestId := completed events + dropped events

theorem completed_append (first second : List Event) :
    completed (first ++ second) = completed first + completed second := by
  simp only [completed, List.filterMap_append, Multiset.coe_add]

theorem dropped_append (first second : List Event) :
    dropped (first ++ second) = dropped first + dropped second := by
  simp only [dropped, List.filterMap_append, Multiset.coe_add]

theorem dropped_of_forall_not_mem {events : List Event}
    (h : ∀ request, Event.dropped request ∉ events) : dropped events = 0 := by
  refine (Multiset.coe_eq_zero _).mpr (List.filterMap_eq_nil_iff.mpr fun event hevent => ?_)
  cases event with
  | dropped request => exact absurd hevent (h request)
  | _ => rfl

theorem settled_append (first second : List Event) :
    settled (first ++ second) = settled first + settled second := by
  rw [settled, completed_append, dropped_append, settled, settled]
  abel

@[simp] theorem settled_nil : settled [] = 0 := rfl

theorem settled_eq_zero {events : List Event}
    (h : ∀ event ∈ events, completed [event] = 0 ∧ dropped [event] = 0) :
    settled events = 0 := by
  induction events with
  | nil => rfl
  | cons event events ih =>
    rw [← List.singleton_append, settled_append, ih fun other hother => h other (by simp [hother])]
    obtain ⟨hcompleted, hdropped⟩ := h event (by simp)
    rw [settled, hcompleted, hdropped]
    rfl

theorem settled_map_dropped (requests : List ClientRequest) :
    settled (requests.map Event.dropped) = ↑(requests.map ClientRequest.id) := by
  induction requests with
  | nil => rfl
  | cons request requests ih =>
    rw [List.map_cons, ← List.singleton_append, settled_append, ih, List.map_cons,
      ← Multiset.cons_coe, ← Multiset.singleton_add]
    rfl

/-- A phase that is entered settles the request that it begins with. -/
theorem settled_enter (s : Setting) (c : Connection) (target : Phase) (arrival : Arrival) :
    settled (c.enter s target arrival).2 =
      (arrival.request?.map ClientRequest.id).toList := by
  have hnotices : ∀ request, settled (s.lossNotices request) = 0 := by
    intro request
    refine settled_eq_zero fun event hevent => ?_
    obtain ⟨notice, rfl⟩ := notice_of_mem_lossNotices hevent
    exact ⟨rfl, rfl⟩
  cases target with
  | idle =>
    cases arrival with
    | tornDown request =>
      show settled ([.tornDown request] ++ s.lossNotices request) = _
      rw [settled_append, hnotices, add_zero]
      rfl
    | _ => rfl
  | _ => cases arrival <;> rfl

/-! ### Reactions -/

section

variable {ι : Type} [Interceptor ι] {s : Setting}

/-- The request that a reaction carries over into the next phase. -/
def Reaction.carried (r : Reaction ι) : Multiset RequestId :=
  (r.next.bind fun next => next.2.request?.map ClientRequest.id).toList

/-- A reaction settles the request of the mail, or it keeps it. -/
theorem Rule.settles {c : Connection} {i : ι} {p : Phase} {mail : Mail} {r : Reaction ι}
    (h : Rule s c i p mail r) :
    Tally.requests.ofMail mail =
      settled r.events +
        if r.halt = none then Tally.requests.ofReaction mail r + r.carried else 0 := by
  cases h with
  | waits busy request => cases mail <;> rfl
  | fails setback => cases setback <;> rfl
  | @released _ purpose => cases purpose <;> rfl
  | ignores reports => cases mail <;> rfl
  -- in all other rules both sides are sums over the same few requests
  | _ => rfl

omit [Interceptor ι] in
theorem requests_ofController (m : Controller ι) :
    Tally.requests.ofController m = ↑(m.requests.map ClientRequest.id) := by
  have ofMails : ∀ mails : List Mail, Tally.requests.ofMails mails =
      ↑((mails.filterMap Mail.request?).map ClientRequest.id) := by
    intro mails
    induction mails with
    | nil => rfl
    | cons mail mails ih =>
      have hmail : Tally.requests.ofMail mail = (mail.request?.map ClientRequest.id).toList := rfl
      rw [Tally.ofMails_cons, ih, hmail]
      cases hrequest : mail.request? with
      | none =>
        rw [List.filterMap_cons_none hrequest]
        exact zero_add _
      | some request =>
        rw [List.filterMap_cons_some hrequest]
        rfl
  have ofCommands : ∀ commands : List Command, Tally.requests.ofCommands commands =
      ↑((commands.map Command.request).map ClientRequest.id) := by
    intro commands
    induction commands with
    | nil => rfl
    | cons command commands ih =>
      rw [Tally.ofCommands_cons, ih]
      rfl
  rw [Controller.requests, Tally.ofController, ofMails, ofMails, ofCommands]
  simp only [List.filterMap_append, List.map_append, ← Multiset.coe_add]

/-- Whatever a controller and its mail hold is held after a reaction, or settled by it. -/
theorem Rule.settles_after {m : Controller ι} {mail : Mail} {r : Reaction ι}
    (h : Rule s m.connection m.interceptor m.phase mail r) :
    settled (m.after s mail r).2 + Tally.requests.ofController (m.after s mail r).1 =
      Tally.requests.ofMail mail + Tally.requests.ofController m := by
  have hsettles := h.settles
  cases hhalt : r.halt with
  | some halt =>
    rw [hhalt, if_neg (by simp)] at hsettles
    -- a controller that halts holds nothing any more, and has dropped all that it held
    rw [Controller.after, hhalt]
    dsimp only
    rw [settled_append, settled_map_dropped, tally_halted, hsettles, requests_ofController]
    abel
  | none =>
    rw [hhalt, if_pos rfl] at hsettles
    have hevents : settled (m.after s mail r).2 = settled r.events + r.carried := by
      rw [Controller.after, hhalt, Reaction.carried]
      cases r.next with
      | none => exact (add_zero _).symm
      | some next =>
        dsimp only
        rw [Controller.move]
        dsimp only
        rw [settled_append, ← List.singleton_append, settled_append, settled_enter]
        exact congrArg (_ + ·) (zero_add _)
    rw [hevents, tally_after Tally.requests s m mail hhalt, hsettles]
    abel

end

/-! ### Conservation -/

namespace Scene

variable {ι : Type} [Interceptor ι]

omit [Interceptor ι] in
theorem issued_ask (w : Scene ι) (wish : Wish) :
    ((w.send (w.mailOf wish)).count wish).issued =
      w.issued + Tally.requests.ofMail (w.mailOf wish) := by
  cases wish with
  | bringUp client accessPoint =>
    show (↑((List.range (w.bringUps + 1)).map RequestId.bringUp ++
      (List.range w.tearDowns).map RequestId.tearDown) : Multiset RequestId) = _
    rw [List.range_succ, List.map_append, ← Multiset.coe_add, ← Multiset.coe_add, issued,
      ← Multiset.coe_add, add_right_comm]
    rfl
  | tearDown client reason =>
    show (↑((List.range w.bringUps).map RequestId.bringUp ++
      (List.range (w.tearDowns + 1)).map RequestId.tearDown) : Multiset RequestId) = _
    rw [List.range_succ, List.map_append, ← List.append_assoc, ← Multiset.coe_add, issued]
    rfl

/-- No act loses a request, or makes another of it. -/
theorem Change.conserves {w w' : Scene ι} {act : Act ι} {events : List Event}
    (h : Change w act w' events) (numbered : w.bearer.Numbered) :
    settled events + Tally.requests.ofBearer w'.bearer + w.issued =
      Tally.requests.ofBearer w.bearer + w'.issued := by
  -- most acts neither settle a request nor make one
  have silent : ∀ {w' : Scene ι}, w'.issued = w.issued →
      Tally.requests.ofBearer w'.bearer = Tally.requests.ofBearer w.bearer →
      settled [] + Tally.requests.ofBearer w'.bearer + w.issued =
        Tally.requests.ofBearer w.bearer + w'.issued := by
    intro w' hissued hheld
    rw [hissued, hheld, settled_nil, zero_add]
  cases h with
  | still => exact silent rfl rfl
  | asked wish =>
    have hheld : Tally.requests.ofBearer ((w.send (w.mailOf wish)).count wish).bearer =
        Tally.requests.ofBearer w.bearer + Tally.requests.ofMail (w.mailOf wish) := by
      rw [← tally_send]
      cases wish <;> rfl
    rw [issued_ask, hheld, settled_nil]
    abel
  | inquired inquiry => exact silent rfl ((tally_send _ _ _).trans (add_zero _))
  | stopSent => exact silent rfl ((tally_send _ _ _).trans (add_zero _))
  | heard result resting live =>
    refine silent rfl ?_
    simp only [withController, Tally.ofBearer, Bearer.withController, tally_post]
    exact congrArg (· + _ + _) (add_zero _)
  | answered isOpen ready => exact silent rfl (tally_answer Tally.requests numbered isOpen ready)
  | @taken mail rest first resting live =>
    refine silent rfl ?_
    simp only [Tally.ofBearer, Bearer.withController, Bearer.withInbox, tally_post, first,
      Tally.ofMails_cons]
    abel
  | @refused mail rest first halted =>
    have hsettled : settled (mail.request?.map Event.dropped).toList =
        Tally.requests.ofMail mail := by
      cases mail <;> rfl
    rw [hsettled]
    show _ = Tally.requests.ofBearer w.bearer + w.issued
    simp only [Tally.ofBearer, Bearer.withInbox, first, Tally.ofMails_cons]
    abel
  | @handled mail rest r first rule =>
    -- the controller without its first piece of mail, and that piece of mail
    have hafter := rule.settles_after (m := w.controller.withMailbox rest)
    have hfirst := tally_first Tally.requests first
    rw [hfirst]
    simp only [withController, Tally.ofBearer, Bearer.withController]
    show settled _ + _ + w.issued = _ + w.issued
    rw [← add_assoc, ← add_assoc, ← add_assoc, hafter]
    abel
  | dispatched empty =>
    have hcalls :
        settled (w.bearer.clearOutbox.dispatchAll w.setting w.controller.outbox).2 = 0 := by
      refine settled_eq_zero fun event hevent => ?_
      obtain ⟨call, command, -, rfl⟩ := Bearer.called_of_mem_dispatchAll hevent
      exact ⟨rfl, rfl⟩
    rw [hcalls, zero_add, tally_dispatchAll, ← tally_clearOutbox]
    rfl
  | switched | trackerClosed | rearmed => exact silent rfl rfl

theorem conserves_run (w : Scene ι) (acts : List (Act ι)) (numbered : w.bearer.Numbered) :
    settled (w.run acts).2 + Tally.requests.ofBearer (w.run acts).1.bearer + w.issued =
      Tally.requests.ofBearer w.bearer + (w.run acts).1.issued := by
  induction acts generalizing w with
  | nil =>
    rw [run_nil, settled_nil, zero_add]
  | cons act acts ih =>
    have hchange := w.change_step act
    have hfirst := hchange.conserves numbered
    have hrest := ih (w.step act).1 (hchange.numbered numbered)
    rw [run_cons, settled_append]
    dsimp only
    generalize ((w.step act).1.run acts).1 = last at hrest ⊢
    -- what is held and made between the two parts stands on both sides
    refine add_right_cancel (b := Tally.requests.ofBearer (w.step act).1.bearer +
      (w.step act).1.issued) ?_
    calc settled (w.step act).2 + settled ((w.step act).1.run acts).2 +
          Tally.requests.ofBearer last.bearer + w.issued +
          (Tally.requests.ofBearer (w.step act).1.bearer + (w.step act).1.issued)
        = (settled (w.step act).2 + Tally.requests.ofBearer (w.step act).1.bearer + w.issued) +
          (settled ((w.step act).1.run acts).2 + Tally.requests.ofBearer last.bearer +
            (w.step act).1.issued) := by abel
      _ = (Tally.requests.ofBearer w.bearer + (w.step act).1.issued) +
          (Tally.requests.ofBearer (w.step act).1.bearer + last.issued) := by rw [hfirst, hrest]
      _ = Tally.requests.ofBearer w.bearer + last.issued +
          (Tally.requests.ofBearer (w.step act).1.bearer + (w.step act).1.issued) := by abel

/-- Every request that was ever made is in one place, and once. -/
theorem placed_eq_issued (s : Setting) (i : ι) (acts : List (Act ι)) :
    ((start s i).run acts).1.inMail + ((start s i).run acts).1.inDeferral +
        ((start s i).run acts).1.atWork + completed ((start s i).run acts).2 +
        dropped ((start s i).run acts).2 =
      ((start s i).run acts).1.issued := by
  have hrun := conserves_run (start s i) acts (Bearer.numbered_start i)
  have hbare : Tally.requests.ofBearer (start s i).bearer = 0 := rfl
  have hnone : (start s i).issued = 0 := rfl
  rw [hbare, hnone, held_eq, settled, add_zero, zero_add] at hrun
  rw [← hrun]
  abel

end Scene

end PacketBearer
