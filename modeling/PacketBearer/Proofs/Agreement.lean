/-
Where the link of a bearer comes from.

A link is negotiated from a reply of the radio: from the answer to an attempt, or from a reply that
the owner has.  Each new link takes the place of the old one as a whole, but for the proxy, which is
the owner's alone; and becoming idle wipes both.

* `Rule.relinks` — what a reaction can do to the link and to the number of the bearer;
* `latest_or_nothing` — what is replaced by the news and wiped with the record is the latest news
  since the bearer became idle;
* `step_updateLink` — what an update changes, and what the owner is told of it;
* `connection_of_stale`, `Replies.refused`, `unchanged_of_setUpDone` — an answer that comes too late,
  or brings unusable parameters, changes nothing on record, and no answer that makes no link changes
  the link or the number;
* `link_provenance` — all of it, for every bearer that works.

Design note: none of this depends on generations, so that no bound on them is needed.
-/
import Mathlib.Data.List.Induction
import PacketBearer.Proofs.Generation

namespace PacketBearer

namespace Scene

variable {ι : Type}

/-- The radio's reply to the attempt of the current generation is handled. -/
structure Replies (w : Scene ι) (act : Act ι) (request : BringUp) (reply : SetupReply) : Prop where
  handles : w.Handles act (.setUpDone request (.ok reply))
  settingUp : w.controller.phase = .settingUp
  current : request.generation = w.controller.connection.generation

/-- The owner has the link negotiated again from a reply. -/
def Renegotiates (w : Scene ι) (act : Act ι) (reply : SetupReply) : Prop :=
  ∃ number, w.Handles act (.inquiry number (.updateLink reply))

/-- A reply makes a link, with what the system offers at the time. -/
def Makes (w : Scene ι) (reply : SetupReply) (link : Link) : Prop :=
  reply.status = 0 ∧
    negotiate reply (w.setting.fallback w.controller.connection reply.interface) = .ok link

/-- A link is agreed on at an act. -/
def Agrees (w : Scene ι) (act : Act ι) (link : Link) : Prop :=
  ∃ reply, ((∃ request, w.Replies act request reply) ∨ w.Renegotiates act reply) ∧
    w.Makes reply link

/-- The owner configures a proxy, or none. -/
def Configures (w : Scene ι) (act : Act ι) (proxy : Option Proxy) : Prop :=
  ∃ number, w.Handles act (.inquiry number (.setProxy proxy))

section

variable [Interceptor ι] {α : Type}

/-- The latest thing of a kind that has happened in a run since the bearer became idle. -/
def Latest (w : Scene ι) (happens : Scene ι → Act ι → α → Prop) (acts : List (Act ι))
    (what : α) : Prop :=
  ∃ earlier act later, acts = earlier ++ act :: later ∧ happens (w.run earlier).1 act what ∧
    ((w.run earlier).1.run (act :: later)).2.countP Event.isReturn = 0 ∧
    ∀ first one rest other, later = first ++ one :: rest →
      ¬ happens ((w.run earlier).1.run (act :: first)).1 one other

/-- Nothing of a kind has happened in a run since the bearer became idle. -/
def Nothing (w : Scene ι) (happens : Scene ι → Act ι → α → Prop) (acts : List (Act ι)) : Prop :=
  ∀ earlier act later what, acts = earlier ++ act :: later →
    happens (w.run earlier).1 act what →
      ((w.run earlier).1.run (act :: later)).2.countP Event.isReturn ≠ 0

/-- What is read is replaced by what happens, and wiped when the bearer becomes idle. -/
structure Tracks (read : Scene ι → α) (happens : Scene ι → Act ι → α → Prop) (wiped : α) :
    Prop where
  idle : ∀ (w : Scene ι) act, (w.step act).1.bearer.isHalted = false →
    (w.step act).2.countP Event.isReturn ≠ 0 → read (w.step act).1 = wiped
  news : ∀ (w : Scene ι) act what, happens w act what → read (w.step act).1 = what
  same : ∀ (w : Scene ι) act, (w.step act).1.bearer.isHalted = false →
    (w.step act).2.countP Event.isReturn = 0 → (∀ what, ¬ happens w act what) →
      read (w.step act).1 = read w

/-- An act leaves the link and the number of the bearer alone, or wipes them as the bearer becomes
idle. -/
def Leaves (w : Scene ι) (act : Act ι) : Prop :=
  if (w.step act).2.countP Event.isReturn = 0 then
    (w.step act).1.controller.connection.link = w.controller.connection.link ∧
      (w.step act).1.controller.connection.bearerId = w.controller.connection.bearerId
  else
    (w.step act).1.controller.connection.link = {} ∧
      (w.step act).1.controller.connection.bearerId = -1

/-- An act has the link negotiated again from a reply, and tells the owner of the link before and of
the link after; of an empty link, if the reply makes none. -/
structure Updates (w : Scene ι) (act : Act ι) (number : Nat) (reply : SetupReply) : Prop where
  -- nothing changes but the link
  phase : (w.step act).1.controller.phase = w.controller.phase
  connection : (w.step act).1.controller.connection = { w.controller.connection with
    link := (w.step act).1.controller.connection.link }
  answer : ∃ verdict, (w.step act).2 = [.answered number (.update ⟨verdict,
      w.controller.connection.link,
      if verdict = .accepted then (w.step act).1.controller.connection.link else {}⟩)] ∧
    ((verdict = .accepted ∧ ∃ link, w.Makes reply link ∧
        (w.step act).1.controller.connection.link =
          link.withProxy w.controller.connection.link.proxy) ∨
      verdict ≠ .accepted ∧ (∀ link, ¬ w.Makes reply link) ∧
        (w.step act).1.controller.connection.link = w.controller.connection.link)

/-- Whatever could make a link is handled at an act, it makes the link as a whole, or leaves it and
the number of the bearer as they are. -/
structure AllOrNothing (w : Scene ι) (act : Act ι) : Prop where
  -- an answer that comes too late
  stale : ∀ request result, w.Handles act (.setUpDone request result) →
    ¬ (w.controller.phase = .settingUp ∧
      request.generation = w.controller.connection.generation) →
        (w.step act).1.controller.connection = w.controller.connection
  -- an answer in time, with unusable parameters
  refused : ∀ request reply, w.Replies act request reply → reply.status = 0 →
    (∀ link, ¬ w.Makes reply link) →
      (w.step act).1.controller.connection = w.controller.connection
  -- any answer that makes no link
  setUpDone : ∀ request result, w.Handles act (.setUpDone request result) →
    (∀ link, ¬ w.Agrees act link) → w.Leaves act
  updateLink : ∀ number reply, w.Handles act (.inquiry number (.updateLink reply)) →
    w.Updates act number reply

end

end Scene

/-! ### Negotiation -/

theorem negotiate_eq_ok_iff {reply : SetupReply} {fallback : Fallback} {link : Link} :
    negotiate reply fallback = .ok link ↔ ∃ addresses dns routes,
      reply.localAddresses = .ok addresses ∧ reply.dnsServers fallback = .ok dns ∧
        reply.routes fallback = .ok routes ∧
          link = { interface := some reply.interface, addresses, dns, routes } := by
  rw [negotiate]
  cases reply.localAddresses with
  | error rejection => simp [bind, Except.bind]
  | ok addresses =>
    cases reply.dnsServers fallback with
    | error rejection => simp [bind, Except.bind]
    | ok dns =>
      cases reply.routes fallback with
      | error rejection => simp [bind, Except.bind]
      | ok routes => simp [bind, Except.bind, pure, Except.pure, eq_comm]

/-- A reply says nothing of a proxy. -/
theorem withProxy_of_negotiate {reply : SetupReply} {fallback : Fallback} {link : Link}
    (h : negotiate reply fallback = .ok link) : link.withProxy none = link := by
  obtain ⟨addresses, dns, routes, -, -, -, rfl⟩ := negotiate_eq_ok_iff.mp h
  rfl

section

variable {s : Setting} {c : Connection} {reply : SetupReply}

theorem Connection.updateLink_of_ok {link : Link} (status : reply.status = 0)
    (agreed : negotiate reply (s.fallback c reply.interface) = .ok link) :
    c.updateLink s reply =
      (⟨.accepted, c.link, link.withProxy c.link.proxy⟩,
        { c with link := link.withProxy c.link.proxy }) := by
  rw [Connection.updateLink, if_pos status, agreed]

theorem Connection.updateLink_of_error {rejection : Rejection} (status : reply.status = 0)
    (refused : negotiate reply (s.fallback c reply.interface) = .error rejection) :
    c.updateLink s reply = (⟨.refused, c.link, {}⟩, c) := by
  rw [Connection.updateLink, if_pos status, refused]

/-- A reply that makes no link leaves the record as it is. -/
theorem Connection.updateLink_of_not (h : ∀ link, ¬ (reply.status = 0 ∧
      negotiate reply (s.fallback c reply.interface) = .ok link)) :
    ∃ verdict, verdict ≠ .accepted ∧ c.updateLink s reply = (⟨verdict, c.link, {}⟩, c) := by
  by_cases hstatus : reply.status = 0
  · cases hagreed : negotiate reply (s.fallback c reply.interface) with
    | ok link => exact absurd ⟨hstatus, hagreed⟩ (h link)
    | error rejection =>
      exact ⟨.refused, by simp, Connection.updateLink_of_error hstatus hagreed⟩
  · rw [Connection.updateLink, if_neg hstatus]
    exact ⟨.failed (Cause.ofCode reply.status), by simp, rfl⟩

end

/-! ### Reactions -/

section

variable {ι : Type} [Interceptor ι] {s : Setting} {m : Controller ι} {mail : Mail} {r : Reaction ι}

/-- The bearer is seen to become idle exactly if a reaction takes it there. -/
theorem Rule.return_iff (h : Rule s m.connection m.interceptor m.phase mail r)
    (halt : r.halt = none) :
    (m.after s mail r).2.countP Event.isReturn ≠ 0 ↔ ∃ arrival, r.next = some (.idle, arrival) := by
  constructor
  · intro hreturn
    by_contra hstays
    refine hreturn (countP_isReturn_eq_zero fun event hevent => ?_)
    rcases Controller.mem_after hevent with hown | ⟨hhalt, -⟩ | ⟨-, target, arrival, hnext,
      rfl | hentered⟩
    · exact h.isReturn event hown
    · exact absurd halt hhalt
    · cases target with
      | idle => exact absurd ⟨arrival, hnext⟩ hstays
      | _ => rfl
    · exact isReturn_enter s r.connection target arrival event hentered
  · rintro ⟨arrival, hnext⟩
    exact Nat.pos_iff_ne_zero.mp (Controller.isReturn_mem_after s m mail halt hnext)

/-- What a reaction that does not take the bearer back to idle can do to the link and to the number
of the bearer. -/
theorem Rule.relinks {c : Connection} {i : ι} {p : Phase} (h : Rule s c i p mail r)
    (stays : ∀ arrival, r.next ≠ some (.idle, arrival)) :
    (∃ request reply link, mail = .setUpDone request (.ok reply) ∧ p = .settingUp ∧
      request.generation = c.generation ∧ reply.status = 0 ∧
        negotiate reply (s.fallback c reply.interface) = .ok link) ∨
    (∃ number inquiry, mail = .inquiry number inquiry ∧
      r.connection = (c.answer s p inquiry).2) ∨
    r.connection.link = c.link ∧ r.connection.bearerId = c.bearerId := by
  cases h with
  | @accepts request reply link status agreed current =>
    exact Or.inl ⟨request, reply, link, rfl, rfl, current, status, agreed⟩
  | @answers _ number inquiry kept => exact Or.inr (Or.inl ⟨number, inquiry, rfl, rfl⟩)
  | fails | released | resets => exact absurd rfl (stays _)
  | _ => exact Or.inr (Or.inr ⟨rfl, rfl⟩)

/-- What the radio reports on a task does not stop a bearer. -/
theorem Rule.live_of_task {c : Connection} {i : ι} {p : Phase} {task : Task}
    (h : Rule s c i p mail r) (reports : mail.task? = some task) : r.halt = none := by
  cases h with
  | impossible | stops => cases reports
  | _ => rfl

omit [Interceptor ι] in
theorem Controller.connection_after (halt : r.halt = none)
    (stays : ∀ arrival, r.next ≠ some (.idle, arrival)) :
    (m.after s mail r).1.connection = r.connection := by
  rw [Controller.after, halt]
  cases hnext : r.next with
  | none => rfl
  | some next =>
    obtain ⟨target, arrival⟩ := next
    cases target with
    | idle => exact absurd hnext (stays arrival)
    | _ => rfl

end

/-! ### Acts -/

namespace Scene

section

variable {ι : Type} [Interceptor ι] {w : Scene ι} {act : Act ι} {request : BringUp}
  {reply : SetupReply} {link : Link}

/-- An attempt whose answer makes a link succeeds. -/
theorem Replies.accepted (h : w.Replies act request reply) (makes : w.Makes reply link) :
    (w.step act).1.controller.phase = .up ∧
      (w.step act).1.controller.connection = { w.controller.connection with
        link := link.withProxy w.controller.connection.link.proxy, bearerId := reply.bearerId } ∧
      (w.step act).2 = [.moved .settingUp .up, .broughtUp request (.ok reply.bearerId)] := by
  obtain ⟨⟨rfl, rest, first⟩, hsetting, hcurrent⟩ := h
  obtain ⟨r, hreact, -, hstep⟩ := step_turn first
  rw [hsetting, react, if_pos ⟨rfl, hcurrent⟩, onSetUpDone,
    Connection.updateLink_of_ok makes.1 makes.2] at hreact
  rw [hstep, ← hreact]
  refine ⟨rfl, rfl, ?_⟩
  show [Event.moved w.controller.phase .up, _] = _
  rw [hsetting]
  rfl

/-- An attempt whose answer makes no link is cleaned up after. -/
theorem Replies.refused (h : w.Replies act request reply) (status : reply.status = 0)
    (refused : ∀ link, ¬ w.Makes reply link) :
    (w.step act).1.controller.phase = .cleaningUp ∧
      (w.step act).1.controller.connection = w.controller.connection ∧
      (w.step act).1.controller.outbox =
        w.controller.outbox ++ [.release reply.bearerId .unspecified (.cleanUp request)] ∧
      (w.step act).2 = [.moved .settingUp .cleaningUp] := by
  obtain ⟨⟨rfl, rest, first⟩, hsetting, hcurrent⟩ := h
  obtain ⟨r, hreact, -, hstep⟩ := step_turn first
  cases hagreed : negotiate reply (w.setting.fallback w.controller.connection reply.interface) with
  | ok link => exact absurd ⟨status, hagreed⟩ (refused link)
  | error rejection =>
    rw [hsetting, react, if_pos ⟨rfl, hcurrent⟩, onSetUpDone,
      Connection.updateLink_of_error status hagreed] at hreact
    rw [hstep, ← hreact]
    refine ⟨rfl, rfl, rfl, ?_⟩
    show [Event.moved w.controller.phase .cleaningUp] = _
    rw [hsetting]

/-- An answer that comes too late leaves the record as it is. -/
theorem connection_of_stale {result : Except RadioError SetupReply}
    (h : w.Handles act (.setUpDone request result))
    (stale : ¬ (w.controller.phase = .settingUp ∧
      request.generation = w.controller.connection.generation)) :
    (w.step act).1.controller.connection = w.controller.connection := by
  obtain ⟨rfl, rest, first⟩ := h
  obtain ⟨r, hreact, -, hstep⟩ := step_turn first
  rw [react, if_neg stale] at hreact
  rw [hstep, ← hreact]
  rfl

/-- An update changes nothing but the link, and that only if its reply makes one. -/
theorem step_updateLink {number : Nat} (h : w.Handles act (.inquiry number (.updateLink reply))) :
    w.Updates act number reply := by
  obtain ⟨rfl, rest, first⟩ := h
  obtain ⟨r, hreact, -, hstep⟩ := step_turn first
  rw [react, if_neg (by simp), Connection.answer] at hreact
  by_cases hmakes : ∃ link, w.Makes reply link
  · obtain ⟨link, hstatus, hagreed⟩ := hmakes
    rw [Connection.updateLink_of_ok hstatus hagreed] at hreact
    constructor <;> rw [hstep, ← hreact]
    · rfl
    · rfl
    · exact ⟨.accepted, rfl, Or.inl ⟨rfl, link, ⟨hstatus, hagreed⟩, rfl⟩⟩
  · have hnone : ∀ link, ¬ w.Makes reply link := fun link h => hmakes ⟨link, h⟩
    obtain ⟨verdict, hverdict, hupdate⟩ := Connection.updateLink_of_not hnone
    rw [hupdate] at hreact
    constructor <;> rw [hstep, ← hreact]
    · rfl
    · rfl
    · refine ⟨verdict, ?_, Or.inr ⟨hverdict, hnone, rfl⟩⟩
      rw [if_neg hverdict]
      rfl

/-- What is agreed on becomes the link; the proxy stays. -/
theorem Agrees.step (h : w.Agrees act link) :
    (w.step act).1.controller.connection.link =
      link.withProxy w.controller.connection.link.proxy := by
  obtain ⟨reply, ⟨request, hreplies⟩ | ⟨number, hhandles⟩, hmakes⟩ := h
  · rw [(hreplies.accepted hmakes).2.1]
  · obtain ⟨verdict, -, ⟨-, other, hother, hlink⟩ | ⟨-, hnone, -⟩⟩ :=
      (step_updateLink hhandles).answer
    · cases hmakes.2.symm.trans hother.2
      exact hlink
    · exact absurd hmakes (hnone link)

/-- What is configured becomes the proxy, and nothing else changes in the link. -/
theorem Configures.step {proxy : Option Proxy} (h : w.Configures act proxy) :
    (w.step act).1.controller.connection.link =
      w.controller.connection.link.withProxy proxy := by
  obtain ⟨number, rfl, rest, first⟩ := h
  obtain ⟨r, hreact, -, hstep⟩ := step_turn first
  rw [react, if_neg (by simp), Connection.answer] at hreact
  rw [hstep, ← hreact]
  rfl

/-- Where nothing is agreed on, the link and the number of the bearer stay, but for a proxy that is
configured, unless the bearer becomes idle. -/
theorem link_stays (live : (w.step act).1.bearer.isHalted = false)
    (stays : (w.step act).2.countP Event.isReturn = 0) (disagrees : ∀ link, ¬ w.Agrees act link) :
    (w.step act).1.controller.connection.bearerId = w.controller.connection.bearerId ∧
      ((w.step act).1.controller.connection.link = w.controller.connection.link ∨
        ∃ proxy, w.Configures act proxy) := by
  rcases (w.change_step act).turned_or_quiet with
    ⟨mail, rest, r, rfl, first, hrule, hafter, hevents⟩ | hquiet
  · rw [hafter] at live ⊢
    rw [hevents] at stays
    have hhalt := (Controller.live_after_iff.mp live).1
    have hstays : ∀ arrival, r.next ≠ some (.idle, arrival) := fun arrival hnext =>
      (hrule.return_iff (m := w.controller.withMailbox rest) hhalt).mpr ⟨arrival, hnext⟩ stays
    rw [show (w.withController _).controller.connection = r.connection from
      Controller.connection_after hhalt hstays]
    rcases hrule.relinks hstays with ⟨request, reply, link, rfl, hsetting, hcurrent, hstatus,
      hagreed⟩ | ⟨number, inquiry, rfl, hconnection⟩ | ⟨hlink, hid⟩
    · have hreplies : w.Replies .turn request reply := ⟨⟨rfl, rest, first⟩, hsetting, hcurrent⟩
      exact absurd ⟨reply, Or.inl ⟨request, hreplies⟩, hstatus, hagreed⟩ (disagrees link)
    · rw [hconnection]
      cases inquiry with
      | setProxy proxy => exact ⟨rfl, Or.inr ⟨proxy, number, rfl, rest, first⟩⟩
      | updateLink reply =>
        have hnone : ∀ link, ¬ w.Makes reply link := fun link hmakes =>
          disagrees link ⟨reply, Or.inr ⟨number, rfl, rest, first⟩, hmakes⟩
        obtain ⟨verdict, -, hupdate⟩ := Connection.updateLink_of_not hnone
        rw [Connection.answer, hupdate]
        exact ⟨rfl, Or.inl rfl⟩
      | _ => exact ⟨rfl, Or.inl rfl⟩
    · exact ⟨hid, Or.inl hlink⟩
  · rw [hquiet.connection]
    exact ⟨rfl, Or.inl rfl⟩

/-- Becoming idle wipes the link and the number of the bearer. -/
theorem link_wiped (live : (w.step act).1.bearer.isHalted = false)
    (returns : (w.step act).2.countP Event.isReturn ≠ 0) :
    (w.step act).1.controller.connection.link = {} ∧
      (w.step act).1.controller.connection.bearerId = -1 := by
  rcases (w.change_step act).turned_or_quiet with
    ⟨mail, rest, r, -, first, hrule, hafter, hevents⟩ | hquiet
  · rw [hafter] at live ⊢
    rw [hevents] at returns
    have hhalt := (Controller.live_after_iff.mp live).1
    obtain ⟨arrival, hnext⟩ :=
      (hrule.return_iff (m := w.controller.withMailbox rest) hhalt).mp returns
    show ((w.controller.withMailbox rest).after w.setting mail r).1.connection.link = {} ∧
      ((w.controller.withMailbox rest).after w.setting mail r).1.connection.bearerId = -1
    rw [Controller.after, hhalt, hnext]
    exact ⟨rfl, rfl⟩
  · refine absurd (countP_isReturn_eq_zero fun event hevent => ?_) returns
    rcases hquiet.events event hevent with ⟨call, command, rfl⟩ | ⟨-, request, rfl⟩
    · rfl
    · rfl

/-- An answer to an attempt, in time or too late, that makes no link leaves the link and the number
of the bearer as they are, or they are wiped as the bearer becomes idle. -/
theorem unchanged_of_setUpDone {result : Except RadioError SetupReply}
    (h : w.Handles act (.setUpDone request result)) (live : w.bearer.isHalted = false)
    (disagrees : ∀ link, ¬ w.Agrees act link) : w.Leaves act := by
  obtain ⟨rfl, rest, first⟩ := h
  have hlive : (w.step .turn).1.bearer.isHalted = false := by
    obtain ⟨r, -, hrule, hstep⟩ := step_turn first
    rw [hstep]
    exact Controller.live_after_iff.mpr ⟨hrule.live_of_task rfl, live⟩
  rw [Leaves]
  split
  · next hstays =>
    obtain ⟨hid, hlink | ⟨proxy, number, -, rest', first'⟩⟩ := link_stays hlive hstays disagrees
    · exact ⟨hlink, hid⟩
    · rw [first] at first'
      cases first'
  · next hreturns => exact link_wiped hlive hreturns

end

/-! ### Runs -/

section

variable {ι : Type} [Interceptor ι] {α : Type} {read : Scene ι → α}
  {happens : Scene ι → Act ι → α → Prop} {wiped : α} {w : Scene ι} {act : Act ι}
  {acts : List (Act ι)}

theorem Latest.concat {what : α} (h : w.Latest happens acts what)
    (stays : ((w.run acts).1.step act).2.countP Event.isReturn = 0)
    (nothing : ∀ other, ¬ happens (w.run acts).1 act other) :
    w.Latest happens (acts ++ [act]) what := by
  obtain ⟨earlier, one, later, rfl, hhappens, hstays, hsince⟩ := h
  rw [run_append] at stays nothing
  refine ⟨earlier, one, later ++ [act], ?_, hhappens, ?_, fun first other rest what' hsplit => ?_⟩
  · rw [List.append_assoc, List.cons_append]
  · rw [← List.cons_append, run_concat, List.countP_append]
    exact Nat.add_eq_zero_iff.mpr ⟨hstays, stays⟩
  · rcases split_concat hsplit with ⟨rfl, rfl, -⟩ | ⟨rest', -, rfl⟩
    · exact nothing what'
    · exact hsince first other rest' what' rfl

theorem Nothing.concat (h : w.Nothing happens acts)
    (nothing : ∀ other, ¬ happens (w.run acts).1 act other) :
    w.Nothing happens (acts ++ [act]) := by
  intro earlier one later what hsplit hhappens hstays
  rcases split_concat hsplit with ⟨rfl, rfl, -⟩ | ⟨later', rfl, rfl⟩
  · exact nothing what hhappens
  · rw [← List.cons_append, run_concat, List.countP_append] at hstays
    exact h earlier one later' what rfl hhappens (Nat.add_eq_zero_iff.mp hstays).1

/-- Whatever has happened before the bearer becomes idle is past. -/
theorem nothing_of_return (returns : ((w.run acts).1.step act).2.countP Event.isReturn ≠ 0) :
    w.Nothing happens (acts ++ [act]) := by
  intro earlier one later what hsplit _ hstays
  rcases split_concat hsplit with ⟨rfl, rfl, rfl⟩ | ⟨later', rfl, rfl⟩
  · rw [run_cons, run_nil, List.append_nil] at hstays
    exact returns hstays
  · rw [← List.cons_append, run_concat, List.countP_append] at hstays
    rw [run_append] at returns
    exact returns (Nat.add_eq_zero_iff.mp hstays).2

/-- What is replaced by the news and wiped with the record is the latest news since the bearer
became idle. -/
theorem latest_or_nothing (tracks : Tracks read happens wiped) (fresh : read w = wiped)
    (live : (w.run acts).1.bearer.isHalted = false) :
    (∃ what, w.Latest happens acts what ∧ read (w.run acts).1 = what) ∨
      w.Nothing happens acts ∧ read (w.run acts).1 = wiped := by
  induction acts using List.reverseRecOn with
  | nil =>
    refine Or.inr ⟨fun earlier act later what hsplit => ?_, fresh⟩
    cases earlier <;> cases hsplit
  | append_singleton acts act ih =>
    rw [run_concat] at live ⊢
    have hbefore := ih (((w.run acts).1.change_step act).live live)
    by_cases hreturns : ((w.run acts).1.step act).2.countP Event.isReturn ≠ 0
    · exact Or.inr ⟨nothing_of_return hreturns, tracks.idle _ act live hreturns⟩
    · rw [not_not] at hreturns
      by_cases hnews : ∃ what, happens (w.run acts).1 act what
      · obtain ⟨what, hwhat⟩ := hnews
        refine Or.inl ⟨what, ⟨acts, act, [], rfl, hwhat, ?_, ?_⟩, tracks.news _ act what hwhat⟩
        · rw [run_cons, run_nil, List.append_nil]
          exact hreturns
        · intro first one rest other hsplit
          cases first <;> cases hsplit
      · have hnothing : ∀ what, ¬ happens (w.run acts).1 act what :=
          fun what hwhat => hnews ⟨what, hwhat⟩
        have hsame := tracks.same _ act live hreturns hnothing
        rcases hbefore with ⟨what, hlatest, hread⟩ | ⟨hnone, hread⟩
        · exact Or.inl ⟨what, hlatest.concat hreturns hnothing, hsame.trans hread⟩
        · exact Or.inr ⟨hnone.concat hnothing, hsame.trans hread⟩

/-- The link without its proxy follows what is agreed on. -/
theorem tracks_link :
    Tracks (fun w : Scene ι => w.controller.connection.link.withProxy none) Agrees {} where
  idle w act live returns := by
    rw [(link_wiped live returns).1]
    rfl
  news w act link h := by
    obtain ⟨reply, -, hmakes⟩ := id h
    rw [h.step, Link.withProxy_withProxy]
    exact withProxy_of_negotiate hmakes.2
  same w act live stays disagrees := by
    rcases (link_stays live stays disagrees).2 with hlink | ⟨proxy, hconfigures⟩
    · rw [hlink]
    · rw [hconfigures.step, Link.withProxy_withProxy]

/-- The proxy follows what the owner configures. -/
theorem tracks_proxy :
    Tracks (fun w : Scene ι => w.controller.connection.link.proxy) Configures none where
  idle w act live returns := by
    rw [(link_wiped live returns).1]
  news w act proxy h := by
    rw [h.step, Link.withProxy_proxy]
  same w act live stays nothing := by
    by_cases hagrees : ∃ link, w.Agrees act link
    · obtain ⟨link, hlink⟩ := hagrees
      rw [hlink.step, Link.withProxy_proxy]
    · have hdisagrees : ∀ link, ¬ w.Agrees act link := fun link h => hagrees ⟨link, h⟩
      rcases (link_stays live stays hdisagrees).2 with hlink | ⟨proxy, hconfigures⟩
      · rw [hlink]
      · exact absurd hconfigures (nothing proxy)

end

end Scene

/-- The link of a bearer that works is the one that was agreed on last since the bearer became idle,
or empty if there is none; and its proxy is the one that the owner configured last since then, or
none.  An answer to an attempt that comes too late, or brings unusable parameters, changes nothing on
record, and one that makes no link leaves the link and the number of the bearer as they are, unless
the bearer becomes idle.  An update changes the link at most, and that only if its reply makes one;
and its owner is told so. -/
theorem link_provenance {ι : Type} [Interceptor ι] (s : Setting) (i : ι) (acts : List (Act ι))
    (live : ((Scene.start s i).run acts).1.bearer.isHalted = false) :
    ((∃ link, (Scene.start s i).Latest Scene.Agrees acts link ∧
        ((Scene.start s i).run acts).1.controller.connection.link.withProxy none = link) ∨
      (Scene.start s i).Nothing Scene.Agrees acts ∧
        ((Scene.start s i).run acts).1.controller.connection.link.withProxy none = {}) ∧
    ((∃ proxy, (Scene.start s i).Latest Scene.Configures acts proxy ∧
        ((Scene.start s i).run acts).1.controller.connection.link.proxy = proxy) ∨
      (Scene.start s i).Nothing Scene.Configures acts ∧
        ((Scene.start s i).run acts).1.controller.connection.link.proxy = none) ∧
    ∀ act, ((Scene.start s i).run acts).1.AllOrNothing act := by
  refine ⟨Scene.latest_or_nothing Scene.tracks_link rfl live,
    Scene.latest_or_nothing Scene.tracks_proxy rfl live, fun act => ?_⟩
  exact {
    stale := fun _ _ handles stale => Scene.connection_of_stale handles stale
    refused := fun _ _ replies status refused => (replies.refused status refused).2.1
    setUpDone := fun _ _ handles disagrees => Scene.unchanged_of_setUpDone handles live disagrees
    updateLink := fun _ _ handles => Scene.step_updateLink handles }

/-- A reply of the radio with another name server. -/
def renewedReply : SetupReply := { plainReply with dns := ["10.0.0.9"] }

/-- The owner of a bearer that is up configures a proxy, and has the link negotiated again. -/
def renegotiated : List (Act Unit) :=
  [.ask (.bringUp "a" {}), .take, .turn, .turn, .answer 0 { setUp := some (.ok plainReply) },
    .take, .turn, .inquire (.setProxy (some { host := "proxy" })), .take, .turn,
    .inquire (.updateLink renewedReply), .take, .turn]

/-- The link is the new one then, and has the proxy. -/
theorem link_provenance_renegotiated :
    ((Scene.start .cellular ()).run renegotiated).1.bearer.isHalted = false ∧
    (Scene.start .cellular ()).Latest Scene.Agrees renegotiated
      { interface := some "rmnet0"
        addresses := [.host (.v4 ⟨10, 0, 0, 1⟩)]
        dns := [.v4 ⟨10, 0, 0, 9⟩]
        routes := [.v4 ⟨10, 0, 0, 3⟩] } ∧
    (Scene.start .cellular ()).Latest Scene.Configures renegotiated (some { host := "proxy" }) := by
  obtain ⟨hlink, hproxy, -⟩ := link_provenance .cellular () renegotiated (by decide)
  refine ⟨by decide, ?_, ?_⟩
  · rcases hlink with ⟨link, hlatest, rfl⟩ | ⟨-, hempty⟩
    · exact hlatest
    · exact absurd hempty (by decide)
  · rcases hproxy with ⟨proxy, hlatest, rfl⟩ | ⟨-, hnone⟩
    · exact hlatest
    · exact absurd hnone (by decide)

end PacketBearer
