/-
Who is attached to a bearer.

A roster is kept in five places: whoever is admitted is the first one on it, whoever joins is put
at its end, whoever leaves is taken off it, the last one to leave and a tear-down for all clear it,
and it is wiped with the record.  Whether the last one leaves is told by the length of the roster.
All this comes to one plain list, which can be read off the requests that are handled (`enrol`):

* `Rule.names_after` — a reaction does to the roster what its events do to the list;
* `Rule.staffed_after` — the roster names nobody twice, and it is empty or not as the phase demands;
* `rolled_run` — after every act the roster is that list, until the bearer halts;
* `roster_eq_membership` — so the roster is that list, the inquiries say so, and the bearer is
  released exactly when the list becomes empty.

Design note: none of this depends on generations, so that no bound on them is needed.
-/
import Mathlib.Data.List.Induction
import PacketBearer.Proofs.Generation

namespace PacketBearer

/-- Who is attached after an event, if those with these names were attached before it. -/
def enrol (names : List String) : Event → List String
  | .moved _ .idle => []
  | .handled .idle (.bringUp request) => [request.client]
  | .handled .up (.bringUp request) =>
    if request.client ∈ names then names else names ++ [request.client]
  | .handled .up (.tearDown request) =>
    match request.client with
    | some client => names.erase client
    | none => []
  | _ => names

/-- Who is attached after these events. -/
def membership (events : List Event) : List String := events.foldl enrol []

/-- What is seen of a request that a bearer which is up carries out at once. -/
def Mail.granted (id : Int32) : Mail → List Event
  | .bringUp request => [.handled .up (.bringUp request), .broughtUp request (.ok id)]
  | .tearDown request => [.handled .up (.tearDown request), .tornDown request]
  | _ => []

/-- What the roster of a bearer is like that works: empty while the bearer is idle, and not empty
while it is set up or up. -/
structure Controller.Staffed {ι : Type} (m : Controller ι) : Prop where
  nodup : m.connection.clients.names.Nodup
  idle : m.phase = .idle → m.connection.clients = ∅
  attended : m.phase = .settingUp ∨ m.phase = .up → m.connection.clients.names ≠ []

/-- A reaction to a request that is carried out at once: nobody else hears of it, and only the
roster can change, which does not become empty. -/
structure Reaction.Grants {ι : Type} (r : Reaction ι) (c : Connection) (mail : Mail) : Prop where
  events : r.events = mail.granted c.bearerId
  commands : r.commands = []
  next : r.next = none
  halt : r.halt = none
  connection : ∃ clients, r.connection = { c with clients } ∧ clients.names ≠ []

namespace Scene

variable {ι : Type} [Interceptor ι]

/-- The radio is told to release the bearer. -/
def Releases (w : Scene ι) (act : Act ι) : Prop :=
  (w.step act).1.controller.phase = .releasing ∧ ∃ id reason purpose,
    (w.step act).1.controller.outbox = w.controller.outbox ++ [.release id reason purpose]

/-- A request is carried out at once: only the roster can change. -/
structure Grants (w : Scene ι) (act : Act ι) (mail : Mail) : Prop where
  events : (w.step act).2 = mail.granted w.controller.connection.bearerId
  outbox : (w.step act).1.controller.outbox = w.controller.outbox
  phase : (w.step act).1.controller.phase = w.controller.phase
  connection : ∃ clients,
    (w.step act).1.controller.connection = { w.controller.connection with clients }

/-- After these events the roster is the list of those who are attached by the requests handled so
far, for all who can see it. -/
structure CountsClients (w : Scene ι) (events : List Event) : Prop where
  -- what has halted has let everybody go
  names : w.controller.connection.clients.names =
    if w.bearer.isHalted then [] else membership events
  nodup : w.controller.connection.clients.names.Nodup
  clients : ∀ number rest, w.controller.mailbox = .inquiry number .clients :: rest →
    (w.step .turn).2 = [.answered number (.clients (membership events))]
  count : ∀ number rest, w.controller.mailbox = .inquiry number .clientCount :: rest →
    (w.step .turn).2 = [.answered number (.count (membership events).length)]
  -- the marks that the list is read off are those of the request that is handled
  admits : w.controller.phase = .idle → ∀ act request, w.Handles act (.bringUp request) →
    (w.step act).1.bearer.isHalted = false →
      (w.step act).1.controller.connection.clients.names = [request.client]
  releases : w.controller.phase = .up → ∀ act, w.Releases act ↔
    ∃ request, w.Handles act (.tearDown request) ∧ membership (events ++ (w.step act).2) = []
  grants : w.controller.phase = .up → ∀ act mail, w.Handles act mail → mail.isRequest = true →
    ¬ w.Releases act → w.Grants act mail
  detached : ∀ before request behind client, events = before ++ .tornDown request :: behind →
    request.client = some client → client ∉ membership before

end Scene

/-! ### Lists of names -/

/-- Entering a phase changes nobody's membership. -/
theorem enrol_enter {s : Setting} {c : Connection} {target : Phase} {arrival : Arrival}
    {events : List Event} (h : ∀ event ∈ events, event ∈ (c.enter s target arrival).2)
    (names : List String) : events.foldl enrol names = names := by
  induction events with
  | nil => rfl
  | cons event events ih =>
    have hsame : enrol names event = names := by
      rcases Connection.mem_enter (h event List.mem_cons_self) with
        ⟨_, _, rfl⟩ | ⟨_, rfl⟩ | ⟨_, rfl⟩ | ⟨_, rfl⟩
      · rfl
      · rfl
      · rfl
      · rfl
    rw [List.foldl_cons, hsame]
    exact ih fun other hother => h other (List.mem_cons_of_mem _ hother)

theorem Roster.names_attach (r : Roster) (name : String) :
    (r.attach name).2.names = if name ∈ r.names then r.names else r.names ++ [name] := by
  rw [Roster.attach]
  by_cases hname : name ∈ r
  · rw [if_pos hname, if_pos (Roster.mem_iff.mp hname)]
  · rw [if_neg hname, if_neg (fun h => hname (Roster.mem_iff.mpr h))]

theorem Roster.names_detach {r : Roster} (nodup : r.names.Nodup) (name : String) :
    (r.detach name).2.names = r.names.erase name := by
  rw [nodup.erase_eq_filter, Roster.detach]
  exact List.filter_congr fun other _ => by by_cases h : other = name <;> simp [h]

/-- The only client on a roster. -/
theorem Roster.names_of_size {r : Roster} {name : String} (member : name ∈ r)
    (alone : r.size = 1) : r.names = [name] := by
  obtain ⟨only, honly⟩ := List.length_eq_one_iff.mp alone
  rw [Roster.mem_iff, honly, List.mem_singleton] at member
  rw [honly, member]

theorem eq_of_pair {α : Type} {first second one : α} {before behind : List α}
    (h : [first, second] = before ++ one :: behind) (other : one ≠ first) :
    before = [first] ∧ one = second := by
  match before, h with
  | [], h => exact absurd (List.cons.inj h).1.symm other
  | [_], h =>
    obtain ⟨rfl, hrest⟩ := List.cons.inj h
    exact ⟨rfl, (List.cons.inj hrest).1.symm⟩
  | _ :: _ :: _, h => simp at h

/-! ### Reactions -/

section

variable {ι : Type} [Interceptor ι] {s : Setting}

omit [Interceptor ι] in
/-- Whoever is admitted is the only one on an empty roster. -/
theorem Connection.names_begun {c : Connection} (empty : c.clients = ∅) (request : BringUp) :
    (c.begun request).clients.names = [request.client] := by
  rw [Connection.begun, empty]
  exact Roster.names_attach_empty _

/-- A reaction keeps the roster as it should be. -/
theorem Rule.staffed_after {m : Controller ι} {mail : Mail} {r : Reaction ι}
    (h : Rule s m.connection m.interceptor m.phase mail r) (halt : r.halt = none)
    (staffed : m.Staffed) : (m.after s mail r).1.Staffed := by
  obtain ⟨phase, c, i, mailbox, deferred, outbox, halted⟩ := m
  obtain ⟨hnodup, hidle, hattended⟩ := staffed
  have same : ∀ {m' : Controller ι}, m'.phase = phase → m'.connection.clients = c.clients →
      m'.Staffed := by
    intro m' hphase hclients
    refine ⟨?_, ?_, ?_⟩
    · rw [hclients]
      exact hnodup
    · rw [hclients, hphase]
      exact hidle
    · rw [hclients, hphase]
      exact hattended
  have idle : ∀ {m' : Controller ι}, m'.phase = .idle → m'.connection.clients = ∅ →
      m'.Staffed := by
    intro m' hphase hclients
    refine ⟨?_, fun _ => hclients, fun h => ?_⟩
    · rw [hclients]
      exact List.nodup_nil
    · rw [hphase] at h
      rcases h with h | h
      · cases h
      · cases h
  cases h with
  | impossible | stops => cases halt
  | waits | vacuous | strange | asks | ignores | hears => exact same rfl rfl
  | @answers _ _ inquiry _ =>
    obtain ⟨link, intent, hanswer⟩ := c.answer_eq s phase inquiry
    refine same rfl ?_
    show (c.answer s phase inquiry).2.clients = c.clients
    rw [hanswer]
  | fails | released | resets => exact idle rfl rfl
  | @intercepted request | @ordered request =>
    have hnames := c.names_begun (hidle rfl) request
    refine ⟨?_, fun h => (by cases h), fun _ => ?_⟩
    · show (c.begun request).clients.names.Nodup
      rw [hnames]
      exact List.nodup_cons.mpr ⟨List.not_mem_nil, List.nodup_nil⟩
    · show (c.begun request).clients.names ≠ []
      rw [hnames]
      exact List.cons_ne_nil _ _
  | joins request =>
    exact ⟨Roster.nodup_attach hnodup _, fun h => (by cases h), fun _ => Roster.attach_ne_nil _ _⟩
  | leaves own member others =>
    exact ⟨Roster.nodup_detach hnodup _, fun h => (by cases h),
      fun _ => Roster.detach_ne_nil hnodup member others⟩
  | releases last =>
    exact ⟨List.nodup_nil, fun h => (by cases h), fun h => h.elim (fun h => by cases h)
      fun h => by cases h⟩
  | accepts =>
    -- whoever was admitted for the attempt is attached to the bearer that has come of it
    exact ⟨hnodup, fun h => (by cases h), fun _ => hattended (Or.inl rfl)⟩
  | refuses =>
    exact ⟨hnodup, fun h => (by cases h), fun h => h.elim (fun h => by cases h)
      fun h => by cases h⟩

omit [Interceptor ι] in
/-- Nobody is attached any more as soon as the bearer becomes idle. -/
theorem names_of_return {m : Controller ι} {mail : Mail} {r : Reaction ι} {arrival : Arrival}
    (halt : r.halt = none) (next : r.next = some (.idle, arrival)) :
    (m.after s mail r).1.connection.clients.names =
      (m.after s mail r).2.foldl enrol m.connection.clients.names := by
  have hentered : (r.connection.enter s .idle arrival).2.foldl enrol [] = [] :=
    enrol_enter (fun event hevent => hevent) []
  rw [Controller.after, halt, next]
  dsimp only
  rw [List.foldl_append]
  exact hentered.symm

/-- A reaction does to the roster what its events do to the list. -/
theorem Rule.names_after {m : Controller ι} {mail : Mail} {r : Reaction ι}
    (h : Rule s m.connection m.interceptor m.phase mail r) (halt : r.halt = none)
    (staffed : m.Staffed) :
    (m.after s mail r).1.connection.clients.names =
      (m.after s mail r).2.foldl enrol m.connection.clients.names := by
  obtain ⟨phase, c, i, mailbox, deferred, outbox, halted⟩ := m
  obtain ⟨hnodup, hidle, -⟩ := staffed
  cases h with
  | impossible | stops => cases halt
  | waits | vacuous | hears | refuses => rfl
  | asks | accepts => rfl
  | @answers _ _ inquiry _ =>
    obtain ⟨link, intent, hanswer⟩ := c.answer_eq s phase inquiry
    show (c.answer s phase inquiry).2.clients.names = c.clients.names
    rw [hanswer]
  | ignores reports =>
    cases mail with
    | setUpDone | lastCauseDone | releaseDone => rfl
    | _ => cases reports
  | fails | released | resets => exact names_of_return rfl rfl
  | @intercepted request | @ordered request => exact c.names_begun (hidle rfl) request
  | joins request => exact Roster.names_attach _ _
  | @strange request client own stranger =>
    show c.clients.names = enrol c.clients.names (.handled .up (.tearDown request))
    rw [enrol, own]
    exact (List.erase_of_not_mem stranger).symm
  | @leaves request client own member others =>
    show (c.clients.detach client).2.names =
      enrol c.clients.names (.handled .up (.tearDown request))
    rw [enrol, own]
    exact Roster.names_detach hnodup client
  | @releases request last =>
    show [] = enrol c.clients.names (.handled .up (.tearDown (request.stamped c)))
    rw [enrol]
    cases hclient : request.client with
    | none => simp [TearDown.stamped, hclient]
    | some client =>
      obtain ⟨member, alone⟩ := last client hclient
      have hnames : c.clients.names = [client] := Roster.names_of_size member alone
      simp [TearDown.stamped, hclient, hnames]

/-- A bring-up that comes to an idle bearer puts its client on the roster, and nobody else. -/
theorem Rule.names_of_admitted {m : Controller ι} {request : BringUp} {r : Reaction ι}
    (h : Rule s m.connection m.interceptor m.phase (.bringUp request) r) (halt : r.halt = none)
    (idle : m.phase = .idle) (staffed : m.Staffed) :
    (m.after s (.bringUp request) r).1.connection.clients.names = [request.client] := by
  obtain ⟨phase, c, i, mailbox, deferred, outbox, halted⟩ := m
  obtain rfl : phase = .idle := idle
  cases h with
  | impossible => cases halt
  | intercepted | ordered => exact c.names_begun (staffed.idle rfl) request
  | waits busy => cases busy
  | ignores reports => cases reports

omit [Interceptor ι] in
theorem foldl_of_return {c : Connection} {arrival : Arrival} {source : Phase}
    {before behind : List Event} {one : Event} {names : List String}
    (h : .moved source .idle :: (c.enter s .idle arrival).2 = before ++ one :: behind)
    (other : one ≠ .moved source .idle) : before.foldl enrol names = [] := by
  cases before with
  | nil => exact absurd (List.cons.inj h).1.symm other
  | cons first before =>
    obtain ⟨rfl, hentered⟩ := List.cons.inj h
    have hbefore : ∀ event ∈ before, event ∈ (c.enter s .idle arrival).2 := by
      intro event hevent
      rw [hentered]
      exact List.mem_append_left _ hevent
    exact enrol_enter hbefore []

/-- Whoever hears that its tear-down is completed is not attached. -/
theorem Rule.detached {m : Controller ι} {mail : Mail} {r : Reaction ι} {request : TearDown}
    {client : String} {before behind : List Event}
    (h : Rule s m.connection m.interceptor m.phase mail r) (staffed : m.Staffed)
    (split : (m.after s mail r).2 = before ++ .tornDown request :: behind)
    (own : request.client = some client) :
    client ∉ before.foldl enrol m.connection.clients.names := by
  have hmem : .tornDown request ∈ (m.after s mail r).2 := by
    rw [split]
    exact List.mem_append_right _ List.mem_cons_self
  obtain ⟨phase, c, i, mailbox, deferred, outbox, halted⟩ := m
  cases h with
  | vacuous =>
    obtain ⟨rfl, -⟩ := eq_of_pair split (by simp)
    show client ∉ c.clients.names
    rw [show c.clients = ∅ from staffed.idle rfl]
    exact List.not_mem_nil
  | strange | leaves =>
    obtain ⟨rfl, hrequest⟩ := eq_of_pair split (by simp)
    rw [Event.tornDown.injEq] at hrequest
    rw [← hrequest, List.foldl_cons, List.foldl_nil, enrol, own]
    exact staffed.nodup.not_mem_erase
  | released =>
    -- the record has been wiped before anybody is told
    rw [foldl_of_return (s := s) (c := c) split (by simp)]
    exact List.not_mem_nil
  | ignores reports =>
    cases mail with
    | setUpDone | lastCauseDone | releaseDone =>
      simp [Controller.after, ignore, Mail.request?] at hmem
    | _ => cases reports
  | impossible | waits | intercepted | ordered | joins | releases | fails | asks | accepts | refuses
    | hears | answers | resets | stops =>
    simp [Controller.after, Controller.move, Connection.enter, Arrival.request?, wait, join, fail,
      noted] at hmem

/-- A bearer that is up carries out a request at once, or it is released for it. -/
theorem Rule.granted_or_releases {c : Connection} {i : ι} {mail : Mail} {r : Reaction ι}
    (h : Rule s c i .up mail r) (request : mail.isRequest = true) (nodup : c.clients.names.Nodup)
    (attended : c.clients.names ≠ []) :
    r.Grants c mail ∨ ∃ request : TearDown, mail = .tearDown request ∧
      r.commands = [.release c.bearerId (.ofText request.reason)
        (.tearDown (request.stamped c))] ∧
      r.next = some (.releasing, .quiet) ∧ r.halt = none ∧ r.connection.clients = ∅ := by
  cases h with
  | waits busy => cases busy
  | joins request =>
    exact Or.inl ⟨rfl, rfl, rfl, rfl, _, rfl, Roster.attach_ne_nil _ _⟩
  | strange own stranger => exact Or.inl ⟨rfl, rfl, rfl, rfl, _, rfl, attended⟩
  | leaves own member others =>
    exact Or.inl ⟨rfl, rfl, rfl, rfl, _, rfl, Roster.detach_ne_nil nodup member others⟩
  | releases last => exact Or.inr ⟨_, rfl, rfl, rfl, rfl, rfl⟩
  | ignores reports =>
    rw [Mail.task?_of_isRequest request] at reports
    cases reports
  | released awaited => cases awaited
  | hears | answers | resets | stops => cases request

theorem Rule.answered {c : Connection} {i : ι} {p : Phase} {number : Nat} {inquiry : Inquiry}
    {r : Reaction ι} (h : Rule s c i p (.inquiry number inquiry) r) (kept : inquiry ≠ .reset) :
    r.events = [.answered number (c.answer s p inquiry).1] ∧ r.next = none ∧ r.halt = none := by
  cases h with
  | answers => exact ⟨rfl, rfl, rfl⟩
  | resets => exact absurd rfl kept
  | waits _ request => cases request
  | fails setback => cases setback
  | ignores reports => cases reports

theorem Rule.commands_of_up {c : Connection} {i : ι} {mail : Mail} {r : Reaction ι}
    (h : Rule s c i .up mail r) (other : mail.isRequest = false) : r.commands = [] := by
  cases h with
  | releases => cases other
  | released awaited => cases awaited
  | _ => rfl

end

/-! ### Runs -/

/-- Something in a list of two parts is in the first part or in the second. -/
theorem mem_of_split {α : Type} {first second before behind : List α} {one : α}
    (h : first ++ second = before ++ one :: behind) :
    (∃ later, first = before ++ one :: later) ∨
      ∃ before', before = first ++ before' ∧ second = before' ++ one :: behind := by
  rcases List.append_eq_append_iff.mp h with hlater | ⟨rest, hfirst, hrest⟩
  · exact Or.inr hlater
  · cases rest with
    | nil => exact Or.inr ⟨[], by simpa using hfirst.symm, by simpa using hrest.symm⟩
    | cons other rest =>
      obtain ⟨rfl, -⟩ := List.cons.inj hrest
      exact Or.inl ⟨rest, hfirst⟩

theorem membership_append (first second : List Event) :
    membership (first ++ second) = second.foldl enrol (membership first) := List.foldl_append

namespace Scene

variable {ι : Type} [Interceptor ι] {w w' : Scene ι} {act : Act ι} {now : List Event}

omit [Interceptor ι] in
/-- Where nothing is handled, nobody comes or goes. -/
theorem Quiet.foldl (h : Quiet w w' now) (names : List String) :
    now.foldl enrol names = names := by
  have hnow := h.events
  clear h
  induction now with
  | nil => rfl
  | cons event now ih =>
    have hsame : enrol names event = names := by
      rcases hnow event List.mem_cons_self with ⟨call, command, rfl⟩ | ⟨-, request, rfl⟩
      · rfl
      · rfl
    rw [List.foldl_cons, hsame]
    exact ih fun other hother => hnow other (List.mem_cons_of_mem _ hother)

/-- What is known of the roster after these events, until the bearer halts and when it has. -/
structure Rolled (w : Scene ι) (events : List Event) : Prop where
  staffed : w.bearer.isHalted = false → w.controller.Staffed
  names : w.controller.connection.clients.names =
    if w.bearer.isHalted then [] else membership events
  detached : ∀ before request behind client, events = before ++ .tornDown request :: behind →
    request.client = some client → client ∉ membership before

omit [Interceptor ι] in
theorem Quiet.rolled {earlier : List Event} (h : Quiet w w' now) (rolled : w.Rolled earlier) :
    w'.Rolled (earlier ++ now) := by
  have hhalted : w'.bearer.isHalted = w.bearer.isHalted := by
    rw [Bearer.isHalted, Bearer.isHalted, Controller.isHalted, Controller.isHalted, h.halt]
  refine ⟨fun live => ?_, ?_, fun before request behind client split own => ?_⟩
  · obtain ⟨hnodup, hidle, hattended⟩ := rolled.staffed (hhalted ▸ live)
    refine ⟨?_, ?_, ?_⟩
    · rw [h.connection]
      exact hnodup
    · rw [h.connection, h.phase]
      exact hidle
    · rw [h.connection, h.phase]
      exact hattended
  · rw [h.connection, hhalted, membership_append, h.foldl]
    exact rolled.names
  · rcases mem_of_split split with ⟨later, hold⟩ | ⟨before', rfl, hnow⟩
    · exact rolled.detached before request later client hold own
    · have hmem : Event.tornDown request ∈ now := by
        rw [hnow]
        exact List.mem_append_right _ List.mem_cons_self
      rcases h.events _ hmem with ⟨_, _, heq⟩ | ⟨-, _, heq⟩
      · cases heq
      · cases heq

theorem Change.rolled {earlier : List Event} (h : Change w act w' now)
    (spent : w.controller.Spent) (rolled : w.Rolled earlier) : w'.Rolled (earlier ++ now) := by
  rcases h.turned_or_quiet with ⟨mail, rest, r, -, first, hrule, rfl, rfl⟩ | hquiet
  · have hlive : w.bearer.isHalted = false := spent.live first
    have hrule' : Rule w.setting (w.controller.withMailbox rest).connection
        (w.controller.withMailbox rest).interceptor (w.controller.withMailbox rest).phase mail r :=
      hrule
    have hlive' : (w.controller.withMailbox rest).isHalted = false := hlive
    have hstaffed : (w.controller.withMailbox rest).Staffed :=
      ⟨(rolled.staffed hlive).nodup, (rolled.staffed hlive).idle, (rolled.staffed hlive).attended⟩
    have hnames : (w.controller.withMailbox rest).connection.clients.names =
        membership earlier := by
      have hnames := rolled.names
      rw [hlive, if_neg Bool.false_ne_true] at hnames
      exact hnames
    generalize w.controller.withMailbox rest = m at hrule' hlive' hstaffed hnames ⊢
    refine ⟨fun live => ?_, ?_, fun before request behind client split own => ?_⟩
    · exact hrule'.staffed_after (Controller.live_after_iff.mp live).1 hstaffed
    · cases hhalt : r.halt with
      | some halt =>
        rw [Controller.after, hhalt]
        rfl
      | none =>
        have live : (m.after w.setting mail r).1.isHalted = false :=
          Controller.live_after_iff.mpr ⟨hhalt, hlive'⟩
        show (m.after w.setting mail r).1.connection.clients.names =
          if (m.after w.setting mail r).1.isHalted then [] else _
        rw [live, if_neg Bool.false_ne_true, membership_append, ← hnames]
        exact hrule'.names_after hhalt hstaffed
    · rcases mem_of_split split with ⟨later, hold⟩ | ⟨before', rfl, hnow⟩
      · exact rolled.detached before request later client hold own
      · rw [membership_append, ← hnames]
        exact hrule'.detached hstaffed hnow own
  · exact hquiet.rolled rolled

theorem rolled_run (s : Setting) (i : ι) (acts : List (Act ι)) :
    ((start s i).run acts).1.Rolled ((start s i).run acts).2 := by
  induction acts using List.reverseRecOn with
  | nil =>
    refine ⟨fun _ => ⟨List.nodup_nil, fun _ => rfl, fun h => ?_⟩, rfl, ?_⟩
    · rcases h with h | h
      · cases h
      · cases h
    · rintro (_ | _) request behind client split own
      · cases split
      · cases split
  | append_singleton acts act ih =>
    rw [run_concat]
    exact (change_step _ act).rolled (spent_run acts (spent_start s i)) ih

/-! ### What a bearer does that is up -/

theorem Change.outbox (h : Change w act w' now)
    (turned : ¬ ∃ mail rest r, Turned w act w' now mail rest r) :
    w'.controller.outbox = w.controller.outbox ∨ w'.controller.outbox = [] := by
  cases h with
  | handled first rule => exact absurd ⟨_, _, _, ⟨rfl, first, rule, rfl, rfl⟩⟩ turned
  | dispatched empty =>
    obtain ⟨purposes, hcontroller⟩ :=
      Bearer.controller_dispatchAll w.setting w.bearer.clearOutbox w.controller.outbox
    refine Or.inr ?_
    rw [controller, hcontroller]
    rfl
  | asked wish => cases wish <;> exact Or.inl rfl
  | _ => exact Or.inl rfl

/-- A request that comes to a bearer which is up is carried out at once, and somebody stays, or the
bearer is released for a tear-down, and nobody stays. -/
theorem grants_or_releases {mail : Mail} {rest : List Mail} (staffed : w.controller.Staffed)
    (live : w.bearer.isHalted = false) (up : w.controller.phase = .up)
    (first : w.controller.mailbox = mail :: rest) (request : mail.isRequest = true) :
    (w.step .turn).1.bearer.isHalted = false ∧
      (w.Grants .turn mail ∧ (w.step .turn).1.controller.connection.clients.names ≠ [] ∨
        (w.Releases .turn ∧ ∃ request, mail = .tearDown request) ∧
          (w.step .turn).1.controller.connection.clients.names = []) := by
  obtain ⟨r, -, hrule, hstep⟩ := step_turn first
  rw [up] at hrule
  have hcases := hrule.granted_or_releases request staffed.nodup (staffed.attended (Or.inr up))
  have hhalt : r.halt = none := by
    rcases hcases with hgrants | ⟨_, _, _, _, hhalt, _⟩
    · exact hgrants.halt
    · exact hhalt
  rw [hstep]
  refine ⟨Controller.live_after_iff.mpr ⟨hhalt, live⟩, ?_⟩
  rcases hcases with hgrants | ⟨tearDown, rfl, hcommands, hnext, -, hclients⟩
  · obtain ⟨clients, hconnection, hattended⟩ := hgrants.connection
    have hafter : (w.controller.withMailbox rest).after w.setting mail r =
        ((w.controller.withMailbox rest).absorb mail r, r.events) := by
      rw [Controller.after, hgrants.halt, hgrants.next]
    rw [hafter] at hstep ⊢
    refine Or.inl ⟨⟨?_, ?_, ?_, clients, ?_⟩, ?_⟩
    · rw [hstep]
      exact hgrants.events
    · rw [hstep]
      show w.controller.outbox ++ r.commands = w.controller.outbox
      rw [hgrants.commands, List.append_nil]
    · rw [hstep]
      rfl
    · rw [hstep]
      exact hconnection
    · show r.connection.clients.names ≠ []
      rw [hconnection]
      exact hattended
  · have hafter : ((w.controller.withMailbox rest).after w.setting (.tearDown tearDown) r).1 =
        { (w.controller.withMailbox rest).absorb (.tearDown tearDown) r with
          phase := .releasing
          mailbox := ((w.controller.withMailbox rest).absorb (.tearDown tearDown) r).deferred ++
            ((w.controller.withMailbox rest).absorb (.tearDown tearDown) r).mailbox
          deferred := [] } := by
      rw [Controller.after, hhalt, hnext]
      rfl
    rw [hafter] at hstep ⊢
    refine Or.inr ⟨⟨⟨?_, w.controller.connection.bearerId, .ofText tearDown.reason,
      .tearDown (tearDown.stamped w.controller.connection), ?_⟩, tearDown, rfl⟩, ?_⟩
    · rw [hstep]
      rfl
    · rw [hstep]
      show w.controller.outbox ++ r.commands = _
      rw [hcommands]
    · show r.connection.clients.names = []
      rw [hclients]
      rfl

/-- Only a request can make a bearer that is up issue a command. -/
theorem outbox_of_up {mail : Mail} {rest : List Mail} (up : w.controller.phase = .up)
    (first : w.controller.mailbox = mail :: rest) (other : mail.isRequest = false) :
    (w.step .turn).1.controller.outbox = w.controller.outbox ∨
      (w.step .turn).1.controller.outbox = [] := by
  obtain ⟨r, -, hrule, hstep⟩ := step_turn first
  rw [up] at hrule
  rw [hstep]
  show ((w.controller.withMailbox rest).after w.setting mail r).1.outbox = _ ∨ _
  rw [Controller.after]
  cases hhalt : r.halt with
  | some halt => exact Or.inr rfl
  | none =>
    have hcommands : w.controller.outbox ++ r.commands = w.controller.outbox := by
      rw [hrule.commands_of_up other, List.append_nil]
    cases hnext : r.next with
    | none => exact Or.inl hcommands
    | some next => exact Or.inl hcommands

/-- An inquiry that is not a reset is answered and has no other effect that can be seen. -/
theorem answered_of_kept {number : Nat} {inquiry : Inquiry} {rest : List Mail}
    (first : w.controller.mailbox = .inquiry number inquiry :: rest) (kept : inquiry ≠ .reset) :
    (w.step .turn).2 = [.answered number
      (w.controller.connection.answer w.setting w.controller.phase inquiry).1] := by
  obtain ⟨r, -, hrule, hstep⟩ := step_turn first
  obtain ⟨hevents, hnext, hhalt⟩ := hrule.answered kept
  rw [hstep, Controller.after, hhalt, hnext]
  exact hevents

/-- An idle bearer that admits a bring-up, and works on, has its client on the roster alone. -/
theorem names_of_admitted {request : BringUp} {rest : List Mail} (staffed : w.controller.Staffed)
    (idle : w.controller.phase = .idle) (first : w.controller.mailbox = .bringUp request :: rest)
    (live : (w.step .turn).1.bearer.isHalted = false) :
    (w.step .turn).1.controller.connection.clients.names = [request.client] := by
  obtain ⟨r, -, hrule, hstep⟩ := step_turn first
  rw [hstep] at live ⊢
  exact Rule.names_of_admitted (m := w.controller.withMailbox rest) hrule
    (Controller.live_after_iff.mp live).1 idle ⟨staffed.nodup, staffed.idle, staffed.attended⟩

omit [Interceptor ι] in
/-- The roster after some more events. -/
theorem Rolled.membership_eq {events : List Event} (h : w.Rolled events)
    (live : w.bearer.isHalted = false) :
    membership events = w.controller.connection.clients.names := by
  rw [h.names, live, if_neg Bool.false_ne_true]

/-- A bearer that is up is released exactly when a tear-down takes the last client with it. -/
theorem releases_iff {events : List Event} (rolled : w.Rolled events)
    (rolled' : (w.step act).1.Rolled (events ++ (w.step act).2)) (spent : w.controller.Spent)
    (up : w.controller.phase = .up) :
    w.Releases act ↔
      ∃ request, w.Handles act (.tearDown request) ∧
        membership (events ++ (w.step act).2) = [] := by
  have idle : (w.step act).1.controller.outbox = w.controller.outbox ∨
      (w.step act).1.controller.outbox = [] → ¬ w.Releases act := by
    rintro (hsame | hnone) ⟨-, id, reason, purpose, houtbox⟩
    · rw [hsame] at houtbox
      simp at houtbox
    · rw [hnone] at houtbox
      simp at houtbox
  constructor
  · intro hreleases
    by_cases hturned : ∃ mail rest r, Turned w act (w.step act).1 (w.step act).2 mail rest r
    · obtain ⟨mail, rest, _, rfl, first, -⟩ := hturned
      cases hrequest : mail.isRequest with
      | false => exact absurd hreleases (idle (outbox_of_up up first hrequest))
      | true =>
        have hlive : w.bearer.isHalted = false := spent.live first
        obtain ⟨live', hcases⟩ :=
          grants_or_releases (rolled.staffed hlive) hlive up first hrequest
        rcases hcases with ⟨hgrants, -⟩ | ⟨⟨-, request, rfl⟩, hnobody⟩
        · exact absurd hreleases (idle (Or.inl hgrants.outbox))
        · exact ⟨request, ⟨rfl, rest, first⟩, (rolled'.membership_eq live').trans hnobody⟩
    · exact absurd hreleases (idle ((w.change_step act).outbox hturned))
  · rintro ⟨request, ⟨rfl, rest, first⟩, hnobody⟩
    have hlive : w.bearer.isHalted = false := spent.live first
    obtain ⟨live', hcases⟩ := grants_or_releases (rolled.staffed hlive) hlive up first rfl
    rcases hcases with ⟨-, hattended⟩ | ⟨⟨hreleases, -⟩, -⟩
    · exact absurd ((rolled'.membership_eq live').symm.trans hnobody) hattended
    · exact hreleases

end Scene

/-- A bearer counts its clients right.  In every run its roster is the list that is read off the
requests it has handled, and names nobody twice; inquiries are answered with this list; whoever an
idle bearer admits is the only one on it; a bearer that is up is released exactly when a tear-down
makes the list empty, and carries out any other request at once; and whoever hears that its
tear-down is completed is not on the list. -/
theorem roster_eq_membership {ι : Type} [Interceptor ι] (s : Setting) (i : ι)
    (acts : List (Act ι)) :
    ((Scene.start s i).run acts).1.CountsClients ((Scene.start s i).run acts).2 := by
  have hrolled := Scene.rolled_run s i acts
  have hspent := Scene.spent_run acts (Scene.spent_start s i)
  have hnext : ∀ act, (((Scene.start s i).run acts).1.step act).1.Rolled
      (((Scene.start s i).run acts).2 ++ (((Scene.start s i).run acts).1.step act).2) :=
    fun act => (Scene.change_step _ act).rolled hspent hrolled
  have hlive : ∀ {mail rest}, ((Scene.start s i).run acts).1.controller.mailbox = mail :: rest →
      ((Scene.start s i).run acts).1.bearer.isHalted = false := Scene.live_of_mailbox
  refine ⟨hrolled.names, ?_, ?_, ?_, ?_, ?_, ?_, hrolled.detached⟩
  · cases hhalted : ((Scene.start s i).run acts).1.bearer.isHalted with
    | false => exact (hrolled.staffed hhalted).nodup
    | true =>
      rw [hrolled.names, hhalted, if_pos rfl]
      exact List.nodup_nil
  · intro number rest first
    rw [Scene.answered_of_kept first (by decide), hrolled.membership_eq (hlive first)]
    rfl
  · intro number rest first
    rw [Scene.answered_of_kept first (by decide), hrolled.membership_eq (hlive first)]
    rfl
  · rintro idle act request ⟨rfl, rest, first⟩ live
    exact Scene.names_of_admitted (hrolled.staffed (hlive first)) idle first live
  · exact fun up act => Scene.releases_iff hrolled (hnext act) hspent up
  · rintro up act mail ⟨rfl, rest, first⟩ request hkeeps
    obtain ⟨-, hgrants | ⟨⟨hreleases, -⟩, -⟩⟩ := Scene.grants_or_releases
      (hrolled.staffed (hlive first)) (hlive first) up first request
    · exact hgrants.1
    · exact absurd hreleases hkeeps

/-- Two clients share a bearer, and the first of them leaves. -/
def shared : List (Act Unit) :=
  [.ask (.bringUp "a" {}), .take, .turn, .turn, .answer 0 { setUp := some (.ok plainReply) }, .take,
    .turn, .ask (.bringUp "b" {}), .take, .turn, .ask (.tearDown (some "a") "done"), .take, .turn]

/-- The second client keeps the bearer, and nothing is released. -/
example : membership ((Scene.start .cellular ()).run shared).2 = ["b"] ∧
    ((Scene.start .cellular ()).run shared).1.controller.phase = .up := by decide

end PacketBearer
