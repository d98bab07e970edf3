/-
One thing at a time.

A bearer takes a piece of mail only when it rests, and what the piece brings up is seen to before
the next one is taken.  So at any moment there is one thing at most that a controller can get on
with: an answer of the radio that it has posted to itself, a piece of mail that it has just taken,
or a command.  All else that it holds are requests, and they come before that one thing.

* `Rule.brings` — a reaction brings up one thing at most, and then the phase makes requests wait;
* `Attentive.after`, `attentive_run` — so it is after every act;
* `Attentive.alone` — mail that is no request is all that a controller holds, but for what was put
  aside.
-/
import PacketBearer.Proofs.Generation
import PacketBearer.Proofs.Promptness

namespace PacketBearer

/-- Requests, and one other thing at most. -/
structure Controller.Attentive {ι : Type} (m : Controller ι) : Prop where
  waiting : ∀ mail ∈ m.deferred, mail.isRequest = true
  free : m.phase.isBusy = false → m.deferred = []
  single : ∃ requests other, m.mailbox = requests ++ other ∧
    (∀ mail ∈ requests, mail.isRequest = true) ∧ other.length + m.outbox.length ≤ 1 ∧
      (m.phase.isBusy = false → (requests = [] ∨ other = []) ∧ m.outbox = [])

section

variable {ι : Type} [Interceptor ι] {s : Setting} {m : Controller ι} {mail : Mail}
  {rest : List Mail} {r : Reaction ι}

/-! ### Reactions -/

/-- A reaction brings up one thing at most, and nothing where requests do not have to wait. -/
theorem Rule.brings {c : Connection} {i : ι} {p : Phase} (h : Rule s c i p mail r)
    (live : r.halt = none) :
    r.posts.length + r.commands.length ≤ 1 ∧
      ((r.next.elim p Prod.fst).isBusy = false → r.posts = [] ∧ r.commands = []) := by
  cases h with
  | impossible | stops => cases live
  | intercepted | ordered | releases | refuses =>
    exact ⟨le_rfl, fun free => by cases free⟩
  | asks => exact ⟨le_rfl, fun free => by cases free⟩
  | _ => exact ⟨Nat.zero_le 1, fun _ => ⟨rfl, rfl⟩⟩

namespace Controller

omit [Interceptor ι] in
/-- What a controller holds after a reaction, if it does not halt. -/
theorem after_eq (s : Setting) (m : Controller ι) (mail : Mail) (live : r.halt = none) :
    (m.after s mail r).1.phase = r.next.elim m.phase Prod.fst ∧
      (m.after s mail r).1.outbox = m.outbox ++ r.commands ∧
      (r.next = none → (m.after s mail r).1.mailbox = m.mailbox ++ r.posts ∧
        (m.after s mail r).1.deferred = m.deferred ++ if r.waits then [mail] else []) ∧
      (r.next ≠ none → (m.after s mail r).1.mailbox =
        (m.deferred ++ if r.waits then [mail] else []) ++ (m.mailbox ++ r.posts) ∧
        (m.after s mail r).1.deferred = []) := by
  rw [after, live]
  cases r.next with
  | none => exact ⟨rfl, rfl, fun _ => ⟨rfl, rfl⟩, fun hnext => absurd rfl hnext⟩
  | some next => exact ⟨rfl, rfl, fun hnext => (by cases hnext), fun _ => ⟨rfl, rfl⟩⟩

omit [Interceptor ι] in
/-- A request that waits goes to the end of what was put aside. -/
theorem after_wait (s : Setting) (m : Controller ι) (mail : Mail) :
    m.after s mail (wait m.connection m.interceptor mail) =
      ({ m with deferred := m.deferred ++ [mail] }, [.deferred mail.kind]) := by
  rw [after, wait]
  simp only [absorb, List.append_nil, if_true]

namespace Attentive

omit [Interceptor ι] in
/-- A controller that holds nothing is attentive. -/
theorem of_nothing (mailbox : m.mailbox = []) (deferred : m.deferred = [])
    (outbox : m.outbox = []) : m.Attentive where
  waiting := by rw [deferred]; exact fun _ hmail => absurd hmail List.not_mem_nil
  free := fun _ => deferred
  single := ⟨[], [], mailbox, fun _ hmail => absurd hmail List.not_mem_nil,
    by rw [outbox]; exact Nat.zero_le 1, fun _ => ⟨Or.inl rfl, outbox⟩⟩

/-- A request that comes to a busy phase waits.  All else takes effect where no command is left, and
nothing but requests is behind it. -/
theorem ready (h : m.Attentive) (first : m.mailbox = mail :: rest)
    (rule : Rule s m.connection m.interceptor m.phase mail r) :
    (m.phase.isBusy = true ∧ mail.isRequest = true ∧ r = wait m.connection m.interceptor mail) ∨
      r.waits = false ∧ (∀ other ∈ rest, other.isRequest = true) ∧ m.outbox = [] := by
  obtain ⟨requests, other, hmailbox, hrequests, hcount, hfree⟩ := h.single
  by_cases hwait : m.phase.isBusy = true ∧ mail.isRequest = true
  · exact Or.inl ⟨hwait.1, hwait.2, rule.eq_wait hwait.1 hwait.2⟩
  have hwaits : r.waits = false := Bool.eq_false_iff.mpr fun h => hwait (rule.busy_of_waits h)
  refine Or.inr ⟨hwaits, ?_⟩
  rw [first] at hmailbox
  cases requests with
  | nil =>
    -- the mail is the one thing that there is
    obtain rfl : mail :: rest = other := hmailbox
    rw [List.length_cons] at hcount
    obtain rfl : rest = [] := List.length_eq_zero_iff.mp (by omega)
    exact ⟨fun _ hmem => absurd hmem List.not_mem_nil, List.length_eq_zero_iff.mp (by omega)⟩
  | cons request requests =>
    rw [List.cons_append, List.cons.injEq] at hmailbox
    obtain ⟨rfl, rfl⟩ := hmailbox
    have hrequest : mail.isRequest = true := hrequests mail List.mem_cons_self
    have hbusy : m.phase.isBusy = false := Bool.eq_false_iff.mpr fun h => hwait ⟨h, hrequest⟩
    obtain ⟨hnone, hout⟩ := hfree hbusy
    obtain rfl : other = [] := hnone.resolve_left (List.cons_ne_nil _ _)
    refine ⟨fun other hother => hrequests other (List.mem_cons_of_mem _ ?_), hout⟩
    rwa [List.append_nil] at hother

omit [Interceptor ι] in
/-- Mail that is no request is all that a controller holds, but for what was put aside. -/
theorem alone (h : m.Attentive) (first : m.mailbox = mail :: rest)
    (other : mail.isRequest = false) : rest = [] ∧ m.outbox = [] := by
  obtain ⟨requests, behind, hmailbox, hrequests, hcount, -⟩ := h.single
  rw [first] at hmailbox
  cases requests with
  | nil =>
    obtain rfl : mail :: rest = behind := hmailbox
    rw [List.length_cons] at hcount
    exact ⟨List.length_eq_zero_iff.mp (by omega), List.length_eq_zero_iff.mp (by omega)⟩
  | cons request requests =>
    rw [List.cons_append, List.cons.injEq] at hmailbox
    rw [hmailbox.1, hrequests request List.mem_cons_self] at other
    cases other

omit [Interceptor ι] in
/-- A request that waits has only changed its place. -/
theorem wait (h : m.Attentive) (first : m.mailbox = mail :: rest) (busy : m.phase.isBusy = true)
    (request : mail.isRequest = true) :
    Attentive { m with mailbox := rest, deferred := m.deferred ++ [mail] } := by
  refine ⟨fun other hother => ?_, fun free => ?_, ?_⟩
  · rcases List.mem_append.mp hother with hold | hnew
    · exact h.waiting other hold
    · rw [List.mem_singleton.mp hnew]
      exact request
  · exact absurd busy (Bool.eq_false_iff.mp free)
  · obtain ⟨requests, other, hmailbox, hrequests, hcount, -⟩ := h.single
    rw [first] at hmailbox
    cases requests with
    | nil =>
      obtain rfl : mail :: rest = other := hmailbox
      rw [List.length_cons] at hcount
      exact ⟨[], rest, rfl, fun _ hmem => absurd hmem List.not_mem_nil, by dsimp only; omega,
        fun free => absurd busy (Bool.eq_false_iff.mp free)⟩
    | cons first requests =>
      rw [List.cons_append, List.cons.injEq] at hmailbox
      exact ⟨requests, other, hmailbox.2,
        fun other hother => hrequests other (List.mem_cons_of_mem _ hother), hcount,
        fun free => absurd busy (Bool.eq_false_iff.mp free)⟩

/-- A controller stays attentive when it handles its first piece of mail. -/
theorem after (h : m.Attentive) (first : m.mailbox = mail :: rest)
    (rule : Rule s m.connection m.interceptor m.phase mail r) :
    ((m.withMailbox rest).after s mail r).1.Attentive := by
  rcases h.ready first rule with ⟨hbusy, hrequest, rfl⟩ | ⟨hwaits, hrest, hnone⟩
  · have hafter := after_wait s (m.withMailbox rest) mail
    rw [show (m.withMailbox rest).after s mail (PacketBearer.wait m.connection m.interceptor mail) =
      _ from hafter]
    exact h.wait first hbusy hrequest
  cases hhalt : r.halt with
  | some halt =>
    rw [Controller.after, hhalt]
    exact of_nothing rfl rfl rfl
  | none =>
    have hwaiting := Rule.waiting_after (m := m.withMailbox rest) rule hhalt h.waiting
    obtain ⟨hphase, hout, hstays, hmoves⟩ := (m.withMailbox rest).after_eq s mail hhalt
    obtain ⟨hcount, hquiet⟩ := rule.brings hhalt
    rw [show (m.withMailbox rest).outbox = [] from hnone, List.nil_append] at hout
    rw [show r.next.elim m.phase Prod.fst = _ from hphase.symm] at hquiet
    rw [← hout] at hcount hquiet
    rw [hwaits] at hstays hmoves
    -- what the reaction brings up comes behind requests, whether or not it changes the phase
    cases hnext : r.next with
    | none =>
      obtain ⟨hmailbox, hdeferred⟩ := hstays hnext
      rw [hnext] at hphase
      refine ⟨hwaiting, fun free => ?_, rest, r.posts, hmailbox, hrest, hcount,
        fun free => ⟨Or.inr (hquiet free).1, (hquiet free).2⟩⟩
      rw [hphase] at free
      rw [hdeferred]
      exact (List.append_nil _).trans (h.free free)
    | some next =>
      obtain ⟨hmailbox, hdeferred⟩ := hmoves (by rw [hnext]; exact Option.some_ne_none next)
      refine ⟨hwaiting, fun _ => hdeferred, m.deferred ++ rest, r.posts, ?_, fun other hother => ?_,
        hcount, fun free => ⟨Or.inr (hquiet free).1, (hquiet free).2⟩⟩
      · simp only [hmailbox, Bool.false_eq_true, if_false, List.append_nil, List.append_assoc]
        rfl
      · exact (List.mem_append.mp hother).elim (h.waiting other) (hrest other)

omit [Interceptor ι] in
/-- A controller that rests may take a piece of mail. -/
theorem post (h : m.Attentive) (mailbox : m.mailbox = []) (outbox : m.outbox = []) (mail : Mail) :
    (m.post mail).Attentive where
  waiting := h.waiting
  free := h.free
  single := ⟨[], [mail], congrArg (· ++ [mail]) mailbox, fun _ hmem => absurd hmem List.not_mem_nil,
    Nat.le_of_eq (congrArg (1 + List.length ·) outbox), fun _ => ⟨Or.inl rfl, outbox⟩⟩

omit [Interceptor ι] in
/-- A command that is carried out is the only one. -/
theorem outbox_cases (h : m.Attentive) : m.outbox = [] ∨ ∃ command, m.outbox = [command] := by
  obtain ⟨-, other, -, -, hcount, -⟩ := h.single
  cases hout : m.outbox with
  | nil => exact Or.inl rfl
  | cons command commands =>
    rw [hout, List.length_cons] at hcount
    obtain rfl : commands = [] := List.length_eq_zero_iff.mp (by omega)
    exact Or.inr ⟨command, rfl⟩

end Attentive

end Controller

omit [Interceptor ι] in
/-- A controller stays attentive when its command is carried out. -/
theorem Bearer.attentive_dispatchAll {b : Bearer ι} (h : b.controller.Attentive)
    (empty : b.controller.mailbox = []) :
    (b.clearOutbox.dispatchAll s b.controller.outbox).1.controller.Attentive := by
  have hclear : b.clearOutbox.controller.Attentive := by
    refine ⟨h.waiting, h.free, [], [], empty, fun _ hmem => absurd hmem List.not_mem_nil,
      Nat.zero_le 1, fun _ => ⟨Or.inl rfl, rfl⟩⟩
  rcases h.outbox_cases with hout | ⟨command, hout⟩
  · rw [hout]
    exact hclear
  · rw [hout]
    show (b.clearOutbox.dispatch s command).1.controller.Attentive
    rw [dispatch.eq_def]
    split
    · exact hclear.post empty rfl _
    · exact hclear

end

/-! ### Runs -/

namespace Scene

variable {ι : Type} [Interceptor ι] {w w' : Scene ι} {act : Act ι} {events : List Event}

theorem Change.attentive (h : Change w act w' events) (attentive : w.controller.Attentive) :
    w'.controller.Attentive := by
  cases h with
  | still | inquired | stopSent | answered | refused | switched | trackerClosed => exact attentive
  | asked wish => cases wish <;> exact attentive
  | heard result resting => exact attentive.post resting.1 resting.2 _
  | taken first resting => exact attentive.post resting.1 resting.2 _
  | handled first rule => exact attentive.after first rule
  | dispatched empty => exact Bearer.attentive_dispatchAll attentive empty
  | rearmed interceptor => exact ⟨attentive.waiting, attentive.free, attentive.single⟩

theorem attentive_run {w : Scene ι} (acts : List (Act ι)) (attentive : w.controller.Attentive) :
    (w.run acts).1.controller.Attentive := by
  induction acts generalizing w with
  | nil => exact attentive
  | cons act acts ih => exact ih ((w.change_step act).attentive attentive)

omit [Interceptor ι] in
theorem attentive_start (s : Setting) (i : ι) : (start s i).controller.Attentive :=
  .of_nothing rfl rfl rfl

end Scene

end PacketBearer
