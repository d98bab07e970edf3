/-
Generations, and the end of a bearer.

Becoming idle is the only thing that changes the generation, and it makes it the next one.  Halting
is the end: a bearer that works has never halted, and one that has halted holds no mail.

* `generation_run` — the generation counts how often the bearer has become idle;
* `live_run`, `spent_run` — what was before, and what is after, the end.
-/
import Mathlib.Algebra.Group.Nat.Defs
import PacketBearer.Proofs.Scene

namespace PacketBearer

/-- The bearer becomes idle. -/
def Event.isReturn : Event → Bool
  | .moved _ .idle => true
  | _ => false

/-- How often the bearer has become idle, its beginning included. -/
def idleEntries (events : List Event) : Nat := events.countP Event.isReturn + 1

theorem countP_isReturn_eq_zero {events : List Event}
    (h : ∀ event ∈ events, event.isReturn = false) : events.countP Event.isReturn = 0 := by
  rw [List.countP_eq_zero]
  intro event hevent
  rw [h event hevent]
  exact Bool.false_ne_true

/-- A bearer that has halted holds no mail, and has nothing left to order. -/
def Controller.Spent {ι : Type} (m : Controller ι) : Prop :=
  m.isHalted = true → m.mailbox = [] ∧ m.deferred = [] ∧ m.outbox = []

/-- A bearer with mail to handle works. -/
theorem Controller.Spent.live {ι : Type} {m : Controller ι} {mail : Mail} {rest : List Mail}
    (h : m.Spent) (first : m.mailbox = mail :: rest) : m.isHalted = false := by
  refine Bool.eq_false_iff.mpr fun halted => ?_
  rw [(h halted).1] at first
  cases first

section

variable {ι : Type} {s : Setting}

/-! ### Reactions -/

theorem isReturn_enter (s : Setting) (c : Connection) (target : Phase) (arrival : Arrival) :
    ∀ event ∈ (c.enter s target arrival).2, event.isReturn = false := by
  intro event hevent
  cases target with
  | idle =>
    cases arrival with
    | quiet => cases hevent
    | succeeded request | failed request failure =>
      rw [List.mem_singleton.mp hevent]
      rfl
    | tornDown request =>
      rcases List.mem_cons.mp hevent with rfl | hnotice
      · rfl
      · obtain ⟨notice, rfl⟩ := notice_of_mem_lossNotices hnotice
        rfl
  | up | settingUp | releasing | cleaningUp =>
    cases arrival with
    | quiet => cases hevent
    | succeeded request | failed request failure | tornDown request =>
      rw [List.mem_singleton.mp hevent]
      rfl

theorem Rule.isReturn [Interceptor ι] {c : Connection} {i : ι} {p : Phase} {mail : Mail}
    {r : Reaction ι} (h : Rule s c i p mail r) : ∀ event ∈ r.events, event.isReturn = false := by
  intro event hevent
  have hown := h.isOwn hevent
  cases event with
  | moved => cases hown
  | _ => rfl

/-- A reaction keeps the generation; only becoming idle changes it. -/
theorem Rule.generation [Interceptor ι] {c : Connection} {i : ι} {p : Phase} {mail : Mail}
    {r : Reaction ι} (h : Rule s c i p mail r) : r.connection.generation = c.generation := by
  cases h with
  | @answers _ _ inquiry _ =>
    obtain ⟨link, intent, hanswer⟩ := c.answer_eq s p inquiry
    show (c.answer s p inquiry).2.generation = c.generation
    rw [hanswer]
  | _ => rfl

/-- The generation counts how often the bearer becomes idle. -/
theorem Rule.generation_after [Interceptor ι] {m : Controller ι} {mail : Mail} {r : Reaction ι}
    (h : Rule s m.connection m.interceptor m.phase mail r) :
    (m.after s mail r).1.connection.generation =
      m.connection.generation +
        UInt64.ofNat ((m.after s mail r).2.countP Event.isReturn) := by
  -- neither the reaction nor the entry shows a return, and the move between them shows one at most
  have hquiet := countP_isReturn_eq_zero h.isReturn
  rw [Controller.after]
  cases hhalt : r.halt with
  | some halt =>
    have hdropped : (m.requests.map Event.dropped).countP Event.isReturn = 0 := by
      refine countP_isReturn_eq_zero fun event hevent => ?_
      obtain ⟨request, -, rfl⟩ := List.mem_map.mp hevent
      rfl
    simp only [List.countP_append, hquiet, hdropped]
    exact (UInt64.add_zero _).symm
  | none =>
    cases hnext : r.next with
    | none =>
      simp only [hquiet]
      exact h.generation.trans (UInt64.add_zero _).symm
    | some next =>
      obtain ⟨target, arrival⟩ := next
      have hentered := countP_isReturn_eq_zero (isReturn_enter s r.connection target arrival)
      simp only [Controller.move, Controller.absorb, List.countP_append, List.countP_cons, hquiet,
        hentered]
      cases target with
      | idle => exact congrArg (· + 1) h.generation
      | _ => exact h.generation.trans (UInt64.add_zero _).symm

theorem Rule.generation_stays [Interceptor ι] {m : Controller ι} {mail : Mail} {r : Reaction ι}
    (h : Rule s m.connection m.interceptor m.phase mail r)
    (stays : ∀ arrival, r.next ≠ some (.idle, arrival)) :
    (m.after s mail r).1.connection.generation = m.connection.generation := by
  rw [Controller.after]
  cases r.halt with
  | some halt => rfl
  | none =>
    cases hnext : r.next with
    | none => exact h.generation
    | some next =>
      obtain ⟨target, arrival⟩ := next
      cases target with
      | idle => exact absurd hnext (stays arrival)
      | _ => exact h.generation

theorem Controller.isReturn_mem_after (s : Setting) (m : Controller ι) (mail : Mail)
    {r : Reaction ι} {arrival : Arrival} (hlive : r.halt = none)
    (next : r.next = some (.idle, arrival)) :
    0 < (m.after s mail r).2.countP Event.isReturn := by
  rw [List.countP_pos_iff, Controller.after, hlive, next]
  exact ⟨.moved m.phase .idle, List.mem_append_right _ List.mem_cons_self, rfl⟩

/-- A controller works after a reaction if nothing has halted it, then or before. -/
theorem Controller.live_after_iff {m : Controller ι} {mail : Mail} {r : Reaction ι} :
    (m.after s mail r).1.isHalted = false ↔ r.halt = none ∧ m.isHalted = false := by
  rw [Controller.after]
  cases r.halt with
  | none =>
    cases r.next with
    | none => exact ⟨fun h => ⟨rfl, h⟩, fun h => h.2⟩
    | some next => exact ⟨fun h => ⟨rfl, h⟩, fun h => h.2⟩
  | some halt =>
    constructor
    · intro h
      cases h
    · rintro ⟨h, -⟩
      cases h

theorem Controller.halt_after (s : Setting) (m : Controller ι) (mail : Mail) (r : Reaction ι) :
    (m.after s mail r).1.halt = r.halt.or m.halt := by
  rw [Controller.after]
  cases r.halt with
  | some halt => rfl
  | none => cases r.next <;> rfl

theorem Controller.spent_after {m : Controller ι} {mail : Mail} {r : Reaction ι}
    (live : m.isHalted = false) : (m.after s mail r).1.Spent := by
  rw [Controller.after]
  cases r.halt with
  | some halt => exact fun _ => ⟨rfl, rfl, rfl⟩
  | none => cases r.next <;> exact fun halted => absurd halted (Bool.eq_false_iff.mp live)

end

/-! ### Runs -/

namespace Scene

variable {ι : Type} [Interceptor ι] {w w' : Scene ι} {act : Act ι} {events : List Event}

theorem Change.generation (h : Change w act w' events) :
    w'.controller.connection.generation =
      w.controller.connection.generation + UInt64.ofNat (events.countP Event.isReturn) := by
  rcases h.turned_or_quiet with ⟨mail, rest, r, -, -, hrule, rfl, rfl⟩ | hquiet
  · exact hrule.generation_after (m := w.controller.withMailbox rest)
  · have hnone : events.countP Event.isReturn = 0 := by
      refine countP_isReturn_eq_zero fun event hevent => ?_
      rcases hquiet.events event hevent with ⟨call, command, rfl⟩ | ⟨-, request, rfl⟩
      · rfl
      · rfl
    rw [hquiet.connection, hnone]
    exact (UInt64.add_zero _).symm

/-- The generation counts how often the bearer becomes idle. -/
theorem generation_run (w : Scene ι) (acts : List (Act ι)) :
    (w.run acts).1.controller.connection.generation =
      w.controller.connection.generation +
        UInt64.ofNat ((w.run acts).2.countP Event.isReturn) := by
  induction acts generalizing w with
  | nil => exact (UInt64.add_zero _).symm
  | cons act acts ih =>
    rw [run_cons, ih, (w.change_step act).generation, List.countP_append, UInt64.ofNat_add]
    exact UInt64.add_assoc _ _ _

/-- As long as there is room the generation does not come round. -/
theorem Change.toNat_generation (h : Change w act w' events)
    (room : w.controller.connection.generation.toNat + events.countP Event.isReturn < 2 ^ 64) :
    w'.controller.connection.generation.toNat =
      w.controller.connection.generation.toNat + events.countP Event.isReturn := by
  rw [h.generation, UInt64.toNat_add, UInt64.toNat_ofNat']
  omega

theorem toNat_generation_run (w : Scene ι) (acts : List (Act ι))
    (room : w.controller.connection.generation.toNat +
      (w.run acts).2.countP Event.isReturn < 2 ^ 64) :
    (w.run acts).1.controller.connection.generation.toNat =
      w.controller.connection.generation.toNat + (w.run acts).2.countP Event.isReturn := by
  rw [generation_run, UInt64.toNat_add, UInt64.toNat_ofNat']
  omega

/-- There is room for the generations that are still to come. -/
theorem Change.room (h : Change w act w' events) {later : List Event}
    (room : w.controller.connection.generation.toNat +
      (events ++ later).countP Event.isReturn < 2 ^ 64) :
    w'.controller.connection.generation.toNat + later.countP Event.isReturn < 2 ^ 64 := by
  rw [List.countP_append] at room
  rw [h.toNat_generation (by omega)]
  omega

theorem idleEntries_run_le (w : Scene ι) (earlier later : List (Act ι)) :
    idleEntries (w.run earlier).2 ≤ idleEntries (w.run (earlier ++ later)).2 := by
  rw [run_append, idleEntries, idleEntries, List.countP_append]
  omega

theorem room_start {s : Setting} {i : ι} {acts : List (Act ι)}
    (entries : idleEntries ((start s i).run acts).2 < 2 ^ 64) :
    (start s i).controller.connection.generation.toNat +
      ((start s i).run acts).2.countP Event.isReturn < 2 ^ 64 := by
  have hone : (start s i).controller.connection.generation.toNat = 1 := rfl
  rw [idleEntries] at entries
  omega

theorem room_run {s : Setting} {i : ι} {acts : List (Act ι)} {later : List Event}
    (entries : idleEntries (((start s i).run acts).2 ++ later) < 2 ^ 64) :
    ((start s i).run acts).1.controller.connection.generation.toNat +
      later.countP Event.isReturn < 2 ^ 64 := by
  have hone : (start s i).controller.connection.generation.toNat = 1 := rfl
  rw [idleEntries, List.countP_append] at entries
  rw [toNat_generation_run _ _ (by omega)]
  omega

/-- A bearer that works after an act has worked before it. -/
theorem Change.live (h : Change w act w' events) (live : w'.bearer.isHalted = false) :
    w.bearer.isHalted = false := by
  rcases h.turned_or_quiet with ⟨mail, rest, r, -, -, -, rfl, rfl⟩ | hquiet
  · exact (Controller.live_after_iff.mp live).2
  · rw [Bearer.isHalted, Controller.isHalted, hquiet.halt] at live
    exact live

theorem live_run {w : Scene ι} {acts : List (Act ι)}
    (live : (w.run acts).1.bearer.isHalted = false) : w.bearer.isHalted = false := by
  induction acts generalizing w with
  | nil => exact live
  | cons act acts ih => exact (w.change_step act).live (ih live)

theorem Change.spent (h : Change w act w' events) (spent : w.controller.Spent) :
    w'.controller.Spent := by
  cases h with
  | handled first =>
    have hlive : w.controller.isHalted = false := spent.live first
    exact Controller.spent_after hlive
  | dispatched empty =>
    obtain ⟨purposes, hcontroller⟩ :=
      Bearer.controller_dispatchAll w.setting w.bearer.clearOutbox w.controller.outbox
    intro halted
    rw [controller, hcontroller] at halted
    obtain ⟨hmailbox, hdeferred, houtbox⟩ := spent halted
    rw [controller, houtbox]
    exact ⟨hmailbox, hdeferred, rfl⟩
  | heard _ _ live => exact fun halted => absurd halted (Bool.eq_false_iff.mp live)
  | taken _ _ live => exact fun halted => absurd halted (Bool.eq_false_iff.mp live)
  | asked wish => cases wish <;> exact spent
  | _ => exact spent

theorem spent_run {w : Scene ι} (acts : List (Act ι)) (spent : w.controller.Spent) :
    (w.run acts).1.controller.Spent := by
  induction acts generalizing w with
  | nil => exact spent
  | cons act acts ih => exact ih ((w.change_step act).spent spent)

omit [Interceptor ι] in
theorem spent_start (s : Setting) (i : ι) : (start s i).controller.Spent :=
  fun halted => absurd halted Bool.false_ne_true

/-- What has halted stays as it is. -/
theorem Change.halt_eq (h : Change w act w' events) (spent : w.controller.Spent)
    (halted : w.controller.halt ≠ none) : w'.controller.halt = w.controller.halt := by
  rcases h.turned_or_quiet with ⟨mail, rest, r, -, first, -, -, -⟩ | hquiet
  · have hhalted : w.controller.isHalted = true := Option.isSome_iff_ne_none.mpr halted
    rw [(spent hhalted).1] at first
    cases first
  · exact hquiet.halt

theorem halt_run {w : Scene ι} (acts : List (Act ι)) (spent : w.controller.Spent)
    (halted : w.controller.halt ≠ none) :
    (w.run acts).1.controller.halt = w.controller.halt := by
  induction acts generalizing w with
  | nil => rfl
  | cons act acts ih =>
    have hchange := w.change_step act
    have hfirst := hchange.halt_eq spent halted
    rw [← hfirst]
    rw [← hfirst] at halted
    exact ih (hchange.spent spent) halted

theorem live_of_mailbox {s : Setting} {i : ι} {acts : List (Act ι)} {mail : Mail}
    {rest : List Mail} (first : ((start s i).run acts).1.controller.mailbox = mail :: rest) :
    ((start s i).run acts).1.bearer.isHalted = false :=
  (spent_run acts (spent_start s i)).live first

end Scene

end PacketBearer
