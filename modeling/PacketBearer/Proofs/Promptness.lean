/-
Commands go out promptly.

A bearer takes its mail one piece at a time, and what a piece brings up is seen to before the next
one is taken.  So a command that waits in the outbox is the only one, and it belongs to the current
generation: what comes before it is carried out are requests, which have to wait, and answers that
are too late.

* `Bearer.Prompt.stays` — while a command waits nothing happens;
* `Change.prompt`, `prompt_of_start` — and so it is in every run;
* `Bearer.Prompt.outbox_of_return` — no command is left when a bearer becomes idle.
-/
import PacketBearer.Proofs.Lateness
import PacketBearer.Proofs.Tidy

namespace PacketBearer

/-- The mail is a client's request or an answer of the radio. -/
def Mail.IsPlain (mail : Mail) : Prop := mail.isRequest = true ∨ mail.isAnswer = true

/-- A bearer without a command in its outbox, or with a single one that is not held up. -/
structure Bearer.Prompt {ι : Type} (b : Bearer ι) : Prop where
  -- what waits behind the first piece of mail was put off, or has come by itself
  behind : ∀ mail ∈ b.controller.mailbox.tail, mail.IsPlain
  mailbox : b.controller.outbox ≠ [] → ∀ mail ∈ b.controller.mailbox, mail.IsPlain
  single : b.controller.outbox ≠ [] → ∃ command, b.controller.outbox = [command] ∧
    command.task.generation = b.controller.connection.generation

section

variable {ι : Type} [Interceptor ι] {s : Setting} {b : Bearer ι} {mail : Mail} {rest : List Mail}
  {r : Reaction ι} {m : Controller ι}

/-! ### Reactions -/

/-- A request that comes to a busy phase waits. -/
theorem Rule.eq_wait {c : Connection} {i : ι} {p : Phase} (h : Rule s c i p mail r)
    (busy : p.isBusy = true) (request : mail.isRequest = true) : r = wait c i mail := by
  cases h with
  | waits => rfl
  | impossible | intercepted | ordered | joins | vacuous | strange | leaves | releases => cases busy
  | ignores reports =>
    rw [Mail.task?_of_isRequest request] at reports
    cases reports
  | fails setback => cases setback <;> cases request
  | asks | accepts | refuses | released | hears | answers | resets | stops => cases request

/-- A reaction issues one command at most. -/
theorem Rule.single_command {c : Connection} {i : ι} {p : Phase} (h : Rule s c i p mail r)
    (ordering : r.commands ≠ []) :
    ∃ command, r.commands = [command] ∧ command.task ∈ Tally.tasks.ofReaction mail r := by
  cases h with
  | ordered | releases | asks | refuses => exact ⟨_, rfl, by simp [Tally.ofReaction]⟩
  | _ => exact absurd rfl ordering

namespace Bearer.Prompt

/-- While a command waits, requests wait too and answers are too late. -/
theorem stays (h : b.Prompt) (inOrder : b.InOrder) (first : b.controller.mailbox = mail :: rest)
    (hm : m = b.controller.withMailbox rest)
    (rule : Rule s m.connection m.interceptor m.phase mail r) (ordering : m.outbox ≠ []) :
    r = wait m.connection m.interceptor mail ∨ r = ignore m.connection m.interceptor mail := by
  rw [hm] at rule ordering ⊢
  obtain ⟨command, houtbox, hcurrent⟩ := h.single ordering
  -- the command is among the tasks that are under way besides the mail
  have htask : command.task ∈ (b.withController (b.controller.withMailbox rest)).tasks := by
    have hmem : command ∈ b.controller.outbox := by
      rw [houtbox]
      exact List.mem_singleton_self command
    exact List.mem_append_left _ (List.mem_append_left _ (List.mem_map_of_mem hmem))
  have hbefore := Bearer.tasks_first first
  have hsome : ofGeneration b.controller.connection.generation
      (b.withController (b.controller.withMailbox rest)).tasks ≠ 0 :=
    fun hnone => ofGeneration_eq_zero_iff.mp hnone _ htask hcurrent
  rcases h.mailbox ordering mail (by rw [first]; exact List.mem_cons_self) with hrequest | hanswer
  · left
    refine rule.eq_wait ?_ hrequest
    refine Bool.of_not_eq_false fun hfree => ?_
    have hnone := (inOrder.fits.current_eq_zero hfree).1
    rw [Bearer.current, hbefore, ofGeneration_add] at hnone
    exact hsome (Multiset.le_zero.mp (hnone ▸ Multiset.le_add_left _ _))
  · right
    obtain ⟨task, hreports⟩ := Option.isSome_iff_exists.mp hanswer
    rcases rule.ignored_or_awaited hreports with ⟨hignored, -⟩ | ⟨-, hnow, -⟩
    · exact hignored
    · have hfits := inOrder.fits
      rw [Bearer.current, hbefore] at hfits
      exact absurd (hfits.of_current hreports hnow).awaits.2 hsome

/-- Handling a piece of mail leaves a bearer prompt. -/
theorem after (h : b.Prompt) (inOrder : b.InOrder) (first : b.controller.mailbox = mail :: rest)
    (hm : m = b.controller.withMailbox rest)
    (rule : Rule s m.connection m.interceptor m.phase mail r) :
    (b.withController (m.after s mail r).1).Prompt := by
  have hrest : ∀ other ∈ rest, other.IsPlain := by
    intro other hother
    have hbehind := h.behind
    rw [first] at hbehind
    exact hbehind other hother
  have hposts : ∀ other ∈ r.posts, other.IsPlain :=
    fun other hother => Or.inr (rule.isAnswer_of_mem_posts hother)
  have hdeferred : ∀ other ∈ (m.absorb mail r).deferred, other.IsPlain := by
    intro other hother
    rcases List.mem_append.mp hother with hold | hnew
    · rw [hm] at hold
      exact Or.inl (inOrder.waiting other hold)
    · split at hnew
      · next hwaits =>
        rw [List.mem_singleton.mp hnew]
        exact Or.inl (rule.busy_of_waits hwaits).2
      · cases hnew
  have habsorbed : ∀ other ∈ (m.absorb mail r).mailbox, other.IsPlain := by
    intro other hother
    rw [hm] at hother
    rcases List.mem_append.mp hother with hold | hnew
    · exact hrest other hold
    · exact hposts other hnew
  have hmailbox : ∀ other ∈ (m.after s mail r).1.mailbox, other.IsPlain := by
    rw [Controller.after]
    intro other hother
    cases hhalt : r.halt with
    | some halt =>
      rw [hhalt] at hother
      cases hother
    | none =>
      cases hnext : r.next with
      | none =>
        rw [hhalt, hnext] at hother
        exact habsorbed other hother
      | some next =>
        rw [hhalt, hnext] at hother
        exact (List.mem_append.mp hother).elim (hdeferred other) (habsorbed other)
  refine ⟨fun other hother => hmailbox other (List.mem_of_mem_tail hother), fun _ => hmailbox, ?_⟩
  intro ordering
  have hhalt : r.halt = none := by
    cases hhalt : r.halt with
    | none => rfl
    | some halt =>
      refine absurd ?_ ordering
      show (m.after s mail r).1.outbox = []
      rw [Controller.after, hhalt]
      rfl
  have houtbox : (m.after s mail r).1.outbox = m.outbox ++ r.commands := by
    rw [Controller.after, hhalt]
    cases r.next <;> rfl
  change ∃ command, (m.after s mail r).1.outbox = [command] ∧
    command.task.generation = (m.after s mail r).1.connection.generation
  change (m.after s mail r).1.outbox ≠ [] at ordering
  rw [houtbox] at ordering ⊢
  by_cases hempty : m.outbox = []
  · -- the reaction has brought it up
    rw [hempty, List.nil_append] at ordering ⊢
    obtain ⟨command, hcommands, hissued⟩ := rule.single_command ordering
    exact ⟨command, hcommands, rule.issued_current _ hissued⟩
  · -- it has waited, and nothing has happened
    obtain ⟨command, hsingle, hcurrent⟩ := h.single (by rw [hm] at hempty; exact hempty)
    rw [← show m.outbox = b.controller.outbox from by rw [hm]; rfl] at hsingle
    rw [← show m.connection = b.controller.connection from by rw [hm]; rfl] at hcurrent
    rcases h.stays inOrder first hm rule hempty with rfl | rfl
    · exact ⟨command, (List.append_nil _).trans hsingle, hcurrent⟩
    · exact ⟨command, (List.append_nil _).trans hsingle, hcurrent⟩

/-- No command is left when a bearer becomes idle, and none has been issued on the way. -/
theorem outbox_of_return (h : b.Prompt) (inOrder : b.InOrder)
    (first : b.controller.mailbox = mail :: rest) (hm : m = b.controller.withMailbox rest)
    (rule : Rule s m.connection m.interceptor m.phase mail r) {arrival : Arrival}
    (next : r.next = some (.idle, arrival)) : m.outbox = [] ∧ r.commands = [] := by
  constructor
  · by_contra ordering
    rcases h.stays inOrder first hm rule ordering with rfl | rfl
    · cases next
    · cases next
  · by_contra ordering
    obtain ⟨command, -, hissued⟩ := rule.single_command ordering
    rw [rule.nothing_issued next] at hissued
    exact Multiset.notMem_zero _ hissued

end Bearer.Prompt

end

/-! ### Runs -/

theorem Bearer.prompt_start {ι : Type} (i : ι) : (Bearer.start i).Prompt :=
  ⟨fun _ hmail => absurd hmail List.not_mem_nil, fun ordering => absurd rfl ordering,
    fun ordering => absurd rfl ordering⟩

namespace Scene

variable {ι : Type} [Interceptor ι] {w w' : Scene ι} {act : Act ι} {events : List Event}

/-- Every act leaves a bearer prompt that is in order. -/
theorem Change.prompt (h : Change w act w' events) (inOrder : w.bearer.InOrder)
    (prompt : w.bearer.Prompt) : w'.bearer.Prompt := by
  have same : ∀ {b : Bearer ι}, b.controller.mailbox = w.controller.mailbox →
      b.controller.outbox = w.controller.outbox →
      b.controller.connection = w.controller.connection → b.Prompt := by
    intro b hmailbox houtbox hconnection
    refine ⟨?_, ?_, ?_⟩
    · rw [hmailbox]
      exact prompt.behind
    · rw [hmailbox, houtbox]
      exact prompt.mailbox
    · rw [houtbox, hconnection]
      exact prompt.single
  -- a bearer that rests takes a single piece of mail
  have taken : ∀ {b : Bearer ι} {mail : Mail}, w.Resting →
      b.controller.mailbox = w.controller.mailbox ++ [mail] →
      b.controller.outbox = w.controller.outbox → b.Prompt := by
    intro b mail hrests hmailbox houtbox
    rw [hrests.1, List.nil_append] at hmailbox
    rw [hrests.2] at houtbox
    refine ⟨?_, fun ordering => absurd houtbox ordering, fun ordering => absurd houtbox ordering⟩
    rw [hmailbox]
    exact fun other hother => absurd hother List.not_mem_nil
  cases h with
  | still | switched | trackerClosed | rearmed | inquired | stopSent | answered | refused =>
    exact same rfl rfl rfl
  | asked wish => cases wish <;> exact same rfl rfl rfl
  | heard result resting => exact taken resting rfl rfl
  | taken first resting => exact taken resting rfl rfl
  | handled first rule => exact prompt.after inOrder first rfl rule
  | dispatched empty =>
    obtain ⟨purposes, hcontroller⟩ :=
      Bearer.controller_dispatchAll w.setting w.bearer.clearOutbox w.controller.outbox
    have houtbox : (w.bearer.clearOutbox.dispatchAll w.setting
        w.controller.outbox).1.controller.outbox = [] := by
      rw [hcontroller]
      rfl
    refine ⟨fun mail hmail => ?_, fun ordering => absurd houtbox ordering,
      fun ordering => absurd houtbox ordering⟩
    have hmem := List.mem_of_mem_tail hmail
    rw [hcontroller] at hmem
    have hmem' : mail ∈ w.controller.mailbox ++ purposes.map Mail.releaseDone := hmem
    rw [empty, List.nil_append] at hmem'
    obtain ⟨purpose, -, rfl⟩ := List.mem_map.mp hmem'
    exact Or.inr rfl

theorem prompt_of_start {s : Setting} {i : ι} {acts : List (Act ι)}
    (entries : idleEntries ((start s i).run acts).2 < 2 ^ 64)
    (live : ((start s i).run acts).1.bearer.isHalted = false) :
    ((start s i).run acts).1.bearer.Prompt := by
  induction acts using List.reverseRecOn with
  | nil => exact Bearer.prompt_start i
  | append_singleton acts act ih =>
    have hbefore := (idleEntries_run_le (start s i) acts [act]).trans_lt entries
    have hrun := (start s i).run_concat acts act
    rw [hrun] at live ⊢
    have hchange := ((start s i).run acts).1.change_step act
    have hlive := hchange.live live
    exact hchange.prompt (inOrder_of_start hbefore hlive) (ih hbefore hlive)

end Scene

end PacketBearer
