/-
Releases with the radio and without it.

While the radio is off a bearer is released at once: the controller is told so as soon as the
command is carried out, in the middle of its work.  While the radio is on the command becomes a
call, the bearer comes to rest, and the end of the release reaches it through the inbox.  Both come
to the same, whatever the radio answers, if its answer is the next thing that the bearer hears.

The two are followed side by side.  A scene with the radio on keeps level with a bearer without it
(`Level`), but for the time from the call to the answer (`Asked`) and from there until the bearer
takes it (`Answered`); the other one is ahead then by the mail that it has already posted to itself.

* `Bearer.tandem_turn` — one turn of each, which differ only where a bearer is released;
* `Level.turn`, `Asked.answer`, `Answered.take` — what each move does to the two of them;
* `Abreast.step`, `Abreast.run` — no act takes them apart;
* `Abreast.exists_served` — the scene can always be led to where all releases are answered;
* `releases_alike` — and there the two are the same, whatever cascade the releases have set off.
-/
import PacketBearer.Proofs.Quiescence

namespace PacketBearer

/-- The command is to release a bearer. -/
def Command.isRelease : Command → Bool
  | release _ _ _ => true
  | setUp _ _ | lastCause _ => false

/-- What shows of an event when nobody counts the calls, or hears of those that release a bearer. -/
def Event.sight? : Event → Option (Event ⊕ Command)
  | called _ (.release _ _ _) => none
  | called _ command => some (.inr command)
  | event => some (.inl event)

/-- What shows of events but for releases, and for the numbers of calls. -/
def sights (events : List Event) : List (Event ⊕ Command) := events.filterMap Event.sight?

@[simp] theorem sights_nil : sights [] = [] := rfl

@[simp] theorem sights_append (first second : List Event) :
    sights (first ++ second) = sights first ++ sights second :=
  List.filterMap_append

/-- The setting with the radio on or off. -/
def Setting.withRadio (s : Setting) (on : Bool) : Setting := { s with radioOn := on }

variable {ι : Type}

/-- What happens around a bearer that is left alone: it works, and from a certain call on the radio
answers the releases that it is told of. -/
inductive Act.Attends (first : Nat) (answers : Nat → Except RadioError Unit) : Act ι → Prop
  | turn : Attends first answers .turn
  | take : Attends first answers .take
  | answer {call : Nat} (new : first ≤ call) :
    Attends first answers (.answer call { release := some (answers call) })

/-! ### Open calls -/

/-- The call releases a bearer, and is not older than a certain call. -/
def isReleaseFrom (first : Nat) (call : Nat × Command) : Bool := first ≤ call.1 && call.2.isRelease

namespace Bearer

variable {first call : Nat} {command : Command} {b : Bearer ι}

/-- The open calls that release a bearer, from a certain call on. -/
def releasesFrom (first : Nat) (b : Bearer ι) : List (Nat × Command) :=
  b.openCalls.filter (isReleaseFrom first)

/-- The commands of all other open calls. -/
def others (first : Nat) (b : Bearer ι) : List Command :=
  (b.openCalls.filter (!isReleaseFrom first ·)).map Prod.snd

theorem releasesFrom_call (bound : first ≤ b.calls) (command : Command) :
    (b.call command).1.releasesFrom first =
      b.releasesFrom first ++ if command.isRelease then [(b.calls, command)] else [] := by
  cases hrelease : command.isRelease <;>
    simp [releasesFrom, Bearer.call, isReleaseFrom, List.filter_append, hrelease, bound]

theorem others_call (bound : first ≤ b.calls) (command : Command) :
    (b.call command).1.others first =
      b.others first ++ if command.isRelease then [] else [command] := by
  cases hrelease : command.isRelease <;>
    simp [others, Bearer.call, isReleaseFrom, List.filter_append, hrelease, bound]

theorem releasesFrom_close (only : b.releasesFrom first = [(call, command)]) :
    (b.close call).releasesFrom first = [] := by
  have hfilter : (b.close call).releasesFrom first =
      (b.releasesFrom first).filter (·.1 ≠ call) := by
    simp only [releasesFrom, close, List.filter_filter, Bool.and_comm]
  rw [hfilter, only]
  simp

/-- A call that is closed was the only one with its number. -/
theorem others_close (numbered : b.Numbered) (isOpen : (call, command) ∈ b.openCalls)
    (new : isReleaseFrom first (call, command) = true) :
    (b.close call).others first = b.others first := by
  rw [others, others, close, List.filter_filter]
  refine congrArg (List.map Prod.snd) (List.filter_congr fun other hother => ?_)
  by_cases hsame : other.1 = call
  · have hother : other = (call, command) :=
      List.inj_on_of_nodup_map numbered.nodup hother isOpen hsame
    rw [hother, new]
    simp
  · simp [hsame]

/-- Where no release is open, all open calls are others. -/
theorem others_of_none (none : b.releasesFrom first = []) :
    b.others first = b.openCalls.map Prod.snd := by
  rw [others, List.filter_eq_self.mpr fun call hcall => ?_]
  simpa using List.filter_eq_nil_iff.mp none call hcall

/-- The calls that have been opened are older than the next one. -/
theorem releasesFrom_calls (numbered : b.Numbered) : b.releasesFrom b.calls = [] := by
  refine List.filter_eq_nil_iff.mpr fun call hcall => ?_
  have hlt := numbered.lt call hcall
  simp [isReleaseFrom, Nat.not_le.mpr hlt]

end Bearer

section

variable [Interceptor ι]

/-! ### One turn of each -/

/-- What a controller makes of a piece of mail does not depend on the radio's switch. -/
theorem Controller.handle_withRadio (s : Setting) (on : Bool) (m : Controller ι) (mail : Mail) :
    m.handle (s.withRadio on) mail = m.handle s mail := rfl

/-- What two bearers with the same controller come to, one with the radio and one without it, and
what can be seen. -/
inductive Bearer.Tandem (a u : Bearer ι) : Bearer ι → List Event → Bearer ι → List Event → Prop
  | handled (m : Controller ι) (events : List Event) :
    Tandem a u (a.withController m) events (u.withController m) events
  | called (m : Controller ι) (command : Command) (other : command.isRelease = false) :
    Tandem a u ((a.withController m).call command).1 [.called a.calls command]
      ((u.withController m).call command).1 [.called u.calls command]
  | released (m : Controller ι) (id : Int32) (reason : ReleaseReason) (purpose : ReleasePurpose)
    (mailbox : m.mailbox = []) (outbox : m.outbox = []) (live : m.isHalted = false) :
    Tandem a u ((a.withController m).call (.release id reason purpose)).1
      [.called a.calls (.release id reason purpose)]
      (u.withController (m.post (.releaseDone purpose))) []

/-- Two bearers with the same controller take their turns together. -/
theorem Bearer.tandem_turn {s : Setting} {a u u' : Bearer ι} {now : List Event}
    (same : a.controller = u.controller) (attentive : a.controller.Attentive)
    (spent : a.controller.Spent) (h : u.turn (s.withRadio false) = some (u', now)) :
    ∃ a' shown, a.turn (s.withRadio true) = some (a', shown) ∧ a.Tandem u a' shown u' now := by
  cases hmailbox : u.controller.mailbox with
  | cons mail rest =>
    rw [turn_of_cons hmailbox] at h
    obtain ⟨rfl, rfl⟩ := Prod.mk.inj (Option.some.inj h)
    rw [turn_of_cons (same ▸ hmailbox), same, Controller.handle_withRadio,
      ← Controller.handle_withRadio s false]
    exact ⟨_, _, rfl, .handled _ _⟩
  | nil =>
    by_cases hnone : u.controller.outbox = []
    · rw [turn_eq_none_iff.mpr ⟨hmailbox, hnone⟩] at h
      cases h
    rw [turn_of_nil hmailbox hnone] at h
    rw [turn_of_nil (same ▸ hmailbox) (same ▸ hnone), same]
    rw [same] at attentive spent
    obtain ⟨command, hout⟩ := attentive.outbox_cases.resolve_left hnone
    -- a bearer that has halted has no commands
    have hlive : u.controller.isHalted = false :=
      Bool.eq_false_iff.mpr fun halted => hnone (spent halted).2.2
    have hclear : a.clearOutbox = a.withController { u.controller with outbox := [] } := by
      rw [clearOutbox, same]
      rfl
    rw [hout] at h ⊢
    obtain ⟨rfl, rfl⟩ := Prod.mk.inj (Option.some.inj h)
    rw [hclear]
    refine ⟨_, _, rfl, ?_⟩
    cases command with
    | setUp | lastCause => exact .called _ _ rfl
    | release id reason purpose => exact .released _ id reason purpose hmailbox rfl hlive

/-- Without the radio nothing is ever released by a call. -/
theorem Bearer.not_released {s : Setting} (b : Bearer ι) {call : Nat} {command : Command}
    (called : .called call command ∈ (b.drive (s.withRadio false)).2) :
    command.isRelease = false := by
  have hdispatched : ∀ (b : Bearer ι) (commands : List Command),
      .called call command ∈ (b.dispatchAll (s.withRadio false) commands).2 →
        command.isRelease = false := by
    intro b commands
    induction commands generalizing b with
    | nil => exact fun h => absurd h List.not_mem_nil
    | cons first commands ih =>
      rw [dispatchAll]
      intro h
      rcases List.mem_append.mp h with hnow | hlater
      · cases first with
        | release => cases hnow
        | setUp | lastCause =>
          cases List.mem_singleton.mp hnow
          rfl
      · exact ih _ hlater
  revert called
  fun_induction Bearer.drive (s.withRadio false) b with
  | case1 => exact fun h => absurd h List.not_mem_nil
  | case2 b b' now h _ b'' later hdrive ih =>
    rw [hdrive] at ih
    intro hcalled
    rcases List.mem_append.mp hcalled with hnow | hlater
    · rcases Bearer.turn_cases h with ⟨mail, rest, r, -, hrule, -, rfl⟩ | ⟨-, -, -, rfl⟩
      · have hnone := List.countP_eq_zero.mp
          (hrule.countP_isCall (m := b.controller.withMailbox rest)) _ hnow
        exact absurd rfl hnone
      · exact hdispatched _ _ hnow
    · exact ih hlater

/-! ### A scene and a bearer -/

namespace Scene

variable {s : Setting} {first : Nat} {v : Scene ι} {u u' : Bearer ι} {now : List Event}
  {act : Act ι} {acts : List (Act ι)} {answers : Nat → Except RadioError Unit}

/-- What a scene with the radio on and a bearer without it have in common all along. -/
structure Alike (s : Setting) (first : Nat) (v : Scene ι) (u : Bearer ι) : Prop where
  setting : v.setting = s.withRadio true
  numbered : v.bearer.Numbered
  attentive : v.controller.Attentive
  spent : v.controller.Spent
  bound : first ≤ v.bearer.calls
  others : v.bearer.others first = u.openCalls.map Prod.snd

/-- The two have the same controller. -/
structure Level (s : Setting) (first : Nat) (v : Scene ι) (u : Bearer ι) : Prop
    extends Alike s first v u where
  same : v.controller = u.controller
  inbox : v.bearer.inbox = []
  none : v.bearer.releasesFrom first = []

/-- The bearer without the radio has posted itself what the scene will be told. -/
structure Behind (s : Setting) (first : Nat) (v : Scene ι) (u : Bearer ι)
    (purpose : ReleasePurpose) : Prop extends Alike s first v u where
  resting : v.Resting
  live : v.bearer.isHalted = false
  ahead : u.controller = v.controller.post (.releaseDone purpose)

/-- The radio has been told to release the bearer, and has not answered. -/
structure Asked (s : Setting) (first : Nat) (v : Scene ι) (u : Bearer ι) (call : Nat)
    (purpose : ReleasePurpose) : Prop extends Behind s first v u purpose where
  inbox : v.bearer.inbox = []
  only : ∃ id reason, v.bearer.releasesFrom first = [(call, .release id reason purpose)]

/-- The radio has answered, and the bearer has not taken the answer. -/
structure Answered (s : Setting) (first : Nat) (v : Scene ι) (u : Bearer ι)
    (purpose : ReleasePurpose) : Prop extends Behind s first v u purpose where
  inbox : v.bearer.inbox = [.releaseDone purpose]
  none : v.bearer.releasesFrom first = []

/-- The two are level, or the scene is waiting for the end of a release. -/
inductive Abreast (s : Setting) (first : Nat) (v : Scene ι) (u : Bearer ι) : Prop
  | level (h : Level s first v u)
  | asked {call : Nat} {purpose : ReleasePurpose} (h : Asked s first v u call purpose)
  | answered {purpose : ReleasePurpose} (h : Answered s first v u purpose)

/-- Nothing is left to do, and no release is open that was ordered from a certain call on. -/
structure Served (first : Nat) (v : Scene ι) : Prop where
  resting : v.Resting
  inbox : v.bearer.inbox = []
  none : v.bearer.releasesFrom first = []

/-- A turn of the one is a turn of the other, but for the release that only the scene calls for. -/
theorem Level.turn (h : Level s first v u) (turn : u.turn (s.withRadio false) = some (u', now)) :
    Abreast s first (v.step .turn).1 u' ∧ sights (v.step .turn).2 = sights now := by
  obtain ⟨a', shown, hturn, htandem⟩ := Bearer.tandem_turn h.same h.attentive h.spent turn
  rw [← h.setting] at hturn
  have hstep : v.step .turn = (v.withBearer a', shown) := step_turn_eq hturn
  have hchange := v.change_step .turn
  have hnumbered := hchange.numbered h.numbered
  have hattentive := hchange.attentive h.attentive
  have hspent := hchange.spent h.spent
  rw [hstep] at hnumbered hattentive hspent ⊢
  cases htandem with
  | handled m events =>
    exact ⟨.level ⟨⟨h.setting, hnumbered, hattentive, hspent, h.bound, h.others⟩, rfl, h.inbox,
      h.none⟩, rfl⟩
  | called m command other =>
    have hbound : first ≤ (v.bearer.withController m).calls := h.bound
    have hothers : (((v.bearer.withController m).call command).1).others first =
        (((u.withController m).call command).1).openCalls.map Prod.snd := by
      show _ = (u.openCalls ++ [(u.calls, command)]).map Prod.snd
      rw [Bearer.others_call hbound, other, List.map_append]
      exact congrArg (· ++ [command]) h.others
    refine ⟨.level ⟨⟨h.setting, hnumbered, hattentive, hspent, Nat.le_succ_of_le h.bound, hothers⟩,
      rfl, h.inbox, ?_⟩, ?_⟩
    · show ((v.bearer.withController m).call command).1.releasesFrom first = []
      rw [Bearer.releasesFrom_call hbound, other]
      exact (List.append_nil _).trans h.none
    · cases command with
      | release => cases other
      | setUp | lastCause => rfl
  | released m id reason purpose mailbox outbox live =>
    have hbound : first ≤ (v.bearer.withController m).calls := h.bound
    have hothers : ((v.bearer.withController m).call (.release id reason purpose)).1.others first =
        u.openCalls.map Prod.snd := by
      rw [Bearer.others_call hbound]
      exact (List.append_nil _).trans h.others
    have honly : ((v.bearer.withController m).call (.release id reason purpose)).1.releasesFrom
        first = [(v.bearer.calls, .release id reason purpose)] := by
      rw [Bearer.releasesFrom_call hbound]
      exact congrArg (· ++ [_]) h.none
    have hasked : Asked s first
        (v.withBearer ((v.bearer.withController m).call (.release id reason purpose)).1)
        (u.withController (m.post (.releaseDone purpose))) v.bearer.calls purpose :=
      ⟨⟨⟨h.setting, hnumbered, hattentive, hspent, Nat.le_succ_of_le h.bound, hothers⟩,
        ⟨mailbox, outbox⟩, live, rfl⟩, h.inbox, id, reason, honly⟩
    exact ⟨.asked hasked, rfl⟩

/-- An answer from a certain call on finds no call, or closes one that releases a bearer. -/
theorem step_answer_of_new (v : Scene ι) {call : Nat} (result : Except RadioError Unit)
    (new : first ≤ call) :
    v.step (.answer call { release := some result }) = (v, []) ∨
      ∃ id reason purpose, (call, .release id reason purpose) ∈ v.bearer.releasesFrom first := by
  obtain ⟨v', events, hstep⟩ : ∃ v' events,
      v.step (.answer call { release := some result }) = (v', events) := ⟨_, _, rfl⟩
  have hchange := v.change_step (.answer call { release := some result })
  rw [hstep] at hchange ⊢
  cases hchange with
  | still => exact Or.inl rfl
  | @answered _ _ command mail isOpen ready =>
    refine Or.inr ?_
    cases command with
    | setUp | lastCause => cases ready
    | release id reason purpose =>
      exact ⟨id, reason, purpose, List.mem_filter.mpr ⟨isOpen, by simp [isReleaseFrom, new,
        Command.isRelease]⟩⟩

/-- The radio answers, whatever its answer. -/
theorem Asked.answer {call : Nat} {purpose : ReleasePurpose} (h : Asked s first v u call purpose)
    (result : Except RadioError Unit) :
    Answered s first (v.step (.answer call { release := some result })).1 u purpose ∧
      (v.step (.answer call { release := some result })).2 = [] := by
  obtain ⟨id, reason, honly⟩ := h.only
  have hmem : (call, .release id reason purpose) ∈ v.bearer.releasesFrom first := by
    rw [honly]
    exact List.mem_singleton_self _
  obtain ⟨hopen, hnew⟩ := List.mem_filter.mp hmem
  have hstep : v.step (.answer call { release := some result }) =
      ({ v with bearer := v.bearer.close call }.send (.releaseDone purpose), []) :=
    step_answer (h.numbered.find? hopen) rfl
  have hchange := v.change_step (.answer call { release := some result })
  have hnumbered := hchange.numbered h.numbered
  rw [hstep] at hnumbered ⊢
  have hothers : (v.bearer.close call).others first = u.openCalls.map Prod.snd :=
    (Bearer.others_close h.numbered hopen hnew).trans h.others
  exact ⟨⟨⟨⟨h.setting, hnumbered, h.attentive, h.spent, h.bound, hothers⟩, h.resting, h.live,
    h.ahead⟩, congrArg (· ++ [_]) h.inbox, Bearer.releasesFrom_close honly⟩, rfl⟩

/-- The bearer takes the answer, and has caught up. -/
theorem Answered.take {purpose : ReleasePurpose} (h : Answered s first v u purpose) :
    Level s first (v.step .take).1 u ∧ (v.step .take).2 = [] := by
  have hstep := step_take h.resting h.inbox
  have hlive : ¬ (v.bearer.withInbox []).isHalted = true := Bool.eq_false_iff.mp h.live
  rw [Bearer.accept, if_neg hlive] at hstep
  have hchange := v.change_step .take
  have hattentive := hchange.attentive h.attentive
  have hspent := hchange.spent h.spent
  rw [hstep] at hattentive hspent ⊢
  exact ⟨⟨⟨h.setting, ⟨h.numbered.nodup, h.numbered.lt⟩, hattentive, hspent, h.bound, h.others⟩,
    h.ahead.symm, rfl, h.none⟩, rfl⟩

omit [Interceptor ι] in
/-- A bearer that rests is handed a piece of mail, with the radio on and without it. -/
theorem level_accept (v : Scene ι) (numbered : v.bearer.Numbered)
    (attentive : v.controller.Attentive) (spent : v.controller.Spent) (resting : v.Resting)
    (mail : Mail) :
    Level v.setting v.bearer.calls
      { v with
        setting := v.setting.withRadio true
        bearer := (v.bearer.accept mail).1.withInbox [] }
      ((v.bearer.accept mail).1.withInbox []) := by
  have haccept : (v.bearer.accept mail).1.openCalls = v.bearer.openCalls ∧
      (v.bearer.accept mail).1.calls = v.bearer.calls ∧
      (v.bearer.accept mail).1.controller.Attentive ∧
      (v.bearer.accept mail).1.controller.Spent := by
    rw [Bearer.accept]
    split
    · exact ⟨rfl, rfl, attentive, spent⟩
    · next live =>
      exact ⟨rfl, rfl, attentive.post resting.1 resting.2 mail, fun halted => absurd halted live⟩
  obtain ⟨hopen, hcalls, hattentive, hspent⟩ := haccept
  generalize (v.bearer.accept mail).1 = b at hopen hcalls hattentive hspent
  have hnumbered : (b.withInbox []).Numbered := by
    refine ⟨?_, fun call hcall => ?_⟩
    · show (b.openCalls.map Prod.fst).Nodup
      rw [hopen]
      exact numbered.nodup
    · show call.1 < b.calls
      rw [hcalls]
      exact numbered.lt call (hopen ▸ hcall)
  have hnone : (b.withInbox []).releasesFrom v.bearer.calls = [] := by
    rw [← hcalls]
    exact Bearer.releasesFrom_calls (b := b.withInbox []) hnumbered
  exact ⟨⟨rfl, hnumbered, hattentive, hspent, hcalls.ge, Bearer.others_of_none hnone⟩, rfl, rfl,
    hnone⟩

/-! ### Runs -/

/-- What a scene has come to, and what has shown, the bearer without the radio comes to as well on
its way to rest. -/
def Followed (s : Setting) (first : Nat) (reached : Scene ι × List Event) (u : Bearer ι) : Prop :=
  ∃ u' past, Abreast s first reached.1 u' ∧ sights reached.2 = sights past ∧
    u.drive (s.withRadio false) =
      ((u'.drive (s.withRadio false)).1, past ++ (u'.drive (s.withRadio false)).2)

/-- Whatever happens next to the scene, if it is left alone, the bearer without the radio follows in
a turn at most. -/
theorem Abreast.step (h : Abreast s first v u) (attends : act.Attends first answers) :
    Followed s first (v.step act) u := by
  -- an act that only the scene takes part in
  have alone : Abreast s first (v.step act).1 u → (v.step act).2 = [] →
      Followed s first (v.step act) u :=
    fun habreast hsilent => ⟨u, [], habreast, congrArg sights hsilent, rfl⟩
  have still : v.step act = (v, []) → Followed s first (v.step act) u := by
    intro hstep
    rw [hstep]
    exact ⟨u, [], h, rfl, rfl⟩
  cases attends with
  | turn =>
    cases h with
    | level hlevel =>
      cases hturn : u.turn (s.withRadio false) with
      | none =>
        have hrest := Bearer.turn_eq_none_iff.mp hturn
        rw [← hlevel.same] at hrest
        exact still (step_turn_of_rest hrest)
      | some next =>
        obtain ⟨habreast, hsights⟩ := hlevel.turn hturn
        exact ⟨next.1, next.2, habreast, hsights, Bearer.drive_of_turn hturn⟩
    | asked hasked => exact still (step_turn_of_rest hasked.resting)
    | answered hanswered => exact still (step_turn_of_rest hanswered.resting)
  | take =>
    cases h with
    | level hlevel => exact still (step_take_of_nil hlevel.inbox)
    | asked hasked => exact still (step_take_of_nil hasked.inbox)
    | answered hanswered =>
      obtain ⟨hlevel, hsilent⟩ := hanswered.take
      exact alone (.level hlevel) hsilent
  | @answer call new =>
    rcases v.step_answer_of_new (answers call) new with hstill | ⟨id, reason, purpose, hmem⟩
    · exact still hstill
    cases h with
    | level hlevel =>
      rw [hlevel.none] at hmem
      cases hmem
    | asked hasked =>
      obtain ⟨_, _, honly⟩ := hasked.only
      rw [honly] at hmem
      cases List.mem_singleton.mp hmem
      obtain ⟨hanswered, hsilent⟩ := hasked.answer (answers call)
      exact alone (.answered hanswered) hsilent
    | answered hanswered =>
      rw [hanswered.none] at hmem
      cases hmem

theorem Abreast.run (h : Abreast s first v u) (attends : ∀ act ∈ acts, act.Attends first answers) :
    Followed s first (v.run acts) u := by
  induction acts generalizing v u with
  | nil => exact ⟨u, [], h, rfl, rfl⟩
  | cons act acts ih =>
    obtain ⟨u₁, now, hstep, hnow, hdrive⟩ := h.step (attends act List.mem_cons_self)
    obtain ⟨u₂, later, hrun, hlater, hrest⟩ :=
      ih hstep fun other hother => attends other (List.mem_cons_of_mem act hother)
    refine ⟨u₂, now ++ later, hrun, ?_, ?_⟩
    · rw [run_cons, sights_append, sights_append, hnow, hlater]
    · rw [hdrive, hrest, List.append_assoc]

/-- Where all releases are answered, the bearer without the radio has come to rest, too. -/
theorem Abreast.served (h : Abreast s first v u) (served : v.Served first) :
    Level s first v u ∧ u.turn (s.withRadio false) = none := by
  cases h with
  | level hlevel =>
    refine ⟨hlevel, Bearer.turn_eq_none_iff.mpr ?_⟩
    rw [← hlevel.same]
    exact served.resting
  | asked hasked =>
    obtain ⟨id, reason, honly⟩ := hasked.only
    rw [served.none] at honly
    cases honly
  | answered hanswered =>
    have hinbox := hanswered.inbox
    rw [served.inbox] at hinbox
    cases hinbox

/-- A scene that is behind can catch up. -/
theorem Abreast.catch_up (h : Abreast s first v u) (answers : Nat → Except RadioError Unit) :
    ∃ acts : List (Act ι), (∀ act ∈ acts, act.Attends first answers) ∧
      Level s first (v.run acts).1 u := by
  cases h with
  | level hlevel => exact ⟨[], fun act hact => absurd hact List.not_mem_nil, hlevel⟩
  | @asked call _ hasked =>
    obtain ⟨id, reason, honly⟩ := hasked.only
    have hnew : first ≤ call := by
      have hmem : (call, _) ∈ v.bearer.releasesFrom first := honly ▸ List.mem_singleton_self _
      simpa [isReleaseFrom, Command.isRelease] using (List.mem_filter.mp hmem).2
    refine ⟨[.answer call { release := some (answers call) }, .take], ?_, ?_⟩
    · intro act hact
      rcases List.mem_cons.mp hact with rfl | hlast
      · exact .answer hnew
      · rw [List.mem_singleton.mp hlast]
        exact .take
    · exact (hasked.answer (answers call)).1.take.1
  | answered hanswered =>
    refine ⟨[.take], fun act hact => ?_, hanswered.take.1⟩
    rw [List.mem_singleton.mp hact]
    exact .take

/-- All releases can be answered, in as many turns as the bearer without the radio takes. -/
theorem Abreast.exists_served (h : Abreast s first v u) (answers : Nat → Except RadioError Unit) :
    ∃ acts : List (Act ι), (∀ act ∈ acts, act.Attends first answers) ∧
      (v.run acts).1.Served first := by
  fun_induction Bearer.drive (s.withRadio false) u generalizing v with
  | case1 u hrest =>
    obtain ⟨acts, hacts, hlevel⟩ := h.catch_up answers
    refine ⟨acts, hacts, ?_, hlevel.inbox, hlevel.none⟩
    rw [Resting, hlevel.same]
    exact Bearer.turn_eq_none_iff.mp hrest
  | case2 u u' now hturn _ u'' later hdrive ih =>
    obtain ⟨acts, hacts, hlevel⟩ := h.catch_up answers
    obtain ⟨later, hlater, hserved⟩ := ih (hlevel.turn hturn).1
    refine ⟨acts ++ .turn :: later, fun act hact => ?_, ?_⟩
    · rcases List.mem_append.mp hact with hfirst | hrest
      · exact hacts act hfirst
      · rcases List.mem_cons.mp hrest with rfl | hlast
        · exact .turn
        · exact hlater act hlast
    · rw [run_append, run_cons]
      exact hserved

end Scene

/-- Whatever a bearer has been through, and whatever it is handed as it rests: suppose that it then
works without the radio until nothing is left to do, or that it works with the radio, which answers
every release that is ordered on the way before the bearer hears of anything else.  The former never
calls the radio for a release, and the latter comes to an end whatever the answers are.  In the end
the two bearers have the same controller and the same commands open, and but for releases and for
the numbers of calls the same has shown, in the same order. -/
theorem releases_alike {ι : Type} [Interceptor ι] (s : Setting) (i : ι) (acts : List (Act ι))
    (mail : Mail) (answers : Nat → Except RadioError Unit)
    (resting : ((Scene.start s i).run acts).1.Resting) :
    let w := ((Scene.start s i).run acts).1
    let b := (w.bearer.accept mail).1.withInbox []
    let off := b.drive (w.setting.withRadio false)
    let on := { w with setting := w.setting.withRadio true, bearer := b }
    (∀ call command, .called call command ∈ off.2 → command.isRelease = false) ∧
      (∃ served : List (Act ι), (∀ act ∈ served, act.Attends w.bearer.calls answers) ∧
        (on.run served).1.Served w.bearer.calls) ∧
      ∀ served : List (Act ι), (∀ act ∈ served, act.Attends w.bearer.calls answers) →
        (on.run served).1.Served w.bearer.calls →
          (on.run served).1.controller = off.1.controller ∧
            (on.run served).1.bearer.openCalls.map Prod.snd = off.1.openCalls.map Prod.snd ∧
            sights (on.run served).2 = sights off.2 := by
  intro w b off on
  have hlevel : Scene.Level w.setting w.bearer.calls on b :=
    w.level_accept (Scene.numbered_run _ acts (Bearer.numbered_start i))
      (Scene.attentive_run acts (Scene.attentive_start s i))
      (Scene.spent_run acts (Scene.spent_start s i)) resting mail
  refine ⟨fun call command => b.not_released, (Scene.Abreast.level hlevel).exists_served answers,
    fun served hattends hserved => ?_⟩
  obtain ⟨u, past, habreast, hsights, hdrive⟩ := (Scene.Abreast.level hlevel).run hattends
  obtain ⟨hend, hrest⟩ := habreast.served hserved
  have hoff : off = (u, past) := by
    rw [show off = _ from hdrive, Bearer.drive_of_rest hrest, List.append_nil]
  rw [hoff, ← Bearer.others_of_none hserved.none, hend.others]
  exact ⟨hend.same, rfl, hsights⟩

end

/-- While a bearer is set up it is to be torn down, and another client waits for the next one. -/
def impatient : List (Act Unit) :=
  [.ask (.bringUp "a" {}), .take, .turn, .turn, .ask (.tearDown none "over"), .take, .turn,
    .ask (.bringUp "b" {}), .take, .turn]

/-- The radio answers the release with an error, and is told to set up the next bearer. -/
def released : List (Act Unit) :=
  [.turn, .turn, .turn, .turn, .answer 1 { release := some (.error .genericFailure) }, .take, .turn,
    .turn, .turn]

theorem releases_alike_impatient :
    let w := ((Scene.start .cellular ()).run impatient).1
    let b := (w.bearer.accept (.setUpDone firstRequest (.ok plainReply))).1.withInbox []
    let off := b.drive (w.setting.withRadio false)
    let on := { w with setting := w.setting.withRadio true, bearer := b }
    w.Resting ∧ (on.run released).1.Served w.bearer.calls ∧
      (on.run released).1.controller.phase = .settingUp ∧
      (on.run released).1.controller = off.1.controller ∧
      (on.run released).1.bearer.openCalls.map Prod.snd = off.1.openCalls.map Prod.snd ∧
      sights (on.run released).2 = sights off.2 := by
  intro w b off on
  have hresting : w.Resting := ⟨rfl, rfl⟩
  have hserved : (on.run released).1.Served w.bearer.calls := ⟨⟨rfl, rfl⟩, rfl, rfl⟩
  have hattends : ∀ act ∈ released,
      act.Attends w.bearer.calls fun _ => .error .genericFailure := by
    intro act hact
    simp only [released, List.mem_cons, List.not_mem_nil, or_false] at hact
    rcases hact with rfl | rfl | rfl | rfl | rfl | rfl | rfl | rfl | rfl
    · exact .turn
    · exact .turn
    · exact .turn
    · exact .turn
    · exact .answer (by decide)
    · exact .take
    · exact .turn
    · exact .turn
    · exact .turn
  obtain ⟨-, -, hall⟩ := releases_alike .cellular () impatient
    (.setUpDone firstRequest (.ok plainReply)) (fun _ => .error .genericFailure) hresting
  exact ⟨hresting, hserved, rfl, hall released hattends hserved⟩

end PacketBearer
