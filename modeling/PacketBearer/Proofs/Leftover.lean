/-
Links without a bearer.

The record is wiped whenever the bearer becomes idle, and an answer of the radio that comes too late
is not heeded.  But the owner may have the link negotiated from a reply at any time, also when the
bearer that the reply is about is gone, and then the link is there without a bearer, and is still
there when the next attempt begins.

* `renewed_of_agreed` — where no bearer exists, nobody but the owner can have agreed on the link;
* `link_iff_renewed` — so there is a link without a bearer exactly if the owner has had one
  negotiated since the bearer became idle; and an update is accepted or not whatever the phase;
* `leftover_lateUpdate` — a link that is left over.
-/
import PacketBearer.Proofs.Agreement
import PacketBearer.Proofs.Success

namespace PacketBearer

namespace Scene

variable {ι : Type}

/-- The owner has a link negotiated at an act. -/
def Renews (w : Scene ι) (act : Act ι) (link : Link) : Prop :=
  ∃ reply, w.Renegotiates act reply ∧ w.Makes reply link

theorem Renews.agrees {w : Scene ι} {act : Act ι} {link : Link} (h : w.Renews act link) :
    w.Agrees act link := by
  obtain ⟨reply, hrenegotiates, hmakes⟩ := h
  exact ⟨reply, Or.inr hrenegotiates, hmakes⟩

/-- A link that a reply makes has an interface. -/
theorem Renews.ne_empty {w : Scene ι} {act : Act ι} {link : Link} (h : w.Renews act link) :
    link ≠ {} := by
  obtain ⟨reply, -, -, hagreed⟩ := h
  obtain ⟨addresses, dns, routes, -, -, -, rfl⟩ := negotiate_eq_ok_iff.mp hagreed
  intro hempty
  cases congrArg Link.interface hempty

variable [Interceptor ι] {w : Scene ι} {acts : List (Act ι)} {link : Link}

/-- Where no bearer exists, the link was not agreed on in an attempt, but renewed by the owner. -/
theorem renewed_of_agreed (live : (w.run acts).1.bearer.isHalted = false)
    (absent : (w.run acts).1.controller.phase.hasBearer = false)
    (agreed : w.Latest Agrees acts link) : w.Latest Renews acts link := by
  obtain ⟨earlier, act, later, rfl, ⟨reply, hsource, hmakes⟩, hstays, hsince⟩ := agreed
  rcases hsource with ⟨request, hreplies⟩ | hrenegotiates
  · -- an attempt that has succeeded has left a bearer, which lasts until the bearer becomes idle
    rw [run_append, run_cons] at live absent
    rw [run_cons, List.countP_append] at hstays
    have hbearer : ((w.run earlier).1.step act).1.controller.phase.hasBearer = true := by
      rw [(hreplies.accepted hmakes).1]
      rfl
    have hlasts := (hasBearer_run live hbearer (Nat.add_eq_zero_iff.mp hstays).2).1
    exact absurd hlasts (Bool.eq_false_iff.mp absent)
  · refine ⟨earlier, act, later, rfl, ⟨reply, hrenegotiates, hmakes⟩, hstays, ?_⟩
    intro first one rest other hsplit hrenews
    exact hsince first one rest other hsplit hrenews.agrees

theorem Latest.not_nothing {α : Type} {happens : Scene ι → Act ι → α → Prop} {what : α}
    (h : w.Latest happens acts what) : ¬ w.Nothing happens acts := by
  obtain ⟨earlier, act, later, rfl, hhappens, hstays, -⟩ := h
  exact fun hnothing => hnothing earlier act later what rfl hhappens hstays

/-- An update is accepted exactly if its reply makes a link. -/
theorem accepted_iff_makes {act : Act ι} {number : Nat} {reply : SetupReply}
    (handles : w.Handles act (.inquiry number (.updateLink reply))) :
    (∃ before after, .answered number (.update ⟨.accepted, before, after⟩) ∈ (w.step act).2) ↔
      ∃ link, w.Makes reply link := by
  obtain ⟨verdict, hevents, hcase⟩ := (step_updateLink handles).answer
  rw [hevents]
  constructor
  · rintro ⟨before, after, hmem⟩
    rcases hcase with ⟨-, link, hmakes, -⟩ | ⟨hverdict, -⟩
    · exact ⟨link, hmakes⟩
    · cases List.mem_singleton.mp hmem
      exact absurd rfl hverdict
  · rintro ⟨link, hmakes⟩
    rcases hcase with ⟨rfl, -⟩ | ⟨-, hnone, -⟩
    · exact ⟨_, _, List.mem_singleton_self _⟩
    · exact absurd hmakes (hnone link)

end Scene

/-- Where no bearer exists, the link is empty exactly if the owner has had none negotiated since the
bearer became idle; and whatever the phase, an update is accepted exactly if its reply makes a
link. -/
theorem link_iff_renewed {ι : Type} [Interceptor ι] (s : Setting) (i : ι) (acts : List (Act ι))
    (live : ((Scene.start s i).run acts).1.bearer.isHalted = false) :
    (((Scene.start s i).run acts).1.controller.phase.hasBearer = false →
      (((Scene.start s i).run acts).1.controller.connection.link.withProxy none = {} ↔
        (Scene.start s i).Nothing Scene.Renews acts)) ∧
    ∀ act number reply,
      ((Scene.start s i).run acts).1.Handles act (.inquiry number (.updateLink reply)) →
        ((∃ before after, .answered number (.update ⟨.accepted, before, after⟩) ∈
            (((Scene.start s i).run acts).1.step act).2) ↔
          ∃ link, ((Scene.start s i).run acts).1.Makes reply link) := by
  refine ⟨fun absent => ?_, fun act number reply handles => Scene.accepted_iff_makes handles⟩
  rcases Scene.latest_or_nothing Scene.tracks_link rfl live with
    ⟨link, hlatest, hlink⟩ | ⟨hnothing, hempty⟩
  · have hrenewed := Scene.renewed_of_agreed live absent hlatest
    refine iff_of_false (fun hempty => ?_) hrenewed.not_nothing
    obtain ⟨earlier, act, later, -, hrenews, -⟩ := hrenewed
    exact hrenews.ne_empty (hlink.symm.trans hempty)
  · refine iff_of_true hempty fun earlier act later link hsplit hrenews => ?_
    exact hnothing earlier act later link hsplit hrenews.agrees

/-- A bearer comes up and is torn down, and its owner has a reply that is about it. -/
def lateUpdate : List (Act Unit) :=
  [.ask (.bringUp "a" {}), .take, .turn, .turn, .answer 0 { setUp := some (.ok plainReply) },
    .take, .turn, .ask (.tearDown none "over"), .take, .turn, .turn,
    .answer 1 { release := some (.ok ()) }, .take, .turn, .inquire (.updateLink renewedReply), .take]

/-- Before the update is handled nothing is left of the link. -/
theorem link_iff_renewed_before :
    ((Scene.start .cellular ()).run lateUpdate).1.bearer.isHalted = false ∧
    ((Scene.start .cellular ()).run lateUpdate).1.controller.phase.hasBearer = false ∧
    (Scene.start .cellular ()).Nothing Scene.Renews lateUpdate := by
  obtain ⟨hempty, -⟩ := link_iff_renewed .cellular () lateUpdate (by decide)
  exact ⟨by decide, by decide, (hempty (by decide)).mp (by decide)⟩

/-- After it the bearer is idle, and has a link. -/
theorem leftover_lateUpdate :
    ¬ ∀ acts, ((Scene.start .cellular ()).run acts).1.bearer.isHalted = false →
      ((Scene.start .cellular ()).run acts).1.controller.phase.hasBearer = false →
        ((Scene.start .cellular ()).run acts).1.controller.connection.link.withProxy none = {} := by
  intro h
  have hempty := h (lateUpdate ++ [.turn]) (by decide) (by decide)
  exact absurd hempty (by decide)

end PacketBearer
