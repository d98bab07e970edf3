/-
Who is on a roster, and in which order.

A roster is what has been done with it: a client is on it exactly if it was attached and has not been
taken off since, and the clients stand in the order of the attaches that put them there.  To attach a
client again makes no difference; to take it off and attach it again puts it at the end.

* `Present`, `JoinsAt` — who should be on a roster and since when, read off the operations alone;
* `present_concat`, `joinsAt_concat` — what one more operation makes of that;
* `Ranks.concat`, `ranks_after` — the roster keeps up with it, operation by operation;
* `roster_by_seniority` — so after any operations the roster is as they say, and the next one is
  answered accordingly.
-/
import Mathlib.Data.List.Induction
import Mathlib.Data.List.Nodup
import Mathlib.Data.Set.Card
import PacketBearer.Proofs.Scene

namespace PacketBearer.Roster

/-- What can be done with a roster. -/
inductive Operation where
  | attach (name : String)
  | detach (name : String)
  | contains (name : String)
  | clear
  deriving DecidableEq, Repr

/-- What an operation is answered with. -/
inductive Outcome where
  | flag (value : Bool)
  | names (names : List String)
  deriving DecidableEq, Repr

/-- What an operation is answered with, and the roster after it. -/
def perform (r : Roster) : Operation → Outcome × Roster
  | .attach name => (.flag (r.attach name).1, (r.attach name).2)
  | .detach name => (.flag (r.detach name).1, (r.detach name).2)
  | .contains name => (.flag (decide (name ∈ r)), r)
  | .clear => (.names r.clear.1, r.clear.2)

/-- The roster after operations on an empty one. -/
def after (operations : List Operation) : Roster :=
  operations.foldl (fun r operation => (r.perform operation).2) ∅

/-! ### What the operations say -/

/-- The operation takes a client off, if it is there. -/
def Operation.Removes : Operation → String → Prop
  | detach name, other => other = name
  | clear, _ => True
  | attach _, _ | contains _, _ => False

/-- The last operation that attached or removed a client has attached it. -/
def Present (operations : List Operation) (name : String) : Prop :=
  ∃ earlier later, operations = earlier ++ .attach name :: later ∧
    ∀ operation ∈ later, operation ≠ .attach name ∧ ¬ operation.Removes name

/-- A client is there since the operation at this position, which attached it when it was not. -/
def JoinsAt (operations : List Operation) (name : String) (position : Nat) : Prop :=
  ∃ earlier later, operations = earlier ++ .attach name :: later ∧ earlier.length = position ∧
    ¬ Present earlier name ∧ ∀ operation ∈ later, ¬ operation.Removes name

/-- What an operation should be answered with, and who should be listed after it, by who is present
and who is listed before it. -/
inductive Answers (present : String → Prop) (listed : List String) :
    Operation → Outcome → List String → Prop
  | attached {name : String} (absent : ¬ present name) :
    Answers present listed (.attach name) (.flag true) (listed ++ [name])
  | kept {name : String} (here : present name) :
    Answers present listed (.attach name) (.flag false) listed
  | detached {name : String} (here : present name) :
    Answers present listed (.detach name) (.flag true) (listed.filter (· ≠ name))
  | missed {name : String} (absent : ¬ present name) :
    Answers present listed (.detach name) (.flag false) listed
  | found {name : String} (here : present name) :
    Answers present listed (.contains name) (.flag true) listed
  | unfound {name : String} (absent : ¬ present name) :
    Answers present listed (.contains name) (.flag false) listed
  | cleared : Answers present listed .clear (.names listed) []

section

variable {operations : List Operation} {operation : Operation} {name : String}

theorem not_present_nil (name : String) : ¬ Present [] name := by
  rintro ⟨earlier, later, h, -⟩
  exact List.append_ne_nil_of_right_ne_nil _ (List.cons_ne_nil _ _) h.symm

/-- A client is present after an operation that attaches it, or if it was and is not removed. -/
theorem present_concat : Present (operations ++ [operation]) name ↔
    operation = .attach name ∨ Present operations name ∧ ¬ operation.Removes name := by
  constructor
  · rintro ⟨earlier, later, hsplit, hlater⟩
    rcases split_concat hsplit with ⟨-, rfl, -⟩ | ⟨rest, rfl, rfl⟩
    · exact Or.inl rfl
    · obtain ⟨hrest, hlast⟩ := List.forall_mem_append.mp hlater
      exact Or.inr ⟨⟨earlier, rest, rfl, hrest⟩, (hlast operation List.mem_cons_self).2⟩
  · rintro (rfl | ⟨⟨earlier, later, rfl, hlater⟩, hstays⟩)
    · exact ⟨operations, [], rfl, fun _ hmem => absurd hmem List.not_mem_nil⟩
    · by_cases hattach : operation = .attach name
      · subst hattach
        exact ⟨earlier ++ .attach name :: later, [], rfl, fun _ hmem => absurd hmem List.not_mem_nil⟩
      · refine ⟨earlier, later ++ [operation], by simp, ?_⟩
        rw [List.forall_mem_append]
        exact ⟨hlater, by simpa using ⟨hattach, hstays⟩⟩

/-- One more operation leaves a client where it stands, unless it removes it; a client that was not
present joins last. -/
theorem joinsAt_concat {position : Nat} : JoinsAt (operations ++ [operation]) name position ↔
    (JoinsAt operations name position ∧ ¬ operation.Removes name) ∨
      operation = .attach name ∧ ¬ Present operations name ∧ position = operations.length := by
  constructor
  · rintro ⟨earlier, later, hsplit, rfl, habsent, hlater⟩
    rcases split_concat hsplit with ⟨rfl, rfl, -⟩ | ⟨rest, rfl, rfl⟩
    · exact Or.inr ⟨rfl, habsent, rfl⟩
    · obtain ⟨hrest, hlast⟩ := List.forall_mem_append.mp hlater
      exact Or.inl ⟨⟨earlier, rest, rfl, rfl, habsent, hrest⟩, hlast operation List.mem_cons_self⟩
  · rintro (⟨⟨earlier, later, rfl, rfl, habsent, hlater⟩, hstays⟩ | ⟨rfl, habsent, rfl⟩)
    · refine ⟨earlier, later ++ [operation], by simp, rfl, habsent, ?_⟩
      rw [List.forall_mem_append]
      exact ⟨hlater, by simpa using hstays⟩
    · exact ⟨operations, [], rfl, rfl, habsent, fun _ hmem => absurd hmem List.not_mem_nil⟩

/-- Nobody joins later than now. -/
theorem JoinsAt.lt {position : Nat} (h : JoinsAt operations name position) :
    position < operations.length := by
  obtain ⟨earlier, later, rfl, rfl, -⟩ := h
  rw [List.length_append, List.length_cons]
  omega

/-- Whoever has joined and was not removed is present. -/
theorem JoinsAt.present {position : Nat} (h : JoinsAt operations name position) :
    Present operations name := by
  obtain ⟨earlier, later, rfl, -, -, hlater⟩ := h
  induction later using List.reverseRecOn with
  | nil => exact present_concat.mpr (Or.inl rfl)
  | append_singleton later operation ih =>
    obtain ⟨hrest, hlast⟩ := List.forall_mem_append.mp hlater
    rw [← List.cons_append, ← List.append_assoc, present_concat]
    exact Or.inr ⟨ih hrest, hlast operation List.mem_cons_self⟩

/-- Whoever is present has joined at one time. -/
theorem existsUnique_joinsAt (h : Present operations name) :
    ∃! position, JoinsAt operations name position := by
  induction operations using List.reverseRecOn with
  | nil => exact absurd h (not_present_nil name)
  | append_singleton operations operation ih =>
    by_cases hbefore : Present operations name ∧ ¬ operation.Removes name
    · -- it has joined before, and an attach makes no difference
      obtain ⟨position, hjoins, hunique⟩ := ih hbefore.1
      refine ⟨position, joinsAt_concat.mpr (Or.inl ⟨hjoins, hbefore.2⟩), fun other hother => ?_⟩
      rcases joinsAt_concat.mp hother with ⟨hsame, -⟩ | ⟨-, habsent, -⟩
      · exact hunique other hsame
      · exact absurd hbefore.1 habsent
    · obtain rfl := (present_concat.mp h).resolve_right hbefore
      have habsent : ¬ Present operations name := fun hpresent => hbefore ⟨hpresent, id⟩
      refine ⟨operations.length, joinsAt_concat.mpr (Or.inr ⟨rfl, habsent, rfl⟩),
        fun other hother => ?_⟩
      rcases joinsAt_concat.mp hother with ⟨hsame, -⟩ | ⟨-, -, hlast⟩
      · exact absurd hsame.present habsent
      · exact hlast

end

/-! ### What the roster makes of it -/

/-- A list names those who are present, each once and in the order in which they joined. -/
structure Ranks (operations : List Operation) (listed : List String) : Prop where
  nodup : listed.Nodup
  mem_iff : ∀ name, name ∈ listed ↔ Present operations name
  seniority : listed.Pairwise fun senior junior => ∀ position position',
    JoinsAt operations senior position → JoinsAt operations junior position' → position < position'

section

variable {operations : List Operation} {listed next : List String} {operation : Operation}

theorem ranks_nil : Ranks [] [] where
  nodup := List.nodup_nil
  mem_iff name := by simpa using not_present_nil name
  seniority := List.Pairwise.nil

/-- An operation that attaches nobody anew leaves those in their order whom it does not remove. -/
theorem Ranks.of_filter (h : Ranks operations listed) (operation : Operation)
    (stays : String → Bool)
    (known : ∀ name, operation = .attach name → Present operations name)
    (kept : ∀ name, stays name = true ↔ ¬ operation.Removes name) :
    Ranks (operations ++ [operation]) (listed.filter stays) where
  nodup := h.nodup.filter _
  mem_iff name := by
    rw [List.mem_filter, h.mem_iff, kept, present_concat]
    refine ⟨Or.inr, fun hpresent => hpresent.elim (fun hattach => ⟨known name hattach, ?_⟩) id⟩
    rw [hattach]
    exact id
  seniority := by
    refine (h.seniority.imp fun {senior junior} hbefore => ?_).filter stays
    have old : ∀ {name position}, JoinsAt (operations ++ [operation]) name position →
        JoinsAt operations name position := fun {name position} hjoins =>
      (joinsAt_concat.mp hjoins).elim And.left
        fun hnew => absurd (known name hnew.1) hnew.2.1
    exact fun position position' hsenior hjunior => hbefore _ _ (old hsenior) (old hjunior)

/-- A client that joins is the last one. -/
theorem Ranks.join (h : Ranks operations listed) {name : String}
    (absent : ¬ Present operations name) :
    Ranks (operations ++ [.attach name]) (listed ++ [name]) where
  nodup := by
    have hnew : name ∉ listed := fun hmem => absent ((h.mem_iff name).mp hmem)
    rw [List.nodup_append]
    refine ⟨h.nodup, List.nodup_singleton name, fun other hother last hlast => ?_⟩
    rw [List.mem_singleton.mp hlast]
    exact ne_of_mem_of_not_mem hother hnew
  mem_iff other := by
    rw [List.mem_append, List.mem_singleton, h.mem_iff, present_concat, Operation.attach.injEq]
    exact ⟨fun hmem => hmem.elim (fun hold => Or.inr ⟨hold, id⟩) fun hsame => Or.inl hsame.symm,
      fun hpresent => hpresent.elim (fun hsame => Or.inr hsame.symm) fun hold => Or.inl hold.1⟩
  seniority := by
    rw [List.pairwise_append]
    refine ⟨?_, List.pairwise_singleton _ _, fun senior hsenior junior hjunior => ?_⟩
    · -- those who were there are none of them the one that joins
      refine h.seniority.imp_of_mem fun {senior junior} hsenior hjunior hbefore => ?_
      have old : ∀ {other position}, other ∈ listed →
          JoinsAt (operations ++ [.attach name]) other position →
          JoinsAt operations other position := fun {other position} hmem hjoins =>
        (joinsAt_concat.mp hjoins).elim And.left
          fun hnew => absurd ((h.mem_iff other).mp hmem) hnew.2.1
      exact fun position position' hfirst hsecond =>
        hbefore _ _ (old hsenior hfirst) (old hjunior hsecond)
    · rw [List.mem_singleton.mp hjunior]
      intro position position' hfirst hsecond
      have hpresent := (h.mem_iff senior).mp hsenior
      rcases joinsAt_concat.mp hfirst with ⟨hold, -⟩ | ⟨-, habsent, -⟩
      · rcases joinsAt_concat.mp hsecond with ⟨hearlier, -⟩ | ⟨-, -, rfl⟩
        · exact absurd hearlier.present absent
        · exact hold.lt
      · exact absurd hpresent habsent

/-- An operation that is answered as it should keeps the list in order. -/
theorem Ranks.concat {outcome : Outcome} (h : Ranks operations listed)
    (answers : Answers (Present operations) listed operation outcome next) :
    Ranks (operations ++ [operation]) next := by
  have same : ∀ {operation : Operation}, (∀ name, ¬ operation.Removes name) →
      (∀ name, operation = .attach name → Present operations name) →
      Ranks (operations ++ [operation]) listed := by
    intro operation hremoves hknown
    have hall := h.of_filter operation (fun _ => true) hknown
      fun name => by simpa using hremoves name
    rwa [List.filter_true] at hall
  cases answers with
  | attached absent => exact h.join absent
  | @kept name here =>
    refine same (fun _ => id) fun other hother => ?_
    rw [← Operation.attach.inj hother]
    exact here
  | detached here =>
    refine h.of_filter _ _ (fun name hname => by cases hname) fun other => ?_
    rw [decide_eq_true_iff]
    rfl
  | @missed name absent =>
    -- nobody is removed who is there
    have hall := h.of_filter (.detach name) (fun other => other ≠ name)
      (fun other hother => by cases hother) fun other => by rw [decide_eq_true_iff]; rfl
    have hnone : listed.filter (fun other => other ≠ name) = listed := by
      rw [List.filter_eq_self]
      rintro other hother
      rw [decide_eq_true_iff]
      rintro rfl
      exact absent ((h.mem_iff other).mp hother)
    rwa [hnone] at hall
  | found | unfound => exact same (fun _ => id) fun other hother => by cases hother
  | cleared =>
    have hall := h.of_filter .clear (fun _ => false)
      (fun other hother => by cases hother) fun other => by simp [Operation.Removes]
    rwa [List.filter_false] at hall

/-- A roster in order answers as it should. -/
theorem Ranks.answers {r : Roster} (h : Ranks operations r.names) (operation : Operation) :
    Answers (Present operations) r.names operation (r.perform operation).1
      (r.perform operation).2.names := by
  have here : ∀ {name : String}, name ∈ r ↔ Present operations name := fun {name} => h.mem_iff name
  cases operation with
  | attach name =>
    rw [perform, Roster.attach]
    by_cases hmem : name ∈ r
    · rw [if_pos hmem]
      exact .kept (here.mp hmem)
    · rw [if_neg hmem]
      exact .attached fun hpresent => hmem (here.mpr hpresent)
  | detach name =>
    rw [perform, Roster.detach]
    by_cases hmem : name ∈ r
    · rw [decide_eq_true hmem]
      exact .detached (here.mp hmem)
    · have hnone : r.names.filter (· ≠ name) = r.names := by
        rw [List.filter_eq_self]
        rintro other hother
        rw [decide_eq_true_iff]
        rintro rfl
        exact hmem hother
      rw [decide_eq_false hmem, hnone]
      exact .missed fun hpresent => hmem (here.mpr hpresent)
  | contains name =>
    rw [perform]
    by_cases hmem : name ∈ r
    · rw [decide_eq_true hmem]
      exact .found (here.mp hmem)
    · rw [decide_eq_false hmem]
      exact .unfound fun hpresent => hmem (here.mpr hpresent)
  | clear => exact .cleared

end

/-- After any operations a roster lists whom it should, in order. -/
theorem ranks_after (operations : List Operation) : Ranks operations (after operations).names := by
  induction operations using List.reverseRecOn with
  | nil => exact ranks_nil
  | append_singleton operations operation ih =>
    rw [after, List.foldl_append]
    exact ih.concat (ih.answers operation)

/-- Whatever has been done with a roster that was empty: it lists those whose last attach or removal
was an attach, each once and in the order of the attaches that made them present, its size is their
number, and the next operation is answered by who is present and leaves the others as they stand. -/
theorem roster_by_seniority (operations : List Operation) :
    Ranks operations (after operations).names ∧
      (∀ name, Present operations name → ∃! position, JoinsAt operations name position) ∧
      (after operations).size = {name | Present operations name}.ncard ∧
      ∀ operation, Answers (Present operations) (after operations).names operation
        ((after operations).perform operation).1 ((after operations).perform operation).2.names := by
  have hranks := ranks_after operations
  refine ⟨hranks, fun _ => existsUnique_joinsAt, ?_, hranks.answers⟩
  have hset : {name | Present operations name} =
      ((after operations).names.toFinset : Set String) := by
    ext name
    simp [hranks.mem_iff]
  rw [hset, Set.ncard_coe_finset, List.toFinset_card_of_nodup hranks.nodup]
  rfl

/-- To be attached again makes no difference; to be detached and attached does. -/
example : (after [.attach "a", .attach "b", .attach "a", .attach "c", .detach "a", .attach "d",
    .attach "a"]).names = ["b", "c", "d", "a"] := by decide

end PacketBearer.Roster
