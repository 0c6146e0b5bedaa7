import JsonRules.Proofs.Engine.Cancellation
import JsonRules.Proofs.Outcome.Asking

namespace JsonRules.Rule

namespace Traces

variable {document : Json} {explain : Bool} {r : Rule} {o : Outcome} {happens : Event → Prop}

/-- A group asks if every group on the way to it was told to go on. -/
theorem asked_iff (h : Traces document explain r o happens) (place : List Nat) :
    (∃ stop, happens (.asked place stop)) ↔
      (∃ connective children, r.at? place = some (.group connective children)) ∧
        ∀ way i rest, place = way ++ i :: rest → happens (.asked way false) := by
  induction h generalizing place with
  | check c hall =>
    cases place with
    | nil => simp [hall, at?]
    | cons i place => simp [hall, at?]
  | stopped connective children hall =>
    cases place with
    | nil => simp [hall, at?]
    | cons i place =>
      constructor
      · rintro ⟨stop, hasked⟩
        cases (hall _).1 hasked
      · rintro ⟨-, hway⟩
        cases (hall _).1 (hway [] i place rfl)
  | @entered connective children outcomes happens hgo hinside hlength _ ih =>
    cases place with
    | nil => exact iff_of_true ⟨false, hgo⟩ ⟨⟨connective, children, rfl⟩, by simp⟩
    | cons i place =>
      rcases hr : children[i]? with _ | r
      · -- there is no such child, so nothing is there to ask
        rw [at?, hr]
        refine iff_of_false ?_ (by simp)
        rintro ⟨stop, hasked⟩
        obtain heq | ⟨j, e, hj, heq⟩ := hinside _ hasked
        · cases heq
        · obtain ⟨below, hplace, -⟩ := Event.asked_eq_under_iff.1 heq
          cases hplace
          exact absurd hj (Nat.not_lt.2 (List.getElem?_eq_none_iff.1 hr))
      · have hi : i < outcomes.length := hlength ▸ (List.getElem?_eq_some_iff.1 hr).1
        have hchild := ih i r outcomes[i] hr (List.getElem?_eq_getElem hi) place
        rw [at?_cons hr]
        refine hchild.trans (and_congr_right fun _ => ⟨?_, ?_⟩)
        · intro hway way j rest hplace
          cases way with
          | nil => exact hgo
          | cons k way =>
            cases hplace
            exact hway way j rest rfl
        · rintro hway way j rest rfl
          exact hway (i :: way) j rest rfl

/-- In a group that was told to stop there is nothing else that happens. -/
theorem eq_asked_of_stopped (h : Traces document explain r o happens) {place : List Nat}
    (hstop : happens (.asked place true)) {e : Event} (he : happens (e.under place)) :
    e = .asked [] true := by
  induction h generalizing place with
  | check c hall => cases (hall _).1 hstop
  | stopped connective children hall =>
    cases (hall _).1 hstop
    cases e <;> exact (hall _).1 he
  | @entered connective children outcomes happens hgo hinside hlength _ ih =>
    obtain heq | ⟨i, e', hi, heq⟩ := hinside _ hstop
    · cases heq
    · obtain ⟨below, rfl, rfl⟩ := Event.asked_eq_under_iff.1 heq
      have hi' : i < outcomes.length := hlength ▸ hi
      rw [Event.under_append] at he
      exact ih i _ _ (List.getElem?_eq_getElem hi) (List.getElem?_eq_getElem hi') hstop he

/-- The part of an outcome that belongs to a check: the check was tested if it stands by itself or
the group right above it was told to go on. -/
theorem exists_check (h : Traces document explain r o happens) {place : List Nat} {c : Check}
    (hc : r.at? place = some (.check c)) :
    ∃ evaluated, o.at? place =
        some (.check (c.outcome explain (evaluated && c.passes document) evaluated)) ∧
      (evaluated = true ↔ happens (.tested place)) ∧
      (evaluated = true ↔
        place = [] ∨ ∃ way i, place = way ++ [i] ∧ happens (.asked way false)) := by
  induction h generalizing place with
  | check c' hall =>
    cases place with
    | nil =>
      cases hc
      exact ⟨true, rfl, by simp [hall], by simp⟩
    | cons i place => cases hc
  | stopped connective children hall =>
    refine ⟨false, ?_, by simp [hall], ?_⟩
    · rw [at?_skip, hc]
      rfl
    · cases place with
      | nil => cases hc
      | cons i place => simp [hall]
  | @entered connective children outcomes happens hgo hinside hlength _ ih =>
    cases place with
    | nil => cases hc
    | cons i place =>
      obtain ⟨r, hr, hplace⟩ := exists_child_of_at? hc
      have hi : i < outcomes.length := hlength ▸ (List.getElem?_eq_some_iff.1 hr).1
      have ho : outcomes[i]? = some outcomes[i] := List.getElem?_eq_getElem hi
      obtain ⟨evaluated, hcheck, htested, habove⟩ := ih i r outcomes[i] hr ho hplace
      refine ⟨evaluated, by rw [outcome_at?_cons ho, hcheck], htested, habove.trans ?_⟩
      constructor
      · rintro (rfl | ⟨way, j, rfl, hasked⟩)
        · exact .inr ⟨[], i, rfl, hgo⟩
        · exact .inr ⟨i :: way, j, rfl, hasked⟩
      · rintro (hnil | ⟨way, j, hsplit, hasked⟩)
        · cases hnil
        · cases way with
          | nil =>
            cases hsplit
            exact .inl rfl
          | cons k way =>
            cases hsplit
            exact .inr ⟨way, j, rfl, hasked⟩

/-- What lies at or below a group that was told to stop is left out. -/
theorem at?_of_stopped (h : Traces document explain r o happens) {place below : List Nat}
    {part : Rule} (hstop : happens (.asked place true))
    (hpart : r.at? (place ++ below) = some part) :
    o.at? (place ++ below) = some (part.skip explain) := by
  induction h generalizing place with
  | check c hall => cases (hall _).1 hstop
  | stopped connective children hall => rw [at?_skip, hpart, Option.map_some]
  | @entered connective children outcomes happens hgo hinside hlength _ ih =>
    obtain heq | ⟨i, e, hi, heq⟩ := hinside _ hstop
    · cases heq
    · obtain ⟨place, rfl, rfl⟩ := Event.asked_eq_under_iff.1 heq
      have hr : children[i]? = some children[i] := List.getElem?_eq_getElem hi
      have ho : outcomes[i]? = some _ := List.getElem?_eq_getElem (hlength ▸ hi)
      have hbelow : children[i].at? (place ++ below) = some part := by
        rw [← hpart]
        exact (at?_cons hr (place ++ below)).symm
      exact (outcome_at?_cons ho (place ++ below)).trans (ih i _ _ hr ho hstop hbelow)

end Traces

/-- The events of an evaluation, and an outcome that goes by what the groups were told. -/
structure Heeds (document : Json) (explain : Bool) (r : Rule) (o : Outcome)
    (events : List Event) : Prop where
  /-- The groups ask in the order of the document, and none asks twice. -/
  in_order : (events.filterMap Event.group?).Pairwise (· < ·)
  /-- A group asks if all groups on the way to it were told to go on. -/
  asked_iff : ∀ place, (∃ stop, .asked place stop ∈ events) ↔
    (∃ connective children, r.at? place = some (.group connective children)) ∧
      ∀ way i rest, place = way ++ i :: rest → .asked way false ∈ events
  /-- Nothing happens in a group that was told to stop. -/
  nothing_below : ∀ place, .asked place true ∈ events →
    ∀ e : Event, e.under place ∈ events → e = .asked [] true
  /-- A check is tested if it stands by itself or the group right above it was told to go on, and
  then its outcome is the one that it has when nothing stops the evaluation. -/
  evaluated_iff : ∀ place c, r.at? place = some (.check c) →
    ∃ checked, o.at? place = some (.check checked) ∧
      (checked.evaluated = true ↔ .tested place ∈ events) ∧
      (checked.evaluated = true ↔
        place = [] ∨ ∃ way i, place = way ++ [i] ∧ .asked way false ∈ events) ∧
      (checked.evaluated = true →
        (r.evaluate document explain).at? place = some (.check checked))
  /-- A group that was told to stop is not valid, and nor is what lies in it. -/
  invalid_below : ∀ place, .asked place true ∈ events →
    ∀ below part, r.at? (place ++ below) = some part →
      ∃ left, o.at? (place ++ below) = some left ∧ left.valid = false

section Heeds

variable {σ : Type} (watch : Watch σ) (r : Rule) (document : Json) (explain : Bool) (s : σ)

theorem heeds_run : Heeds document explain r (r.run watch document explain s).1
    (r.events watch document [] s).1 := by
  have htraces := traces_run watch document explain r s
  refine ⟨pairwise_group?_events watch document r s, htraces.asked_iff, ?_, ?_, ?_⟩
  · intro place hstop e he
    exact htraces.eq_asked_of_stopped hstop he
  · intro place c hc
    obtain ⟨evaluated, hcheck, htested, habove⟩ := htraces.exists_check hc
    refine ⟨_, hcheck, htested, habove, fun hevaluated => ?_⟩
    have htrue : evaluated = true := hevaluated
    rw [at?_evaluate, hc, htrue]
    rfl
  · intro place hstop below part hpart
    exact ⟨_, htraces.at?_of_stopped hstop hpart, valid_skip explain part⟩

/-- A run heeds what its watch answers: it asks for each group that it gets to, once and in order,
it tests what lies right in a group that may go on, and leaves out all that lies in one that may
not. The questions are those that a log of the watch shows, and if the watch never takes back an
answer to stop, then no group that asks later is told to go on. -/
theorem run_heeds_answers :
    Heeds document explain r (r.run watch document explain s).1
      (r.events watch document [] s).1 ∧
    r.run watch.logged document explain (s, []) =
      ((r.run watch document explain s).1, (r.run watch document explain s).2,
        (r.events watch document [] s).1.filterMap Event.answer?) ∧
    (watch.Latches →
      ((r.events watch document [] s).1.filterMap Event.answer?).Pairwise (· ≤ ·)) :=
  ⟨heeds_run watch r document explain s, run_logged watch document explain [] r s [],
    fun hlatches => (latched_run document explain hlatches [] r s).sorted⟩

end Heeds

section Break

/-- A command cancels the token in a group; a group after it is left out, the checks after that are
tested. -/
def brokenRule : Rule :=
  .group .any
    [.group .all
      [.check (RuleHead.plainCheck "trip" "$" [] (.custom Engine.trip .null)),
        .group .not [.check (RuleHead.plainCheck "absent" "$" [] .absent)],
        .check (RuleHead.plainCheck "absent" "$" [] .absent)],
      .check (RuleHead.plainCheck "required" "$" [] .required)]

/-- The checks that were tested are not the first ones. -/
theorem run_brokenRule :
    (Tokens.watch (some ⟨0, false⟩)).Latches ∧
      (brokenRule.events (Tokens.watch (some ⟨0, false⟩)) (.object []) []
        (Tokens.empty.create "t" false)).1 =
        [.asked [] false, .asked [0] false, .tested [0, 0], .asked [0, 1] true, .tested [0, 2],
          .tested [1]] ∧
      [false, false, true].Pairwise (· ≤ ·) ∧
      ∃ left tested, (brokenRule.run (Tokens.watch (some ⟨0, false⟩)) (.object []) false
          (Tokens.empty.create "t" false)).1.at? [0, 1, 0] = some left ∧ left.valid = false ∧
        (brokenRule.run (Tokens.watch (some ⟨0, false⟩)) (.object []) false
          (Tokens.empty.create "t" false)).1.at? [0, 2] = some (.check tested) ∧
        tested.evaluated = true := by
  have hlatches := Tokens.latches_watch (some ⟨0, false⟩)
  have hevents : (brokenRule.events (Tokens.watch (some ⟨0, false⟩)) (.object []) []
      (Tokens.empty.create "t" false)).1 =
        [.asked [] false, .asked [0] false, .tested [0, 0], .asked [0, 1] true, .tested [0, 2],
          .tested [1]] := by decide
  obtain ⟨hheeds, -, hsorted⟩ := run_heeds_answers (Tokens.watch (some ⟨0, false⟩)) brokenRule
    (.object []) false (Tokens.empty.create "t" false)
  have hanswers := hsorted hlatches
  rw [hevents] at hheeds hanswers
  obtain ⟨left, hleft, hinvalid⟩ := hheeds.invalid_below [0, 1] (by decide) [0] _ rfl
  obtain ⟨tested, htested, heval, -⟩ := hheeds.evaluated_iff [0, 2] _ rfl
  exact ⟨hlatches, hevents, hanswers, left, tested, hleft, hinvalid, htested,
    heval.2 (by decide)⟩

end Break

end JsonRules.Rule
