import JsonRules.Report
import Mathlib.Data.List.Forall2

namespace JsonRules.Report

def missingAfter (missing : List (List Segment)) (c : Check) (o : CheckOutcome) :
    List (List Segment) :=
  if c.test.isRequired && !o.valid then c.selector.segments :: missing else missing

theorem mem_missingAfter {missing : List (List Segment)} {c : Check} {o : CheckOutcome}
    {segments : List Segment} :
    segments ∈ missingAfter missing c o ↔ segments ∈ missing ∨
      c.test.isRequired = true ∧ o.valid = false ∧ c.selector.segments = segments := by
  unfold missingAfter
  split
  · next h =>
    rw [Bool.and_eq_true, Bool.not_eq_true'] at h
    rw [List.mem_cons, or_comm, eq_comm]
    simp [h]
  · next h =>
    rw [Bool.and_eq_true, Bool.not_eq_true'] at h
    refine ⟨.inl, fun hs => hs.elim id fun hmissed => ?_⟩
    exact absurd ⟨hmissed.1, hmissed.2.1⟩ h

theorem checksPresence_of_isRequired {t : Test} (h : t.isRequired = true) :
    t.checksPresence = true := by
  cases t with
  | required => rfl
  | _ => cases h

/-- One step of the marking: the mark depends on what is missing so far. -/
theorem suppressed_cons (missing : List (List Segment)) (c : Check) (o : CheckOutcome)
    (rest : List (Check × CheckOutcome)) :
    suppressed missing ((c, o) :: rest) =
      (!c.test.checksPresence && !o.valid && missing.contains c.selector.segments) ::
        suppressed (missingAfter missing c o) rest := by
  rw [suppressed, missingAfter]
  split
  · next h =>
    rw [checksPresence_of_isRequired h, h]
    cases o.valid <;> rfl
  · next h =>
    rw [Bool.not_eq_true] at h
    rw [h]
    rfl

/-- Two checks with outcomes that make no difference to any mark. -/
structure MarkedAlike (p q : Check × CheckOutcome) : Prop where
  test : q.1.test = p.1.test
  segments : q.1.selector.segments = p.1.selector.segments
  valid : q.2.valid = p.2.valid

theorem suppressed_congr {l m : List (Check × CheckOutcome)} (h : List.Forall₂ MarkedAlike l m)
    (missing : List (List Segment)) : suppressed missing m = suppressed missing l := by
  induction h generalizing missing with
  | nil => rfl
  | @cons p q l m hfirst _ ih =>
    obtain ⟨c, o⟩ := p
    obtain ⟨d, u⟩ := q
    obtain ⟨htest, hsegments, hvalid⟩ := hfirst
    dsimp only at htest hsegments hvalid
    rw [suppressed_cons, suppressed_cons, missingAfter, missingAfter, htest, hsegments, hvalid, ih]

theorem marks_congr (policy : PresencePolicy) {checks others : List Check}
    {outcomes results : List CheckOutcome} (hlength : results.length = outcomes.length)
    (h : List.Forall₂ MarkedAlike (checks.zip outcomes) (others.zip results)) :
    marks policy others results = marks policy checks outcomes := by
  cases policy with
  | reportAll => rw [marks, marks, List.map_const', List.map_const', hlength]
  | failFast => exact suppressed_congr h []

theorem length_suppressed (missing : List (List Segment)) (l : List (Check × CheckOutcome)) :
    (suppressed missing l).length = l.length := by
  induction l generalizing missing with
  | nil => rfl
  | cons p rest ih => rw [suppressed_cons, List.length_cons, ih, List.length_cons]

/-- At number `j` of a list a test for a required value at the end of a path failed. -/
def MissedAt (l : List (Check × CheckOutcome)) (segments : List Segment) (j : Nat) : Prop :=
  ∃ c o, l[j]? = some (c, o) ∧ c.test.isRequired = true ∧ o.valid = false ∧
    c.selector.segments = segments

theorem exists_missedAt_cons {c : Check} {o : CheckOutcome} {rest : List (Check × CheckOutcome)}
    {segments : List Segment} {i : Nat} :
    (∃ j < i + 1, MissedAt ((c, o) :: rest) segments j) ↔
      (c.test.isRequired = true ∧ o.valid = false ∧ c.selector.segments = segments) ∨
        ∃ j < i, MissedAt rest segments j := by
  rw [Nat.exists_lt_succ_left]
  refine or_congr ?_ Iff.rfl
  simp [MissedAt]

/-- A mark stands where a check failed that is not about presence, after a failed test for a
required value on its path. -/
theorem getElem?_suppressed {missing : List (List Segment)} {l : List (Check × CheckOutcome)}
    {i : Nat} :
    (suppressed missing l)[i]? = some true ↔
      ∃ c o, l[i]? = some (c, o) ∧ c.test.checksPresence = false ∧ o.valid = false ∧
        (c.selector.segments ∈ missing ∨ ∃ j < i, MissedAt l c.selector.segments j) := by
  -- the paths missing so far grow from check to check, so the induction is for all of them
  induction l generalizing missing i with
  | nil => simp [suppressed]
  | cons p rest ih =>
    obtain ⟨c, o⟩ := p
    rw [suppressed_cons]
    cases i with
    | zero => simp [and_assoc]
    | succ i =>
      rw [List.getElem?_cons_succ, List.getElem?_cons_succ, ih]
      simp only [mem_missingAfter, exists_missedAt_cons, or_assoc]

def marked (l : List (Check × CheckOutcome)) : List ((Check × CheckOutcome) × Bool) :=
  l.zip (suppressed [] l)

section Marks

variable {l : List (Check × CheckOutcome)} {c : Check} {o : CheckOutcome} {mark : Bool}

theorem map_fst_marked (l : List (Check × CheckOutcome)) : (marked l).map Prod.fst = l :=
  List.map_fst_zip (Nat.le_of_eq (length_suppressed [] l).symm)

theorem mem_marked_iff :
    ((c, o), mark) ∈ marked l ↔
      ∃ i : Nat, l[i]? = some (c, o) ∧ (suppressed [] l)[i]? = some mark := by
  simp only [marked, List.mem_iff_getElem?, List.getElem?_zip_eq_some]

theorem exists_mark {i : Nat} (h : l[i]? = some (c, o)) :
    ∃ mark, (suppressed [] l)[i]? = some mark := by
  obtain ⟨hi, -⟩ := List.getElem?_eq_some_iff.1 h
  rw [← length_suppressed [] l] at hi
  exact ⟨_, List.getElem?_eq_getElem hi⟩

/-- No check that passes and no test for presence is marked. -/
theorem not_marked (h : ((c, o), mark) ∈ marked l)
    (hkept : o.valid = true ∨ c.test.checksPresence = true) : mark = false := by
  obtain ⟨i, hl, hmark⟩ := mem_marked_iff.1 h
  by_contra hmarked
  rw [Bool.not_eq_false] at hmarked
  rw [hmarked, getElem?_suppressed] at hmark
  obtain ⟨c', o', heq, hpresence, hvalid, -⟩ := hmark
  cases hl.symm.trans heq
  rw [hpresence, hvalid] at hkept
  simp at hkept

/-- If some check failed, then one that counts did: whatever is marked follows a failed test for a
required value, and this is not marked itself. -/
theorem exists_failed_not_marked (h : ∃ p ∈ l, p.2.valid = false) :
    ∃ c o, ((c, o), false) ∈ marked l ∧ o.valid = false := by
  obtain ⟨⟨c, o⟩, hmem, hvalid⟩ := h
  obtain ⟨i, hi⟩ := List.mem_iff_getElem?.1 hmem
  obtain ⟨_ | _, hmark⟩ := exists_mark hi
  · exact ⟨c, o, mem_marked_iff.2 ⟨i, hi, hmark⟩, hvalid⟩
  · -- at the beginning no path is missing, so the mark goes back to an earlier check
    obtain ⟨_, _, _, _, _, hmissing | ⟨j, -, c', o', hj, hrequired, hfailed, -⟩⟩ :=
      getElem?_suppressed.1 hmark
    · cases hmissing
    · obtain ⟨mark, hj'⟩ := exists_mark hj
      have hmarked := mem_marked_iff.2 ⟨j, hj, hj'⟩
      rw [not_marked hmarked (.inr (checksPresence_of_isRequired hrequired))] at hmarked
      exact ⟨c', o', hmarked, hfailed⟩

/-- The failures are those that count and those that are marked. -/
theorem countP_failed (l : List (Check × CheckOutcome)) :
    l.countP (!·.2.valid) =
      (marked l).countP (fun p => !p.1.2.valid && !p.2) + (marked l).countP (·.2) := by
  have hall : l.countP (!·.2.valid) = (marked l).countP (!·.1.2.valid) := by
    conv_lhs => rw [← map_fst_marked l, List.countP_map]
    rfl
  rw [hall, List.countP_eq_countP_filter_add _ _ (!·.2), List.countP_filter, List.countP_filter]
  congr 1
  refine List.countP_congr fun p hp => ?_
  obtain ⟨⟨c, o⟩, _ | _⟩ := p
  · simp
  · have hfailed : o.valid = false := by
      by_contra hvalid
      rw [Bool.not_eq_false] at hvalid
      cases not_marked hp (.inl hvalid)
    simp [hfailed]

/-- Failures count under one policy exactly if some count under the other. -/
theorem countP_not_marked_eq_zero_iff (l : List (Check × CheckOutcome)) :
    (marked l).countP (fun p => !p.1.2.valid && !p.2) = 0 ↔ l.countP (!·.2.valid) = 0 := by
  constructor
  · intro h
    rw [List.countP_eq_zero] at h ⊢
    intro p hp hfailed
    rw [Bool.not_eq_true'] at hfailed
    obtain ⟨c, o, hmem, hvalid⟩ := exists_failed_not_marked ⟨p, hp, hfailed⟩
    exact h _ hmem (by rw [hvalid]; rfl)
  · intro h
    have := countP_failed l
    omega

end Marks

section Reports

variable {rule : Rule} {outcome : Outcome} (hlength : rule.checks.length = outcome.checks.length)
  (explain : Bool)

include hlength

theorem map_snd_checks : (rule.checks.zip outcome.checks).map Prod.snd = outcome.checks :=
  List.map_snd_zip (Nat.le_of_eq hlength.symm)

/-- Without suppression every entry is as its check ended. -/
theorem ofOutcome_reportAll :
    ofOutcome .reportAll rule outcome explain =
      { errors := (rule.checks.zip outcome.checks).countP (!·.2.valid)
        details := if explain then some (outcome.checks.map (detail · false)) else none
        verdict := outcome.valid } := by
  have herrors : (rule.checks.zip outcome.checks).countP (!·.2.valid) =
      outcome.checks.countP (!·.valid) := by
    conv_rhs => rw [← map_snd_checks hlength, List.countP_map]
    rfl
  have hmarked : outcome.checks.zip (marks .reportAll rule.checks outcome.checks) =
      outcome.checks.map fun o => (o, false) := by
    conv_lhs => rw [marks, ← List.map_id outcome.checks, List.map_map, List.zip_map']
    rfl
  rw [herrors, ofOutcome, hmarked, List.countP_map, List.map_map]
  simp only [Function.comp_def, Bool.not_false, Bool.and_true]

/-- With suppression the marks are those of the checks and their outcomes in step. -/
theorem ofOutcome_failFast :
    ofOutcome .failFast rule outcome explain =
      { errors := (marked (rule.checks.zip outcome.checks)).countP fun p => !p.1.2.valid && !p.2
        details :=
          if explain then
            some ((marked (rule.checks.zip outcome.checks)).map fun p => detail p.1.2 p.2)
          else none
        verdict := outcome.valid } := by
  have hmarked : outcome.checks.zip (marks .failFast rule.checks outcome.checks) =
      (marked (rule.checks.zip outcome.checks)).map fun p => (p.1.2, p.2) := by
    conv_lhs => rw [marks, ← map_snd_checks hlength, List.zip_map_left, map_snd_checks hlength]
    rfl
  rw [ofOutcome, hmarked, List.countP_map, List.map_map]
  rfl

end Reports

end JsonRules.Report
