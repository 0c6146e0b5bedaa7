import JsonRules.Outcome.Run
import JsonRules.Proofs.Rule.Reading
import JsonRules.Proofs.Selector.Expansion

namespace JsonRules

namespace Test

section Passing

variable {t : Test} {s : Selector} {document : Json}

/-- Whether every place was found makes no difference to absence: what counts is that nothing was.
-/
theorem passes_absent_iff :
    absent.passes (s.locate document) = true ↔ ∀ v, ¬Reaches s.segments document v := by
  have hpasses : absent.passes (s.locate document) = (s.locate document).values.isEmpty := by
    rw [passes]
    split <;> rfl
  rw [hpasses, List.isEmpty_iff, List.eq_nil_iff_forall_not_mem]
  simp only [Selector.mem_values_locate_iff]

theorem passes_of_complete {found : Resolution} (h : found.complete = true) :
    t.passes found = t.passesAll found.values := by
  unfold passes
  exact if_pos h

theorem passes_of_incomplete (ht : t ≠ absent) {found : Resolution}
    (h : found.complete = false) : t.passes found = false := by
  cases t with
  | absent => exact absurd rfl ht
  | _ => simp [passes, h]

/-- A test of each value passes on what is complete. That it finds something to test there need not
be asked for, since no resolution is complete without a value. -/
theorem passes_iff_of_passesAll (ht : t ≠ absent) {accepts : Json → Bool}
    (h : ∀ values, t.passesAll values = (!values.isEmpty && values.all accepts)) :
    t.passes (s.locate document) = true ↔ (s.locate document).complete = true ∧
      ∀ v, Reaches s.segments document v → accepts v = true := by
  cases hcomplete : (s.locate document).complete with
  | false => simp [passes_of_incomplete ht hcomplete]
  | true =>
    have hfound : (s.locate document).values.isEmpty = false :=
      List.isEmpty_eq_false_iff.2 (Selector.values_locate_ne_nil hcomplete)
    rw [passes_of_complete hcomplete, h, hfound, Bool.not_false, Bool.true_and, List.all_eq_true]
    simp only [Selector.mem_values_locate_iff, true_and]

theorem passes_required_iff : required.passes (s.locate document) = true ↔
    (s.locate document).complete = true ∧
      ∀ v, Reaches s.segments document v → v ≠ .null := by
  have hnull (v : Json) : (!v.isNull) = true ↔ v ≠ .null := by
    cases v <;> simp [Json.isNull]
  rw [passes_iff_of_passesAll (by simp) fun values => rfl]
  simp only [hnull]

theorem passes_iff (habsent : t ≠ absent) (hrequired : t ≠ required) :
    t.passes (s.locate document) = true ↔ (s.locate document).complete = true ∧
      ∀ v, Reaches s.segments document v → t.passesValue v = true := by
  apply passes_iff_of_passesAll habsent
  intro values
  cases t with
  | absent => exact absurd rfl habsent
  | required => exact absurd rfl hrequired
  | _ => rfl

/-- All tests but that for absence need a complete resolution. -/
theorem complete_of_passes (ht : t ≠ absent) (h : t.passes (s.locate document) = true) :
    (s.locate document).complete = true := by
  cases hcomplete : (s.locate document).complete with
  | true => rfl
  | false => rw [passes_of_incomplete ht hcomplete] at h; cases h

end Passing

end Test

namespace Check

/-- What a check demands of a document. Absence is demanded of all places that the path leads to,
presence and all else of a resolution that is complete. -/
def Demands (c : Check) (document : Json) : Prop :=
  match c.test with
  | .absent => ∀ v, ¬Reaches c.selector.segments document v
  | .required => (c.selector.locate document).complete = true ∧
      ∀ v, Reaches c.selector.segments document v → v ≠ .null
  | test => (c.selector.locate document).complete = true ∧
      ∀ v, Reaches c.selector.segments document v → test.passesValue v = true

theorem passes_iff_demands (c : Check) (document : Json) :
    c.passes document = true ↔ c.Demands document := by
  rw [passes, Demands]
  cases c.test with
  | absent => exact Test.passes_absent_iff
  | required => exact Test.passes_required_iff
  | _ => exact Test.passes_iff (by simp) (by simp)

theorem not_passes_with_absent {c d : Check} {document : Json}
    (h : d.selector.segments = c.selector.segments) (hc : c.test = .absent)
    (hd : d.test ≠ .absent) (hpasses : c.passes document = true) : d.passes document = false := by
  rw [← Bool.not_eq_true]
  intro hother
  have hcomplete := Test.complete_of_passes hd hother
  obtain ⟨⟨v, hv⟩, -⟩ := Selector.complete_locate_iff.1 hcomplete
  rw [passes, hc, Test.passes_absent_iff, ← h] at hpasses
  exact hpasses v hv

theorem not_passes_both {c d : Check} {document v : Json}
    (h : d.selector.segments = c.selector.segments) (hc : c.test = .equals v)
    (hd : d.test = .notEquals v) : ¬(c.passes document = true ∧ d.passes document = true) := by
  intro ⟨hequal, hunequal⟩
  rw [passes, hc, Test.passes_iff (by simp) (by simp)] at hequal
  rw [passes, hd, Test.passes_iff (by simp) (by simp), h] at hunequal
  obtain ⟨⟨w, hw⟩, -⟩ := Selector.complete_locate_iff.1 hequal.1
  have hsame : w.same v = true := hequal.2 w hw
  have hdiffers : (!w.same v) = true := hunequal.2 w hw
  rw [hsame] at hdiffers
  cases hdiffers

/-- A check is valid if the document meets its demand. So on one path nothing is valid together with
absence, and no value both equals another and does not. -/
theorem valid_iff_demands (c : Check) (document : Json) (explain : Bool) :
    (((Rule.check c).evaluate document explain).valid = true ↔ c.Demands document) ∧
      ∀ d : Check, d.selector.segments = c.selector.segments →
        (c.test = .absent → d.test ≠ .absent →
          ((Rule.check c).evaluate document explain).valid = true →
            ((Rule.check d).evaluate document explain).valid = false) ∧
        ∀ v, c.test = .equals v → d.test = .notEquals v →
          ¬(((Rule.check c).evaluate document explain).valid = true ∧
            ((Rule.check d).evaluate document explain).valid = true) := by
  have hvalid (c : Check) : ((Rule.check c).evaluate document explain).valid =
      c.passes document := rfl
  simp only [hvalid]
  refine ⟨c.passes_iff_demands document, ?_⟩
  intro d hsegments
  exact ⟨not_passes_with_absent hsegments, fun v => not_passes_both hsegments⟩

section HalfFilled

def halfFilled : Json :=
  .object [("items", .array [.object [("qty", .ofInt 1)], .object []])]

def anything (path : String) (segments : List Segment) : Check :=
  RuleHead.plainCheck "anything" path segments (.custom (fun _ _ => ⟨true, []⟩) .null)

/-- One item has no quantity, so that a check of the quantities fails which no value fails, and yet
they are not absent. Of what is absent nothing else is valid. -/
theorem valid_halfFilled :
    ((Rule.check (anything "$.items[*].qty" [.key "items", .wildcard, .key "qty"])).evaluate
        halfFilled false).valid = false ∧
      ((Rule.check (RuleHead.plainCheck "absent" "$.items[*].qty"
        [.key "items", .wildcard, .key "qty"] .absent)).evaluate halfFilled false).valid = false ∧
      ((Rule.check (RuleHead.plainCheck "absent" "$.gone" [.key "gone"] .absent)).evaluate
        halfFilled false).valid = true ∧
      ((Rule.check (anything "$.gone" [.key "gone"])).evaluate halfFilled false).valid = false := by
  obtain ⟨hpartial, -⟩ := valid_iff_demands
    (anything "$.items[*].qty" [.key "items", .wildcard, .key "qty"]) halfFilled false
  obtain ⟨hpresent, -⟩ := valid_iff_demands (RuleHead.plainCheck "absent" "$.items[*].qty"
    [.key "items", .wildcard, .key "qty"] .absent) halfFilled false
  obtain ⟨-, hothers⟩ := valid_iff_demands
    (RuleHead.plainCheck "absent" "$.gone" [.key "gone"] .absent) halfFilled false
  have hgone : ((Rule.check (RuleHead.plainCheck "absent" "$.gone" [.key "gone"] .absent)).evaluate
      halfFilled false).valid = true := rfl
  refine ⟨?_, ?_, hgone, ?_⟩
  · rw [← Bool.not_eq_true, hpartial]
    intro hdemands
    exact Bool.false_ne_true hdemands.1
  · rw [← Bool.not_eq_true, hpresent]
    intro hdemands
    apply hdemands (.ofInt 1)
    exact .step (.key rfl) (.step (.item List.mem_cons_self) (.step (.key rfl) .here))
  · have hother : (anything "$.gone" [.key "gone"]).test ≠ .absent := by
      simp [anything, RuleHead.plainCheck]
    exact (hothers (anything "$.gone" [.key "gone"]) rfl).1 rfl hother hgone

end HalfFilled

end Check

end JsonRules
