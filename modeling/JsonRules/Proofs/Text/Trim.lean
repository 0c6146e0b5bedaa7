import JsonRules.Text.Blank
import Mathlib.Data.List.TakeWhile

namespace JsonRules.Text

section Runs

variable {p : Char → Bool}

/-- A run of characters that satisfy `p` does not go on into `s`. -/
def EndsRun (p : Char → Bool) (s : List Char) : Prop := ∀ c ∈ s.head?, p c = false

theorem endsRun_nil : EndsRun p [] := by
  intro c hc
  cases hc

theorem endsRun_cons {c : Char} {s : List Char} : EndsRun p (c :: s) ↔ p c = false := by
  simp [EndsRun]

theorem EndsRun.of_head? {s t : List Char} (h : EndsRun p s) (hhead : t.head? = s.head?) :
    EndsRun p t := by
  rwa [EndsRun, hhead]

theorem dropWhile_of_endsRun {s : List Char} (h : EndsRun p s) : s.dropWhile p = s := by
  cases s with
  | nil => rfl
  | cons c s => rw [List.dropWhile_cons, endsRun_cons.1 h, if_neg Bool.false_ne_true]

theorem endsRun_dropWhile (p : Char → Bool) (s : List Char) : EndsRun p (s.dropWhile p) := by
  intro c hc
  have hnot := List.head?_dropWhile_not p s
  rw [Option.mem_def.1 hc] at hnot
  exact hnot

/-- A text splits in only one way into a run and what is after the run. -/
theorem takeWhile_dropWhile_iff {s run rest : List Char} :
    s.takeWhile p = run ∧ s.dropWhile p = rest ↔
      s = run ++ rest ∧ (∀ c ∈ run, p c = true) ∧ EndsRun p rest := by
  constructor
  · rintro ⟨rfl, rfl⟩
    exact ⟨List.takeWhile_append_dropWhile.symm, fun c hc => List.mem_takeWhile_imp hc,
      endsRun_dropWhile p s⟩
  · rintro ⟨rfl, hrun, hends⟩
    have hdrop : (run ++ rest).dropWhile p = rest := by
      rw [List.dropWhile_append_of_pos hrun, dropWhile_of_endsRun hends]
    have hsplit := List.takeWhile_append_dropWhile (p := p) (l := run ++ rest)
    rw [hdrop] at hsplit
    exact ⟨List.append_cancel_right hsplit, hdrop⟩

theorem dropWhile_eq_iff {s rest : List Char} :
    s.dropWhile p = rest ↔
      ∃ run, s = run ++ rest ∧ (∀ c ∈ run, p c = true) ∧ EndsRun p rest := by
  constructor
  · intro h
    exact ⟨_, takeWhile_dropWhile_iff.1 ⟨rfl, h⟩⟩
  · rintro ⟨run, h⟩
    exact (takeWhile_dropWhile_iff.2 h).2

end Runs

def Trimmed (s t : List Char) : Prop :=
  ∃ front back, s = front ++ t ++ back ∧ (∀ c ∈ front, isBlank c = true) ∧
    (∀ c ∈ back, isBlank c = true) ∧ (∀ c ∈ t.head?, isBlank c = false) ∧
    ∀ c ∈ t.getLast?, isBlank c = false

def EndsVisibly (s : List Char) : Prop := ∀ c ∈ s.getLast?, isBlank c = false

theorem endsVisibly_concat {s : List Char} {c : Char} :
    EndsVisibly (s ++ [c]) ↔ isBlank c = false := by
  simp [EndsVisibly]

theorem endsVisibly_append {s t : List Char} (hs : EndsVisibly s) (ht : EndsVisibly t) :
    EndsVisibly (s ++ t) := by
  obtain rfl | ⟨front, c, rfl⟩ := List.eq_nil_or_concat t
  · rwa [List.append_nil]
  · rw [List.concat_eq_append, endsVisibly_concat] at ht
    rwa [List.concat_eq_append, ← List.append_assoc, endsVisibly_concat]

theorem endsVisibly_of_forall {s : List Char} (h : ∀ c ∈ s, isBlank c = false) : EndsVisibly s :=
  fun c hc => h c (List.mem_of_getLast? hc)

/-- A text without a blank at either end has nothing to be trimmed. -/
theorem trimmed_self {s : List Char} (hfirst : EndsRun isBlank s) (hlast : EndsVisibly s) :
    Trimmed s s :=
  ⟨[], [], by simp, by simp, by simp, hfirst, hlast⟩

theorem trim_eq_iff {s t : List Char} : trim s = t ↔ Trimmed s t := by
  rw [trim, List.reverse_eq_iff, dropWhile_eq_iff]
  constructor
  · rintro ⟨back, hback, hblank, hlast⟩
    rw [List.reverse_eq_iff, List.reverse_append, List.reverse_reverse, dropWhile_eq_iff] at hback
    obtain ⟨front, rfl, hfront, hends⟩ := hback
    refine ⟨front, back.reverse, (List.append_assoc ..).symm, hfront, ?_, ?_, ?_⟩
    · simpa using hblank
    · intro c hc
      apply hends c
      rw [List.head?_append, Option.mem_def.1 hc]
      rfl
    · intro c hc
      apply hlast c
      rwa [List.head?_reverse]
  · rintro ⟨front, back, rfl, hfront, hback, hfirst, hlast⟩
    have hdrop : ((front ++ t ++ back).dropWhile isBlank).reverse =
        if t = [] then [] else back.reverse ++ t.reverse := by
      rw [List.append_assoc, List.dropWhile_append_of_pos hfront]
      cases t with
      | nil => rw [List.nil_append, List.dropWhile_eq_nil_iff.2 hback]; rfl
      | cons c t =>
        rw [List.cons_append, dropWhile_of_endsRun (endsRun_cons.2 (hfirst c rfl))]
        simp
    -- a text of blanks only is dropped from the front as a whole
    by_cases hnil : t = []
    · rw [hdrop, if_pos hnil, hnil]
      exact ⟨[], rfl, by simp, endsRun_nil⟩
    · rw [hdrop, if_neg hnil]
      refine ⟨back.reverse, rfl, by simpa using hback, fun c hc => hlast c ?_⟩
      rwa [List.head?_reverse] at hc

end JsonRules.Text
