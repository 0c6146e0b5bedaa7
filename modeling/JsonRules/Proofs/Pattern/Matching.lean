import Mathlib.Logic.Relation
import JsonRules.Pattern.Basic

namespace JsonRules.Pattern

open Relation (ReflTransGen)

/-- A point in a text: the character in front of it, and the text from there on. -/
structure Point where
  before : Option Char
  rest : List Char

namespace Point

def boundary (p : Point) : Boundary := ⟨p.before, p.rest.head?⟩

def allFrom (before : Option Char) : List Char → List Point
  | [] => [⟨before, []⟩]
  | c :: s => ⟨before, c :: s⟩ :: allFrom (some c) s

theorem eq_of_mem_allFrom_of_before_none {before : Option Char} {s : List Char} {p : Point}
    (h : p ∈ allFrom before s) (hp : p.before = none) : p = ⟨before, s⟩ := by
  induction s generalizing before with
  | nil => simpa [allFrom] using h
  | cons c s ih =>
    rcases List.mem_cons.1 h with rfl | h
    · rfl
    · have : p = ⟨some c, s⟩ := ih h
      simp [this] at hp

theorem start_mem_allFrom (before : Option Char) (s : List Char) :
    ⟨before, s⟩ ∈ allFrom before s := by
  cases s <;> simp [allFrom]

def Reads (test : Char → Bool) (p q : Point) : Prop :=
  ∃ c, p.rest = c :: q.rest ∧ q.before = some c ∧ test c = true

/-- The second point is the first one or lies behind it. -/
def Reaches (p q : Point) : Prop := p = q ∨ q.rest.length < p.rest.length

theorem Reaches.refl (p : Point) : p.Reaches p := .inl rfl

theorem Reaches.trans {p m q : Point} (h : p.Reaches m) (h' : m.Reaches q) : p.Reaches q := by
  rcases h with rfl | h
  · exact h'
  · rcases h' with rfl | h'
    · exact .inr h
    · exact .inr (Nat.lt_trans h' h)

/-- What has been left behind is not reached again. -/
theorem Reaches.ne {p m q : Point} (h : p.Reaches m) (hm : m ≠ p) (h' : m.Reaches q) : q ≠ p := by
  have hlt : m.rest.length < p.rest.length := h.resolve_left (Ne.symm hm)
  rintro rfl
  rcases h' with rfl | h'
  · exact hm rfl
  · omega

theorem Reaches.antisymm {p q : Point} (h : p.Reaches q) (h' : q.Reaches p) : p = q := by
  rcases h with rfl | h
  · rfl
  · rcases h' with rfl | h'
    · rfl
    · omega

theorem Reads.reaches {test : Char → Bool} {p q : Point} (h : Reads test p q) : p.Reaches q := by
  obtain ⟨c, hrest, -, -⟩ := h
  exact .inr (by simp [hrest])

theorem reaches_of_reflTransGen {R : Point → Point → Prop} (hR : ∀ p q, R p q → p.Reaches q)
    {p q : Point} (h : ReflTransGen R p q) : p.Reaches q := by
  induction h with
  | refl => exact .refl p
  | tail _ hlast ih => exact ih.trans (hR _ _ hlast)

/-- Steps that stay where they are can be left out in front. -/
theorem exists_step_of_reflTransGen {R : Point → Point → Prop} {p q : Point}
    (h : ReflTransGen R p q) (hne : q ≠ p) : ∃ m, R p m ∧ m ≠ p ∧ ReflTransGen R m q := by
  induction h using ReflTransGen.head_induction_on with
  | refl => exact absurd rfl hne
  | @head p m hstep hrest ih =>
    by_cases hm : m = p
    · subst hm
      exact ih hne
    · exact ⟨m, hstep, hm, hrest⟩

end Point

def Copies {α : Type} (R : α → α → Prop) : Nat → α → α → Prop
  | 0, p, q => p = q
  | n + 1, p, q => ∃ m, R p m ∧ Copies R n m q

section Copies

variable {α : Type} {R : α → α → Prop} {p q : α}

theorem copies_one : Copies R 1 p q ↔ R p q := by simp [Copies]

theorem copies_add {m n : Nat} : Copies R (m + n) p q ↔ ∃ k, Copies R m p k ∧ Copies R n k q := by
  induction m generalizing p with
  | zero => simp [Copies]
  | succ m ih =>
    rw [Nat.add_right_comm]
    constructor
    · rintro ⟨j, hj, h⟩
      obtain ⟨k, hk, hkq⟩ := ih.1 h
      exact ⟨k, ⟨j, hj, hk⟩, hkq⟩
    · rintro ⟨k, ⟨j, hj, hk⟩, hkq⟩
      exact ⟨j, hj, ih.2 ⟨k, hk, hkq⟩⟩

/-- Some copies and then as many as are allowed are as many altogether. -/
theorem exists_copies_add_iff {least : Nat} {allowed : Nat → Prop} :
    (∃ m, Copies R least p m ∧ ∃ k, allowed k ∧ Copies R k m q) ↔
      ∃ n, least ≤ n ∧ allowed (n - least) ∧ Copies R n p q := by
  constructor
  · rintro ⟨m, hfirst, k, hk, hrest⟩
    exact ⟨least + k, by omega, by rwa [Nat.add_sub_cancel_left], copies_add.2 ⟨m, hfirst, hrest⟩⟩
  · rintro ⟨n, hn, hk, h⟩
    rw [show n = least + (n - least) by omega, copies_add] at h
    obtain ⟨m, hfirst, hrest⟩ := h
    exact ⟨m, hfirst, n - least, hk, hrest⟩

theorem exists_copies_iff : (∃ n, Copies R n p q) ↔ ReflTransGen R p q := by
  constructor
  · rintro ⟨n, h⟩
    induction n generalizing p with
    | zero => cases h; exact .refl
    | succ n ih =>
      obtain ⟨m, hm, h⟩ := h
      exact .head hm (ih h)
  · intro h
    induction h using ReflTransGen.head_induction_on with
    | refl => exact ⟨0, rfl⟩
    | head hstep _ ih =>
      obtain ⟨n, hn⟩ := ih
      exact ⟨n + 1, _, hstep, hn⟩

/-- Of steps that may also be left out, some number is taken. -/
theorem copies_or_eq_iff {n : Nat} :
    Copies (fun p q => p = q ∨ R p q) n p q ↔ ∃ k ≤ n, Copies R k p q := by
  induction n generalizing p with
  | zero => simp [Copies]
  | succ n ih =>
    constructor
    · rintro ⟨m, rfl | hm, h⟩
      · obtain ⟨k, hk, h⟩ := ih.1 h
        exact ⟨k, by omega, h⟩
      · obtain ⟨k, hk, h⟩ := ih.1 h
        exact ⟨k + 1, by omega, m, hm, h⟩
    · rintro ⟨k, hk, h⟩
      cases k with
      | zero => exact ⟨p, .inl rfl, ih.2 ⟨0, by omega, h⟩⟩
      | succ k =>
        obtain ⟨m, hm, h⟩ := h
        exact ⟨m, .inr hm, ih.2 ⟨k, by omega, h⟩⟩

/-- Of steps that stay where they are, one does the work of many. -/
theorem copies_iff_of_stays (hR : ∀ p q, R p q → p = q) {n : Nat} :
    Copies R n p q ↔ p = q ∧ (n = 0 ∨ R p p) := by
  induction n generalizing p with
  | zero => simp [Copies]
  | succ n ih =>
    constructor
    · rintro ⟨m, hm, h⟩
      cases hR _ _ hm
      exact ⟨(ih.1 h).1, .inr hm⟩
    · rintro ⟨rfl, h⟩
      have hp : R p p := h.resolve_left (by omega)
      exact ⟨p, hp, ih.2 ⟨rfl, .inr hp⟩⟩

end Copies

namespace Regex

/-- The expression matches the text between two points; marks play no part. -/
def Matches : Regex → Point → Point → Prop
  | empty => fun p q => p = q
  | condition c => fun p q => p = q ∧ p.boundary.satisfies c = true
  | char _ cls => Point.Reads cls.contains
  | either a b => fun p q => a.Matches p q ∨ b.Matches p q
  | seq a b => fun p q => ∃ m, a.Matches p m ∧ b.Matches m q
  | many a => ReflTransGen a.Matches

/-- A match that has just read a marked character can go on to the second point. -/
def Continues : Regex → Point → Point → Prop
  | empty => fun _ _ => False
  | condition _ => fun _ _ => False
  | char marked _ => fun p q => marked = true ∧ p = q
  | either a b => fun p q => a.Continues p q ∨ b.Continues p q
  | seq a b => fun p q => (∃ m, a.Continues p m ∧ b.Matches m q) ∨ b.Continues p q
  | many a => fun p q => ∃ m, a.Continues p m ∧ ReflTransGen a.Matches m q

theorem Matches.reaches {r : Regex} {p q : Point} (h : r.Matches p q) : p.Reaches q := by
  induction r generalizing p q with
  | empty => exact .inl h
  | condition c => exact .inl h.1
  | char marked cls => exact Point.Reads.reaches h
  | either a b iha ihb => exact h.elim iha ihb
  | seq a b iha ihb =>
    obtain ⟨m, ha, hb⟩ := h
    exact (iha ha).trans (ihb hb)
  | many a ih => exact Point.reaches_of_reflTransGen (fun _ _ => ih) h

theorem Continues.reaches {r : Regex} {p q : Point} (h : r.Continues p q) : p.Reaches q := by
  induction r generalizing p q with
  | empty => exact h.elim
  | condition c => exact h.elim
  | char marked cls => exact .inl h.2
  | either a b iha ihb => exact h.elim iha ihb
  | seq a b iha ihb =>
    rcases h with ⟨m, ha, hb⟩ | hb
    · exact (iha ha).trans hb.reaches
    · exact ihb hb
  | many a ih =>
    obtain ⟨m, ha, hrest⟩ := h
    exact (ih ha).trans (Matches.reaches (r := many a) hrest)

theorem nullable_iff (r : Regex) (p : Point) :
    r.nullable p.boundary = true ↔ r.Matches p p := by
  induction r with
  | empty => simp [nullable, Matches]
  | condition c => simp [nullable, Matches]
  | char marked cls => simp [nullable, Matches, Point.Reads]
  | either a b iha ihb => simp [nullable, Matches, iha, ihb]
  | seq a b iha ihb =>
    simp only [nullable, Matches, Bool.and_eq_true, iha, ihb]
    constructor
    · rintro ⟨ha, hb⟩
      exact ⟨p, ha, hb⟩
    · rintro ⟨m, ha, hb⟩
      cases ha.reaches.antisymm hb.reaches
      exact ⟨ha, hb⟩
  | many a => simp [nullable, Matches, ReflTransGen.refl]

theorem ended_iff (r : Regex) (p : Point) : r.ended p.boundary = true ↔ r.Continues p p := by
  induction r with
  | empty => simp [ended, Continues]
  | condition c => simp [ended, Continues]
  | char marked cls => simp [ended, Continues]
  | either a b iha ihb => simp [ended, Continues, iha, ihb]
  | seq a b iha ihb =>
    simp only [ended, Continues, Bool.or_eq_true, Bool.and_eq_true, iha, ihb, nullable_iff]
    refine or_congr ⟨fun ⟨ha, hb⟩ => ⟨p, ha, hb⟩, ?_⟩ Iff.rfl
    rintro ⟨m, ha, hb⟩
    cases ha.reaches.antisymm hb.reaches
    exact ⟨ha, hb⟩
  | many a ih =>
    simp only [ended, Continues, ih]
    refine ⟨fun ha => ⟨p, ha, .refl⟩, ?_⟩
    rintro ⟨m, ha, hrest⟩
    have hback : m.Reaches p := Matches.reaches (r := many a) hrest
    cases ha.reaches.antisymm hback
    exact ha

/-- Marks move on, and what the expression matches stays. -/
theorem matches_advance (here : Boundary) (c : Char) (enter : Bool) (r : Regex) :
    (r.advance here c enter).Matches = r.Matches := by
  induction r generalizing enter <;> simp [advance, Matches, *]

/-- A match that is under way, or that begins here if one may, goes on to the second point and
leaves the first one behind. -/
def GoesOn (r : Regex) (enter : Bool) (p q : Point) : Prop :=
  (enter = true ∧ r.Matches p q ∨ r.Continues p q) ∧ q ≠ p

variable {p q : Point} {enter : Bool}

theorem GoesOn.reaches {r : Regex} (h : r.GoesOn enter p q) : p.Reaches q :=
  h.1.elim (fun h => h.2.reaches) Continues.reaches

theorem goesOn_of_stays {r : Regex} (hmatches : ∀ p q, r.Matches p q → p = q)
    (hcontinues : ∀ p q, ¬r.Continues p q) : ¬r.GoesOn enter p q := by
  rintro ⟨⟨-, h⟩ | h, hne⟩
  · exact hne (hmatches p q h).symm
  · exact hcontinues p q h

theorem goesOn_char {marked : Bool} {cls : CharClass} {before : Option Char} {c : Char}
    {s : List Char} :
    (char marked cls).GoesOn enter ⟨before, c :: s⟩ q ↔
      (enter = true ∧ cls.contains c = true) ∧ ⟨some c, s⟩ = q := by
  constructor
  · rintro ⟨⟨henter, d, hrest, hbefore, hd⟩ | ⟨-, rfl⟩, hne⟩
    · obtain ⟨rfl, hs⟩ := List.cons.inj hrest
      exact ⟨⟨henter, hd⟩, by cases q; simp_all⟩
    · exact absurd rfl hne
  · rintro ⟨⟨henter, hc⟩, rfl⟩
    exact ⟨.inl ⟨henter, c, rfl, rfl, hc⟩, by simp⟩

theorem goesOn_either {a b : Regex} :
    (either a b).GoesOn enter p q ↔ a.GoesOn enter p q ∨ b.GoesOn enter p q := by
  simp only [GoesOn, Matches, Continues]
  grind

/-- The character is read in the first expression, or in the second one after an end of the
first. -/
theorem goesOn_seq {a b : Regex} :
    (seq a b).GoesOn enter p q ↔
      (∃ m, a.GoesOn enter p m ∧ b.Matches m q) ∨
        b.GoesOn (enter && a.nullable p.boundary || a.ended p.boundary) p q := by
  have hfirst {m : Point} (ha : enter = true ∧ a.Matches p m ∨ a.Continues p m)
      (hb : b.Matches m q) (hne : q ≠ p) : (∃ m, a.GoesOn enter p m ∧ b.Matches m q) ∨
        b.GoesOn (enter && a.nullable p.boundary || a.ended p.boundary) p q := by
    by_cases hm : m = p
    · subst hm
      refine .inr ⟨.inl ⟨?_, hb⟩, hne⟩
      rwa [Bool.or_eq_true, Bool.and_eq_true, nullable_iff, ended_iff]
    · exact .inl ⟨m, ⟨ha, hm⟩, hb⟩
  constructor
  · rintro ⟨⟨henter, m, ha, hb⟩ | ⟨m, ha, hb⟩ | hb, hne⟩
    · exact hfirst (.inl ⟨henter, ha⟩) hb hne
    · exact hfirst (.inr ha) hb hne
    · exact .inr ⟨.inr hb, hne⟩
  · rintro (⟨m, ha, hb⟩ | ⟨⟨hends, hb⟩ | hb, hne⟩)
    · refine ⟨?_, ha.reaches.ne ha.2 hb.reaches⟩
      exact ha.1.imp (fun h => ⟨h.1, m, h.2, hb⟩) fun h => .inl ⟨m, h, hb⟩
    · rw [Bool.or_eq_true, Bool.and_eq_true, nullable_iff, ended_iff] at hends
      refine ⟨?_, hne⟩
      exact hends.imp (fun h => ⟨h.1, p, h.2, hb⟩) fun h => .inl ⟨p, h, hb⟩
    · exact ⟨.inr (.inr hb), hne⟩

/-- The character is read in the copy that is under way, or in one that begins after its end. -/
theorem goesOn_many {a : Regex} :
    (many a).GoesOn enter p q ↔
      ∃ m, a.GoesOn (enter || a.ended p.boundary) p m ∧ ReflTransGen a.Matches m q := by
  have hbegin (henter : (enter || a.ended p.boundary) = true)
      (hrest : ReflTransGen a.Matches p q) (hne : q ≠ p) :
      ∃ m, a.GoesOn (enter || a.ended p.boundary) p m ∧ ReflTransGen a.Matches m q := by
    obtain ⟨m, hfirst, hm, hrest⟩ := Point.exists_step_of_reflTransGen hrest hne
    exact ⟨m, ⟨.inl ⟨henter, hfirst⟩, hm⟩, hrest⟩
  constructor
  · rintro ⟨⟨henter, hrest⟩ | ⟨m, ha, hrest⟩, hne⟩
    · exact hbegin (by simp [henter]) hrest hne
    · by_cases hm : m = p
      · subst hm
        exact hbegin (by simp [(ended_iff a m).2 ha]) hrest hne
      · exact ⟨m, ⟨.inr ha, hm⟩, hrest⟩
  · rintro ⟨m, ha, hrest⟩
    have hback : m.Reaches q := Matches.reaches (r := many a) hrest
    refine ⟨?_, ha.reaches.ne ha.2 hback⟩
    rcases ha.1 with ⟨hends, ha⟩ | ha
    · rw [Bool.or_eq_true, ended_iff] at hends
      exact hends.imp (fun henter => ⟨henter, .head ha hrest⟩) fun hend => ⟨p, hend, .head ha hrest⟩
    · exact .inr ⟨m, ha, hrest⟩

/-- The marks after a character stand for the matches that read it and go on. -/
theorem continues_advance_iff (r : Regex) (enter : Bool) (before : Option Char) (c : Char)
    (s : List Char) (q : Point) :
    (r.advance (Point.mk before (c :: s)).boundary c enter).Continues ⟨some c, s⟩ q ↔
      r.GoesOn enter ⟨before, c :: s⟩ q := by
  induction r generalizing enter q with
  | empty => exact iff_of_false id (goesOn_of_stays (fun _ _ h => h) fun _ _ h => h)
  | condition k => exact iff_of_false id (goesOn_of_stays (fun _ _ h => h.1) fun _ _ h => h)
  | char marked cls => simp only [advance, Continues, Bool.and_eq_true, goesOn_char]
  | either a b iha ihb => simp only [advance, Continues, iha, ihb, goesOn_either]
  | seq a b iha ihb => simp only [advance, Continues, matches_advance, iha, ihb, goesOn_seq]
  | many a ih => simp only [advance, Continues, matches_advance, ih, goesOn_many]

/-- The search succeeds just if a match that is under way can end, or one lies between two points
of the text. -/
theorem search_iff (r : Regex) (before : Option Char) (s : List Char) :
    r.search before s = true ↔
      (∃ q, r.Continues ⟨before, s⟩ q) ∨
        ∃ p ∈ Point.allFrom before s, ∃ q, r.Matches p q := by
  induction s generalizing r before with
  | nil =>
    have hhere {q : Point} (h : (Point.mk before []).Reaches q) : q = ⟨before, []⟩ :=
      (h.resolve_right (by simp)).symm
    have hboundary : Boundary.mk before none = (Point.mk before []).boundary := rfl
    simp only [search, hboundary, Bool.or_eq_true, ended_iff, nullable_iff, Point.allFrom,
      List.mem_singleton, exists_eq_left]
    refine or_congr ⟨fun h => ⟨_, h⟩, ?_⟩ ⟨fun h => ⟨_, h⟩, ?_⟩
    · rintro ⟨q, h⟩
      rwa [hhere h.reaches] at h
    · rintro ⟨q, h⟩
      rwa [hhere h.reaches] at h
  | cons c s ih =>
    have hboundary : Boundary.mk before (some c) = (Point.mk before (c :: s)).boundary := rfl
    simp only [search, hboundary, Bool.or_eq_true, ended_iff, nullable_iff, ih,
      continues_advance_iff, GoesOn, matches_advance, true_and, Point.allFrom, List.mem_cons,
      exists_eq_or_imp]
    constructor
    · rintro ((h | h) | ⟨q, h | h, -⟩ | h)
      · exact .inl ⟨_, h⟩
      · exact .inr (.inl ⟨_, h⟩)
      · exact .inr (.inl ⟨q, h⟩)
      · exact .inl ⟨q, h⟩
      · exact .inr (.inr h)
    · rintro (⟨q, h⟩ | ⟨q, h⟩ | h)
      · by_cases hq : q = ⟨before, c :: s⟩
        · exact .inl (.inl (hq ▸ h))
        · exact .inr (.inl ⟨q, .inr h, hq⟩)
      · by_cases hq : q = ⟨before, c :: s⟩
        · exact .inl (.inr (hq ▸ h))
        · exact .inr (.inl ⟨q, .inl h, hq⟩)
      · exact .inr (.inr h)

theorem matches_copies (r : Regex) {steps n : Nat} (h : n ≤ steps) :
    (r.copies steps n).Matches = Copies r.Matches n := by
  induction steps generalizing n with
  | zero =>
    obtain rfl : n = 0 := by omega
    rfl
  | succ steps ih =>
    by_cases h0 : n = 0
    · simp [copies, h0]
      rfl
    by_cases h1 : n = 1
    · funext p q
      simp [copies, h1, copies_one]
    have hhalf : (r.copies steps (n / 2)).Matches = Copies r.Matches (n / 2) := ih (by omega)
    funext p q
    simp only [copies, h0, h1, if_false]
    split
    · have hn : n = n / 2 + n / 2 := by omega
      conv => rhs; rw [hn, copies_add]
      simp only [Matches, hhalf]
    · have hn : n = 1 + (n / 2 + n / 2) := by omega
      conv => rhs; rw [hn, copies_add]
      simp only [Matches, hhalf, copies_one, copies_add]

theorem matches_power (r : Regex) (n : Nat) : (r.power n).Matches = Copies r.Matches n :=
  r.matches_copies (Nat.le_refl n)

theorem matches_upTo (r : Regex) (n : Nat) (p q : Point) :
    (r.upTo n).Matches p q ↔ ∃ k ≤ n, Copies r.Matches k p q := by
  rw [upTo, matches_power, ← copies_or_eq_iff]
  rfl

/-- No match is under way. -/
def Fresh (r : Regex) : Prop := ∀ p q, ¬r.Continues p q

theorem Fresh.seq {a b : Regex} (ha : a.Fresh) (hb : b.Fresh) : (seq a b).Fresh :=
  fun p q h => h.elim (fun ⟨m, h, _⟩ => ha p m h) (hb p q)

theorem Fresh.either {a b : Regex} (ha : a.Fresh) (hb : b.Fresh) : (either a b).Fresh :=
  fun p q h => h.elim (ha p q) (hb p q)

theorem Fresh.many {a : Regex} (ha : a.Fresh) : (many a).Fresh := fun p _ ⟨m, h, _⟩ => ha p m h

theorem fresh_empty : empty.Fresh := fun _ _ h => h

theorem Fresh.copies {r : Regex} (hr : r.Fresh) (steps n : Nat) : (r.copies steps n).Fresh := by
  induction steps generalizing n with
  | zero => exact fresh_empty
  | succ steps ih =>
    simp only [Regex.copies]
    split
    · exact fresh_empty
    · split
      · exact hr
      · split
        · exact (ih _).seq (ih _)
        · exact hr.seq ((ih _).seq (ih _))

end Regex

namespace Tree

def Matches : Tree → Point → Point → Prop
  | empty => fun p q => p = q
  | condition c => fun p q => p = q ∧ p.boundary.satisfies c = true
  | char cls => Point.Reads cls.contains
  | either a b => fun p q => a.Matches p q ∨ b.Matches p q
  | seq a b => fun p q => ∃ m, a.Matches p m ∧ b.Matches m q
  | repeated a least most => fun p q =>
    ∃ n, least ≤ n ∧ (∀ k ∈ most, n ≤ k) ∧ Copies a.Matches n p q
  | group _ a => a.Matches

def MatchesAll (t : Tree) (text : String) : Prop :=
  ∃ last, t.Matches ⟨none, text.toList⟩ ⟨last, []⟩

def Ordered : Tree → Prop
  | either a b => a.Ordered ∧ b.Ordered
  | seq a b => a.Ordered ∧ b.Ordered
  | repeated a least most => (∀ k ∈ most, least ≤ k) ∧ a.Ordered
  | group _ a => a.Ordered
  | _ => True

theorem stays_of_readsNothing {t : Tree} (ht : t.Ordered) (h : t.readsNothing = true) (p q : Point)
    (hmatch : t.Matches p q) : p = q := by
  induction t generalizing p q with
  | empty => exact hmatch
  | condition c => exact hmatch.1
  | char cls => simp [readsNothing] at h
  | either a b iha ihb =>
    obtain ⟨ha, hb⟩ := Bool.and_eq_true _ _ ▸ h
    exact hmatch.elim (iha ht.1 ha p q) (ihb ht.2 hb p q)
  | seq a b iha ihb =>
    obtain ⟨ha, hb⟩ := Bool.and_eq_true _ _ ▸ h
    obtain ⟨m, hpm, hmq⟩ := hmatch
    exact (iha ht.1 ha p m hpm).trans (ihb ht.2 hb m q hmq)
  | repeated a least most ih =>
    obtain ⟨n, -, hmost, hcopies⟩ := hmatch
    rcases Bool.or_eq_true _ _ ▸ h with h | h
    · obtain rfl : n = 0 := Nat.le_zero.1 (hmost 0 (by simpa using h))
      exact hcopies
    · exact ((copies_iff_of_stays (ih ht.2 h)).1 hcopies).1
  | group captures a ih => exact ih ht h p q hmatch

/-- The bounds that are used stand for the same numbers of copies as those that were written. -/
theorem exists_copies_copyBounds {R : Point → Point → Prop} {readsNothing : Bool}
    (hR : readsNothing = true → ∀ p q, R p q → p = q) {least : Nat} {most : Option Nat}
    (hbounds : ∀ k ∈ most, least ≤ k) (p q : Point) :
    (∃ n, (copyBounds readsNothing least most).1 ≤ n ∧
        (∀ k ∈ (copyBounds readsNothing least most).2, n ≤ k) ∧ Copies R n p q) ↔
      ∃ n, least ≤ n ∧ (∀ k ∈ most, n ≤ k) ∧ Copies R n p q := by
  cases readsNothing with
  | false => rfl
  | true =>
    simp only [copyBounds, if_true, copies_iff_of_stays (hR rfl), Option.mem_def,
      Option.some.injEq, forall_eq']
    constructor
    · rintro ⟨n, hleast, hmost, rfl, h⟩
      cases most with
      | none => exact ⟨max least n, by omega, by simp, rfl, by simp at hleast hmost; grind⟩
      | some k =>
        have hk : least ≤ k := hbounds k rfl
        exact ⟨max least n, by omega, by simp at hmost ⊢; omega, rfl, by grind⟩
    · rintro ⟨n, hleast, hmost, rfl, h⟩
      refine ⟨min n 1, by omega, ?_, rfl, by grind⟩
      cases most with
      | none => exact Nat.min_le_right n 1
      | some k => have := hmost k rfl; simp; omega

theorem copyBounds_ordered (readsNothing : Bool) {least : Nat} {most : Option Nat}
    (h : ∀ k ∈ most, least ≤ k) :
    ∀ k ∈ (copyBounds readsNothing least most).2, (copyBounds readsNothing least most).1 ≤ k := by
  cases readsNothing with
  | false => exact h
  | true =>
    rintro _ ⟨⟩
    cases most with
    | none => exact Nat.min_le_right least 1
    | some k =>
      have hk : least ≤ k := h k rfl
      change min least 1 ≤ min k 1
      omega

/-- What has been read at least `least` times, and at most `most` times if there is a bound. -/
theorem matches_bounded (r : Regex) {least : Nat} {most : Option Nat}
    (h : ∀ k ∈ most, least ≤ k) (p q : Point) :
    (match (least, most) with
      | (0, none) => Regex.many r
      | (least, none) => .seq (r.power least) (.many r)
      | (least, some most) => .seq (r.power least) (r.upTo (most - least))).Matches p q ↔
      ∃ n, least ≤ n ∧ (∀ k ∈ most, n ≤ k) ∧ Copies r.Matches n p q := by
  split
  · rename_i heq
    cases heq
    simp [Regex.Matches, exists_copies_iff]
  · rename_i heq
    cases heq
    have hcopies := @exists_copies_add_iff _ r.Matches p q least fun _ => True
    simpa [Regex.Matches, Regex.matches_power, ← exists_copies_iff] using hcopies
  · rename_i bound heq
    cases heq
    have hle : least ≤ bound := h bound rfl
    simp only [Regex.Matches, Regex.matches_power, Regex.matches_upTo, exists_copies_add_iff,
      Option.mem_def, Option.some.injEq, forall_eq']
    refine exists_congr fun n => and_congr_right fun hn => and_congr_left fun _ => ?_
    omega

/-- The expression for a tree matches what the tree matches. -/
theorem toRegex_matches {t : Tree} (ht : t.Ordered) : t.toRegex.Matches = t.Matches := by
  induction t with
  | empty => rfl
  | condition c => rfl
  | char cls => rfl
  | either a b iha ihb => simp only [toRegex, Regex.Matches, Matches, iha ht.1, ihb ht.2]
  | seq a b iha ihb => simp only [toRegex, Regex.Matches, Matches, iha ht.1, ihb ht.2]
  | repeated a least most ih =>
    funext p q
    have hbounds := copyBounds_ordered a.readsNothing ht.1
    have hstays := stays_of_readsNothing ht.2
    rw [← ih ht.2] at hstays
    simp only [Matches, ← ih ht.2]
    exact propext ((matches_bounded a.toRegex hbounds p q).trans
      (exists_copies_copyBounds hstays ht.1 p q))
  | group captures a ih => exact ih ht

theorem toRegex_fresh (t : Tree) : t.toRegex.Fresh := by
  induction t with
  | empty => exact Regex.fresh_empty
  | condition c => exact fun _ _ h => h
  | char cls => exact fun _ _ h => absurd h.1 (by simp)
  | either a b iha ihb => exact iha.either ihb
  | seq a b iha ihb => exact iha.seq ihb
  | repeated a least most ih =>
    simp only [toRegex]
    split
    · exact ih.many
    · exact (ih.copies _ _).seq ih.many
    · exact (ih.copies _ _).seq ((Regex.fresh_empty.either ih).copies _ _)
  | group captures a ih => exact ih

/-- A tree as a group between conditions that tie it to both ends of a text. -/
def anchored (t : Tree) : Tree :=
  .seq (.condition .textStart) (.seq (.group false t) (.condition .textEnd))

/-- Between the two conditions, a match somewhere in a text is one of all the text. -/
theorem search_anchored_iff {t : Tree} (ht : t.Ordered) (text : String) :
    t.anchored.toRegex.search none text.toList = true ↔ t.MatchesAll text := by
  have hordered : t.anchored.Ordered := ⟨trivial, ht, trivial⟩
  have hfresh := t.anchored.toRegex_fresh
  rw [Regex.search_iff, toRegex_matches hordered]
  constructor
  · rintro (⟨q, h⟩ | ⟨p, hp, q, _, ⟨rfl, hstart⟩, m, hmatch, rfl, hend⟩)
    · exact absurd h (hfresh _ q)
    · have hbefore : p.before = none := by simpa [Boundary.satisfies, Point.boundary] using hstart
      have hrest : m.rest = [] := by simpa [Boundary.satisfies, Point.boundary] using hend
      obtain rfl := Point.eq_of_mem_allFrom_of_before_none hp hbefore
      exact ⟨m.before, hrest ▸ hmatch⟩
  · rintro ⟨last, h⟩
    exact .inr ⟨_, Point.start_mem_allFrom none text.toList, ⟨last, []⟩, _, ⟨rfl, rfl⟩, _, h, rfl,
      rfl⟩

end Tree

end JsonRules.Pattern
