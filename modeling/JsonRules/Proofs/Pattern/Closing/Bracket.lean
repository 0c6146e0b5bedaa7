import JsonRules.Pattern.Bracket
import JsonRules.Proofs.Pattern.Closing.Escape

namespace JsonRules.Pattern

theorem Nesting.length_beside (a b : Nesting) :
    (a.beside b).length = max a.length b.length := by
  induction a, b using Nesting.beside.induct with
  | case1 b => simp [Nesting.beside]
  | case2 a ha => cases a <;> simp_all [Nesting.beside]
  | case3 span a other b ih => simp [Nesting.beside, ih]

namespace Reader

def Part.forget (p : Part) : CharClass × Nat := (p.cls, p.levels.length)

def Members.forget (a : Members) : Nat × CharClass × Nat := (a.count, a.union.forget)

def OpenClass.forget (a : OpenClass) :
    Bool × Option (ClassOp × CharClass × Nat) × Nat × CharClass × Nat :=
  (a.negated, a.pending.map fun x => (x.1, x.2.forget), a.members.forget)

theorem ClassOp.join_forget (m : Modes) (op : ClassOp) {a a' b b' : Part}
    (ha : a'.forget = a.forget) (hb : b'.forget = b.forget) :
    (op.join m a' b').forget = (op.join m a b).forget := by
  simp only [Part.forget, Prod.mk.injEq] at ha hb
  simp [Part.forget, ClassOp.join, Nesting.length_beside, ha, hb]

theorem Members.insert_forget {a a' : Members} {p p' : Part} (ha : a'.forget = a.forget)
    (hp : p'.forget = p.forget) : (a'.insert p').forget = (a.insert p).forget := by
  simp only [Members.forget, Part.forget, Prod.mk.injEq] at ha hp
  by_cases hcount : a.count = 0
  · simp [Members.insert, Members.forget, Part.forget, ha, hp, hcount]
  · simp [Members.insert, Members.forget, Part.forget, Nesting.length_beside, ha, hp, hcount]

theorem Members.part_forget {a a' : Members} (h : a'.forget = a.forget) :
    a'.part.forget = a.part.forget := by
  simp only [Members.forget, Part.forget, Prod.mk.injEq] at h
  by_cases hcount : a.count < 2 <;> simp [Members.part, Part.forget, h, hcount]

theorem OpenClass.part_forget (m : Modes) {a a' : OpenClass} (h : a'.forget = a.forget) :
    (a'.part m).forget = (a.part m).forget := by
  simp only [OpenClass.forget, Prod.mk.injEq] at h
  obtain ⟨-, hpending, hmembers⟩ := h
  have hpart := Members.part_forget hmembers
  rcases hp : a.pending with _ | ⟨op, lhs⟩ <;> rcases hp' : a'.pending with _ | ⟨op', lhs'⟩ <;>
    simp only [hp, hp', Option.map_none, Option.map_some, reduceCtorEq, Option.some.injEq,
      Prod.mk.injEq] at hpending
  · simpa [OpenClass.part, hp, hp'] using hpart
  · obtain ⟨rfl, hlhs⟩ := hpending
    simpa [OpenClass.part, hp, hp'] using ClassOp.join_forget m _ hlhs hpart

theorem OpenClass.insert_forget {a a' : OpenClass} {p p' : Part} (ha : a'.forget = a.forget)
    (hp : p'.forget = p.forget) : (a'.insert p').forget = (a.insert p).forget := by
  simp only [OpenClass.forget, Prod.mk.injEq] at ha ⊢
  exact ⟨ha.1, ha.2.1, Members.insert_forget ha.2.2 hp⟩

variable {w : List Char} {c c' : Cursor}

theorem leadingHyphens_run_stop (h : (c.rest.head? == some '-') = false) (first : Place)
    (a : Members) (count : Nat) : (leadingHyphens first a count).run c = .ok (a, c) := by
  cases count with
  | zero => rfl
  | succ count =>
    change StateT.run (if (c.rest.head? == some '-') = true then _ else _) c = _
    rw [h]
    rfl

theorem leadingHyphens_follows (h : InFront w c c') (first first' : Place) {a a' : Members}
    (ha : a'.forget = a.forget) {count count' : Nat} (hcount : c.rest.length ≤ count)
    (hle : count ≤ count') :
    Follows (Both w fun a b => b.forget = a.forget) (leadingHyphens first a count) c
      (leadingHyphens first' a' count') c' := by
  have hcurrent := h.current_beq (x := '-') (by decide)
  induction count generalizing count' c c' a a' with
  | zero =>
    have hstop : (c.rest.head? == some '-') = false := by
      simp [List.eq_nil_of_length_eq_zero (Nat.le_zero.1 hcount)]
    rintro _ _ ⟨⟩ -
    exact ⟨a', c', leadingHyphens_run_stop (hcurrent.trans hstop) first' a' count', ha, h⟩
  | succ count ih =>
    obtain ⟨count', rfl⟩ : ∃ n, count' = n + 1 := ⟨count' - 1, by omega⟩
    unfold leadingHyphens
    refine .current (.branch hcurrent (fun hhyphen => ?_) fun _ => .ret ⟨ha, h⟩)
    refine .look looks_charSpan looks_charSpan fun span span' => ?_
    have hne : c.rest ≠ [] := ne_nil_of_current (x := '-') (by simpa using hhyphen)
    refine .moving (bumpSpace_follows h hne) (by simp) fun d d' hd _ hlt => ?_
    have hinsert : (a'.insert ⟨.single '-', span', []⟩).forget =
        (a.insert ⟨.single '-', span, []⟩).forget := Members.insert_forget ha rfl
    exact ih hd hinsert (by omega) (by omega) (hd.current_beq (by decide))

theorem openBracket_follows (h : InFront w c c') (hne : c.rest ≠ []) :
    Follows (Both w fun a b => b.forget = a.forget) openBracket c openBracket c' := by
  unfold openBracket
  refine .look looks_place looks_place fun first first' => ?_
  refine .moving (bumpSpace_follows h hne) (by simp) fun d d' hd _ _ => .current ?_
  rw [hd.current_beq (x := '^') (by decide)]
  extract_lets negated close hyphens close' hyphens'
  have hclose {e e' : Cursor} (he : InFront w e e') {a a' : Members} (ha : a'.forget = a.forget) :
      Follows (Both w fun a b => b.forget = a.forget) (close a) e (close' a') e' := by
    refine .look (looks_since _) (looks_since _) fun span span' => .ret ⟨?_, he⟩
    simp [OpenClass.forget, ha]
  have hhyphens {e e' : Cursor} (he : InFront w e e') :
      Follows (Both w fun a b => b.forget = a.forget) (hyphens ()) e (hyphens' ()) e' := by
    refine .look looks_place looks_place fun p p' => .wholeLength ?_
    have hnone : (Members.none p').forget = (Members.none p).forget := rfl
    refine .bind (leadingHyphens_follows he _ _ hnone he.bound he.length)
      fun a i a' i' ⟨ha, hi⟩ => ?_
    have hcount : a'.count = a.count := congrArg Prod.fst ha
    have hbracket := hi.current_beq (x := ']') (by decide)
    refine .current (.branch (by rw [hcount, hbracket]) (fun hfirst => ?_) fun _ => hclose hi ha)
    refine .look looks_charSpan looks_charSpan fun span span' => ?_
    have hne : i.rest ≠ [] := ne_nil_of_current (x := ']') (by simp_all)
    exact .moving (bumpSpace_follows hi hne) (by simp) fun _ _ hg _ _ =>
      hclose hg (Members.insert_forget ha rfl)
  refine .branch rfl (fun hneg => ?_) fun _ => hhyphens hd
  replace hneg : (d.rest.head? == some '^') = true := hneg
  have hne : d.rest ≠ [] := ne_nil_of_current (x := '^') (by simpa using hneg)
  exact .moving (bumpSpace_follows hd hne) (by simp) fun _ _ he _ _ => hhyphens he

theorem classAtom_follows (h : InFront w c c') :
    Follows (Both w fun a b => b.1 = a.1) classAtom c classAtom c' := by
  unfold classAtom
  refine .current ?_
  rcases hrest : c.rest with _ | ⟨x, s⟩
  · exact Fails.followsTo (by simp) _
  have hne : c.rest ≠ [] := by simp [hrest]
  rw [h.rest_eq_cons hrest]
  simp only [List.head?_cons]
  split
  · exact escape_follows h hne
  · refine .look looks_charSpan looks_charSpan fun span span' => ?_
    exact .bind (bump_follows h hne) fun _ d _ d' hmoved => .ret ⟨by simp_all, hmoved.inFront⟩
  · simp_all

theorem classChar_follows (h : InFront w c c') (x : Char) (isByte : Bool) (span span' : Span) :
    Follows (Both w Eq) (classChar x isByte span) c (classChar x isByte span') c' := by
  unfold classChar
  refine .modes h (.branch rfl (fun _ => ?_) fun _ => .ret ⟨rfl, h⟩)
  exact .bind (misused_follows h _ _ _) fun _ d _ d' hd => .ret ⟨rfl, hd⟩

theorem rangeChar_follows (h : InFront w c c') {a a' : Atom × Span} (ha : a'.1 = a.1) :
    Follows (Both w Eq) (rangeChar a) c (rangeChar a') c' := by
  obtain ⟨atom, span⟩ := a
  obtain ⟨_, span'⟩ := a'
  cases ha
  cases atom with
  | literal x isByte => exact classChar_follows h x isByte _ _
  | cls a => exact (fails_failAt ..).followsTo _
  | condition k => exact (fails_failAt ..).followsTo _

theorem look_append {x : Char} (hblank : Text.isBlank x = false) (hhash : x ≠ '#') (comment : Bool)
    (s v : List Char) :
    nextVisible?.look comment (s ++ x :: v) = (nextVisible?.look comment s).or (some x) := by
  induction s generalizing comment with
  | nil => simp [nextVisible?.look, hblank, hhash]
  | cons y s ih =>
    simp only [List.cons_append, nextVisible?.look, ih]
    split
    · rfl
    · split <;> rfl

def visible (verbose : Bool) (s : List Char) : Option Char :=
  if verbose then nextVisible?.look false (s.drop 1) <|> (s.drop 1).head? else s[1]?

theorem nextVisible?_run (c : Cursor) :
    nextVisible?.run c = .ok (visible c.modes.verbose c.rest, c) := by
  change StateT.run (if c.modes.verbose = true then _ else _) c = _
  unfold visible
  split <;> rfl

theorem FollowsTo.nextVisible {α β : Type} {kind : Cursor → Prop}
    {post : α → Cursor → β → Cursor → Prop} {f : Option Char → Reader α}
    {f' : Option Char → Reader β}
    (h : FollowsTo kind post (f (visible c.modes.verbose c.rest)) c
      (f' (visible c'.modes.verbose c'.rest)) c') :
    FollowsTo kind post (nextVisible? >>= f) c (nextVisible? >>= f') c' := by
  intro a d hrun hkind
  rw [StateT.run_bind, nextVisible?_run] at hrun
  rw [StateT.run_bind, nextVisible?_run]
  exact h a d hrun hkind

/-- Whether a hyphen stands in front of the end of a class or of another hyphen. -/
def endsClass (following : Option Char) : Bool := following == some ']' || following == some '-'

theorem endsClass_of_look_eq_none {s : List Char} (h : nextVisible?.look false s = none) :
    endsClass s.head? = false := by
  have hbracket : Text.isBlank ']' = false := by decide
  have hhyphen : Text.isBlank '-' = false := by decide
  cases s with
  | nil => rfl
  | cons x s =>
    by_cases hx : x = ']' ∨ x = '-'
    · rcases hx with rfl | rfl <;> simp [nextVisible?.look, hbracket, hhyphen] at h
    · simpa [endsClass] using not_or.1 hx

/-- What closes a pattern does not end a class. -/
theorem endsClass_visible_append (hw : Closing w) (verbose : Bool) (s : List Char) :
    endsClass (visible verbose (s ++ w)) = endsClass (visible verbose s) := by
  have htext : Text.isBlank '$' = false := by decide
  cases s with
  | nil => cases hw <;> cases verbose <;> simp [visible, nextVisible?.look, endsClass, htext]
  | cons y s =>
    obtain ⟨x, v, rfl, hx⟩ := hw.exists_eq_cons
    have hend : endsClass (some x) = false := by rcases hx with rfl | rfl <;> rfl
    have hblank : Text.isBlank x = false := by rcases hx with rfl | rfl <;> decide
    have hhash : x ≠ '#' := by rcases hx with rfl | rfl <;> decide
    cases verbose with
    | false =>
      cases s with
      | nil => exact hend
      | cons z s => rfl
    | true =>
      simp only [visible, if_true, List.cons_append, List.drop_succ_cons, List.drop_zero,
        look_append hblank hhash]
      cases hlook : nextVisible?.look false s with
      | none => simp [hend, endsClass_of_look_eq_none hlook]
      | some z => rfl

theorem endsRange_eq (h : InFront w c c') :
    (c'.rest.head? != some '-' || visible c'.modes.verbose c'.rest == some ']' ||
        visible c'.modes.verbose c'.rest == some '-') =
      (c.rest.head? != some '-' || visible c.modes.verbose c.rest == some ']' ||
        visible c.modes.verbose c.rest == some '-') := by
  have hvisible := h.same (f := fun s => endsClass (visible c.modes.verbose s))
    (endsClass_visible_append h.closing c.modes.verbose)
  simp only [endsClass] at hvisible
  rw [h.modes, h.current_bne (by decide), Bool.or_assoc, hvisible, Bool.or_assoc]

theorem classRange_follows (h : InFront w c c') (opening opening' : Span) :
    Follows (Both w fun p q => q.forget = p.forget) (classRange opening) c (classRange opening')
      c' := by
  unfold classRange
  refine .bind (classAtom_follows h) fun low d low' d' ⟨hlow, hd⟩ => ?_
  refine .bind (skipSpace_follows hd) fun _ e _ e' ⟨he, _⟩ => ?_
  refine .rest (.guard (by simp) (by simpa using he.ne_nil) fun hmore => ?_)
  have hne : e.rest ≠ [] := by simpa using hmore
  refine .nextVisible (.current (.branch (endsRange_eq he) (fun _ => ?_) fun hrange => ?_))
  · obtain ⟨atom, span⟩ := low
    obtain ⟨_, span'⟩ := low'
    cases hlow
    cases atom with
    | literal x isByte =>
      exact .map (classChar_follows he x isByte span span') (by rintro _ _ rfl; rfl)
    | cls a => exact .ret ⟨rfl, he⟩
    | condition k => exact (fails_failAt ..).followsTo _
  · refine .moving (bumpSpace_follows he hne) (by simp) fun g g' hg _ _ => ?_
    refine .bind (classAtom_follows hg) fun high i high' i' ⟨hhigh, hi⟩ => ?_
    refine .bind (rangeChar_follows hi hlow) ?_
    rintro first j _ j' ⟨rfl, hj⟩
    refine .bind (rangeChar_follows hj hhigh) ?_
    rintro last k _ k' ⟨rfl, hk⟩
    split
    · exact Fails.followsTo (by simp) _
    · exact .ret ⟨rfl, hk⟩

theorem closeBracket_follows (h : InFront w c c') {a a' : OpenClass} (ha : a'.forget = a.forget) :
    Follows (Both w fun p q => q.forget = p.forget) (closeBracket a) c (closeBracket a') c' := by
  unfold closeBracket
  have hneg : a'.negated = a.negated := congrArg Prod.fst ha
  have hpart := OpenClass.part_forget c.modes ha
  simp only [Part.forget, Prod.mk.injEq] at hpart
  refine .modes h (.look (looks_since _) (looks_since _) fun span span' => ?_)
  rw [hneg, hpart.1]
  exact .map (complementIf_follows h _ _ _ _) (by simp [Part.forget, hpart.2])

theorem closed_append (hw : Closing w) (s : List Char) :
    namedClass?.closed (s ++ w) = namedClass?.closed s := by
  have hnone : w.dropWhile (· != ':') = [] := by cases hw <;> rfl
  obtain ⟨x, v, rfl, hx⟩ := hw.exists_eq_cons
  have hx : x ∉ [':', ']'] := by rcases hx with rfl | rfl <;> decide
  unfold namedClass?.closed
  rw [List.dropWhile_append, hnone]
  cases hdrop : s.dropWhile (· != ':') with
  | nil => rfl
  | cons y t =>
    have htake : (s.takeWhile (· != ':')).length ≠ s.length := by
      have := congrArg List.length (List.takeWhile_append_dropWhile (p := (· != ':')) (l := s))
      rw [hdrop, List.length_append, List.length_cons] at this
      omega
    rw [List.takeWhile_append, if_neg htake]
    simp only [List.isEmpty_cons, Bool.false_eq_true, if_false]
    rw [isPrefixOf_append hx]

theorem namedClass?_append (hw : Closing w) (s : List Char) :
    namedClass? (s ++ w) = namedClass? s := by
  have hclosed := closed_append hw
  obtain ⟨x, v, rfl, hx⟩ := hw.exists_eq_cons
  have hx : x ≠ ':' ∧ x ≠ '^' ∧ x ≠ '[' := by rcases hx with rfl | rfl <;> decide
  fun_cases namedClass? s with
  | case1 s => simp only [List.cons_append, namedClass?, hclosed]
  | case2 s hs =>
    cases s with
    | nil =>
      have hempty := hclosed []
      rw [List.nil_append] at hempty
      simp [namedClass?, hx, hempty]
    | cons y s =>
      have hy : y ≠ '^' := by
        rintro rfl
        exact hs s rfl
      have hrest := hclosed (y :: s)
      rw [List.cons_append] at hrest
      simp [namedClass?, hy, hrest]
  | case3 s hneg hpos =>
    match s with
    | [] => simp [namedClass?, hx]
    | [y] => simp [namedClass?, hx]
    | y :: z :: s =>
      have hyz : y = '[' → z ≠ ':' := by
        rintro rfl rfl
        exact hpos s rfl
      simp only [List.cons_append, namedClass?]
      grind

theorem le_length_of_closed {s : List Char} {a : CharClass} {count : Nat}
    (h : namedClass?.closed s = some (a, count)) : count + 2 ≤ s.length := by
  unfold namedClass?.closed at h
  have hlength := congrArg List.length (List.takeWhile_append_dropWhile (p := (· != ':')) (l := s))
  rw [List.length_append] at hlength
  by_cases hend : [':', ']'].isPrefixOf (s.dropWhile (· != ':')) = true
  · have htwo := length_le_of_isPrefixOf hend
    simp only [hend, if_true, Option.map_eq_some_iff, Prod.mk.injEq] at h
    obtain ⟨-, -, -, rfl⟩ := h
    simp only [List.length_cons, List.length_nil] at htwo
    omega
  · simp [hend] at h

theorem le_length_of_namedClass? {s : List Char} {negated : Bool} {a : CharClass} {count : Nat}
    (h : namedClass? s = some (negated, a, count)) : count ≤ s.length := by
  unfold namedClass? at h
  split at h
  case h_3 => cases h
  all_goals
    obtain ⟨⟨b, n⟩, hclosed, heq⟩ := Option.map_eq_some_iff.1 h
    cases heq
    have := le_length_of_closed hclosed
    simp only [List.length_cons]
    omega

theorem exists_eq_cons_of_append (hw : Closing w) {x : Char} (hx : x ≠ ')' ∧ x ≠ '$')
    {s t : List Char} (h : s ++ w = x :: t) : ∃ u, s = x :: u ∧ u ++ w = t := by
  obtain ⟨y, v, rfl, hy⟩ := hw.exists_eq_cons
  cases s with
  | nil =>
    cases h
    rcases hy with rfl | rfl
    · exact absurd rfl hx.1
    · exact absurd rfl hx.2
  | cons z s =>
    cases h
    exact ⟨s, rfl, rfl⟩

inductive ClassNext where
  | nothing
  | close
  | operation (op : ClassOp)
  | named (negated : Bool) (a : CharClass) (count : Nat)
  | nested
  | member

def ClassNext.of : List Char → ClassNext
  | [] => nothing
  | ']' :: _ => close
  | '&' :: '&' :: _ => operation .inter
  | '-' :: '-' :: _ => operation .diff
  | '~' :: '~' :: _ => operation .symmDiff
  | '[' :: s =>
    match namedClass? ('[' :: s) with
    | some (negated, a, count) => named negated a count
    | none => nested
  | _ => member

def ClassNext.length : ClassNext → Nat
  | nothing => 0
  | operation _ => 2
  | named _ _ count => count
  | close | nested | member => 1

theorem ClassNext.length_of_le (s : List Char) : (of s).length ≤ s.length := by
  fun_cases of s with
  | case6 s negated a count h => exact le_length_of_namedClass? h
  | case8 s hnil => exact List.length_pos_iff.2 hnil
  | _ => simp [length]

theorem ClassNext.of_append (hw : Closing w) {s : List Char} (hne : s ≠ []) :
    of (s ++ w) = of s := by
  fun_cases of s with
  | case1 => contradiction
  | case6 s negated a count h =>
    rw [← namedClass?_append hw] at h
    simp only [List.cons_append, of] at h ⊢
    rw [h]
  | case7 s h =>
    rw [← namedClass?_append hw] at h
    simp only [List.cons_append, of] at h ⊢
    rw [h]
  | case8 s _ hclose hinter hdiff hsymm hopen =>
    have hcons {x : Char} (hx : x ≠ ')' ∧ x ≠ '$') {s t : List Char} (h : s ++ w = x :: t) :
        ∃ u, s = x :: u ∧ u ++ w = t := exists_eq_cons_of_append hw hx h
    have htwice {x : Char} (hx : x ≠ ')' ∧ x ≠ '$') {t : List Char} (h : s ++ w = x :: x :: t) :
        ∃ u, s = x :: x :: u := by
      obtain ⟨u, rfl, hu⟩ := hcons hx h
      obtain ⟨v, rfl, -⟩ := hcons hx hu
      exact ⟨v, rfl⟩
    unfold of
    split
    · rename_i heq
      simp_all
    · rename_i heq
      obtain ⟨u, rfl, -⟩ := hcons (by decide) heq
      exact absurd rfl (hclose u)
    · rename_i heq
      obtain ⟨u, rfl⟩ := htwice (by decide) heq
      exact absurd rfl (hinter u)
    · rename_i heq
      obtain ⟨u, rfl⟩ := htwice (by decide) heq
      exact absurd rfl (hdiff u)
    · rename_i heq
      obtain ⟨u, rfl⟩ := htwice (by decide) heq
      exact absurd rfl (hsymm u)
    · rename_i heq
      obtain ⟨u, rfl, -⟩ := hcons (by decide) heq
      exact absurd rfl (hopen u)
    · rfl
  | _ => rfl

/-- Reads what comes next inside a class: what has been read of it if nothing is open behind that,
or the classes that are. -/
def classStep (a : OpenClass) (outer : List OpenClass) :
    Reader (Part ⊕ OpenClass × List OpenClass) := do
  let m ← modes
  match ClassNext.of (← rest) with
  | .nothing => failAt .classUnclosed a.opening
  | .close =>
    let _ ← bump
    let part ← closeBracket a
    match outer with
    | [] => return .inl part
    | b :: outer => return .inr (b.insert part, outer)
  | .operation op =>
    skip 2
    return .inr ({ a with pending := some (op, a.part m), members := .none (← place) }, outer)
  | .named negated b count =>
    let first ← place
    skip count
    let span ← since first
    return .inr (a.insert ⟨← complementIf negated span (b.anyCaseIn m), span, []⟩, outer)
  | .nested => return .inr (← openBracket, a :: outer)
  | .member => return .inr (a.insert (← classRange a.opening), outer)

theorem classParts_succ (a : OpenClass) (outer : List OpenClass) (steps : Nat) :
    classParts a outer (steps + 1) = (do
      skipSpace
      match ← classStep a outer with
      | .inl part => return part
      | .inr (a, outer) => classParts a outer steps) := by
  rw [classParts]
  simp only [classStep, bind_assoc]
  congr 1
  funext _
  congr 1
  funext m
  congr 1
  funext s
  split
  all_goals simp only [ClassNext.of, bind_assoc, failAt_bind, pure_bind]
  case h_2 => cases outer <;> simp only [pure_bind]
  case h_6 u =>
    rcases namedClass? ('[' :: u) with _ | ⟨negated, b, count⟩ <;> simp only [bind_assoc, pure_bind]

/-- The same has been read at two places, or the same classes are open. -/
inductive ClassesLike : Part ⊕ OpenClass × List OpenClass → Part ⊕ OpenClass × List OpenClass → Prop
  | done {p q : Part} (h : q.forget = p.forget) : ClassesLike (.inl p) (.inl q)
  | opened {a a' : OpenClass} {outer outer' : List OpenClass} (ha : a'.forget = a.forget)
      (houter : outer'.map OpenClass.forget = outer.map OpenClass.forget) :
      ClassesLike (.inr (a, outer)) (.inr (a', outer'))

theorem classStep_follows (h : InFront w c c') {a a' : OpenClass} (ha : a'.forget = a.forget)
    {outer outer' : List OpenClass}
    (houter : outer'.map OpenClass.forget = outer.map OpenClass.forget) :
    Follows (Both w ClassesLike) (classStep a outer) c (classStep a' outer') c' := by
  unfold classStep
  refine .modes h (.rest ?_)
  by_cases hne : c.rest = []
  · rw [hne]
    exact (fails_failAt ..).followsTo _
  rw [h.rest_of_ne_nil hne, ClassNext.of_append h.closing hne]
  have hlength := ClassNext.length_of_le c.rest
  generalize ClassNext.of c.rest = next at hlength
  cases next with
  | nothing => exact (fails_failAt ..).followsTo _
  | close =>
    refine .bind (bump_follows h hne) fun _ d _ d' hmoved => ?_
    refine .bind (closeBracket_follows hmoved.inFront ha) fun p e p' e' ⟨hp, he⟩ => ?_
    cases outer with
    | nil =>
      obtain rfl : outer' = [] := by simpa using houter
      exact .ret ⟨.done hp, he⟩
    | cons b outer =>
      obtain ⟨b', outer', rfl, hb, houter⟩ := List.map_eq_cons_iff.1 houter
      exact .ret ⟨.opened (OpenClass.insert_forget hb hp) houter, he⟩
  | operation op =>
    have hpart := OpenClass.part_forget c.modes ha
    simp only [OpenClass.forget, Prod.mk.injEq] at ha
    refine .bind (skip_follows h hlength) fun _ d _ d' hd => ?_
    refine .look looks_place looks_place fun p p' => .ret ⟨.opened ?_ houter, hd⟩
    simp only [OpenClass.forget, ha.1, Option.map_some, hpart]
    rfl
  | named negated b count =>
    refine .look looks_place looks_place fun first first' => ?_
    refine .bind (skip_follows h hlength) fun _ d _ d' hd => ?_
    refine .look (looks_since _) (looks_since _) fun span span' => ?_
    refine .map (complementIf_follows hd _ _ _ _) ?_
    rintro x _ rfl
    exact .opened (OpenClass.insert_forget ha rfl) houter
  | nested =>
    refine .map (openBracket_follows h hne) fun b b' hb => .opened hb ?_
    rw [List.map_cons, List.map_cons, ha, houter]
  | member =>
    exact .map (classRange_follows h _ _) fun p p' hp =>
      .opened (OpenClass.insert_forget ha hp) houter

theorem classParts_follows (h : InFront w c c') {a a' : OpenClass} (ha : a'.forget = a.forget)
    {outer outer' : List OpenClass}
    (houter : outer'.map OpenClass.forget = outer.map OpenClass.forget) {steps steps' : Nat}
    (hle : steps ≤ steps') :
    Follows (Both w fun p q => q.forget = p.forget) (classParts a outer steps) c
      (classParts a' outer' steps') c' := by
  induction steps generalizing steps' c c' a a' outer outer' with
  | zero => exact (fails_failAt ..).followsTo _
  | succ steps ih =>
    obtain ⟨steps', rfl⟩ : ∃ n, steps' = n + 1 := ⟨steps' - 1, by omega⟩
    rw [classParts_succ, classParts_succ]
    refine .bind (skipSpace_follows h) fun _ d _ d' ⟨hd, _⟩ => ?_
    refine .bind (classStep_follows hd ha houter) ?_
    rintro _ e _ e' ⟨hp | ⟨hb, houter⟩, he⟩
    · exact .ret ⟨hp, he⟩
    · exact ih he hb houter (by omega)

theorem bracket_follows (h : InFront w c c') (hne : c.rest ≠ []) :
    Follows (Both w fun p q => q.forget = p.forget) bracket c bracket c' := by
  unfold bracket
  refine .bind (openBracket_follows h hne) fun a d a' d' ⟨ha, hd⟩ => .wholeLength ?_
  exact classParts_follows hd ha rfl (Nat.succ_le_succ hd.length)

end Reader

end JsonRules.Pattern
