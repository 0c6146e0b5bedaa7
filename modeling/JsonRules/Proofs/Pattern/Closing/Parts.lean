import JsonRules.Proofs.Pattern.Closing.Bracket
import JsonRules.Proofs.Pattern.Closing.Group
import JsonRules.Proofs.Pattern.Matching

namespace JsonRules.Pattern

namespace Tree

theorem ordered_concat {list : List Tree} (h : ∀ t ∈ list, t.Ordered) : (concat list).Ordered := by
  induction list with
  | nil => trivial
  | cons t rest ih =>
    cases rest with
    | nil => exact h t (by simp)
    | cons u rest => exact ⟨h t (by simp), ih fun v hv => h v (by simp_all)⟩

theorem ordered_choice {list : List Tree} (h : ∀ t ∈ list, t.Ordered) : (choice list).Ordered := by
  induction list with
  | nil => trivial
  | cons t rest ih =>
    cases rest with
    | nil => exact h t (by simp)
    | cons u rest => exact ⟨h t (by simp), ih fun v hv => h v (by simp_all)⟩

end Tree

namespace Reader

/-- What an item is apart from its places. -/
def Item.forget (i : Item) : Option Tree × Nat := (i.tree?, i.levels.length)

def Sequence.forget (s : Sequence) : List (Option Tree × Nat) := s.items.map Item.forget

def Read.forget (r : Read) : Tree × Nat := (r.tree, r.levels.length)

def Choice.forget (a : Choice) : List (Tree × Nat) × List (Option Tree × Nat) :=
  (a.before.map Read.forget, a.last.forget)

abbrev GroupShape := Bool × (List (Tree × Nat) × List (Option Tree × Nat)) × Modes

def OpenGroup.forget (g : OpenGroup) : GroupShape :=
  (g.captures, g.outer.forget, g.modes)

theorem length_levelsOf (list : List Nesting) :
    (levelsOf list).length = (list.map List.length).foldl max 0 := by
  suffices h : ∀ after : Nesting,
      (list.foldl (fun after part => part.beside after) after).length =
        (list.map List.length).foldl max after.length from h []
  induction list with
  | nil => exact fun _ => rfl
  | cons a list ih =>
    intro after
    rw [List.foldl_cons, ih, Nesting.length_beside, List.map_cons, List.foldl_cons, Nat.max_comm]

theorem Sequence.forget_read (s : Sequence) (p : Place) :
    (s.read p).forget = (Tree.concat (s.forget.filterMap Prod.fst).reverse,
      (s.forget.map Prod.snd).foldl max 0 + if s.forget.length < 2 then 0 else 1) := by
  have htrees : s.forget.filterMap Prod.fst = s.items.filterMap Item.tree? := by
    simp only [forget, List.filterMap_map]
    rfl
  have hlevels : (s.forget.map Prod.snd).foldl max 0 =
      (levelsOf (s.items.map Item.levels)).length := by
    simp only [forget, length_levelsOf, List.map_map]
    rfl
  rw [htrees, hlevels]
  simp only [read, Read.forget, forget, List.length_map]
  split <;> rfl

theorem Choice.forget_read (a : Choice) (p : Place) :
    (a.read p).forget =
      if a.forget.1.isEmpty then (a.last.read p).forget
      else
        let reads := (a.last.read p).forget :: a.forget.1
        (Tree.choice (reads.map Prod.fst).reverse, (reads.map Prod.snd).foldl max 0 + 1) := by
  simp only [read, forget, List.isEmpty_map]
  split
  · rfl
  · simp only [Read.forget, List.length_cons, length_levelsOf, List.map_cons, List.map_map]
    rfl

theorem Choice.read_forget {a a' : Choice} (h : a'.forget = a.forget) (p p' : Place) :
    (a'.read p').forget = (a.read p).forget := by
  have hlast : a'.last.forget = a.last.forget := congrArg Prod.snd h
  rw [forget_read, forget_read, Sequence.forget_read, Sequence.forget_read, h, hlast]

theorem Choice.next_forget {a a' : Choice} (h : a'.forget = a.forget) (p p' q q' : Place) :
    (a'.next p' q').forget = (a.next p q).forget := by
  have hbefore : a'.before.map Read.forget = a.before.map Read.forget := congrArg Prod.fst h
  have hlast : a'.last.forget = a.last.forget := congrArg Prod.snd h
  simp only [forget, next, List.map_cons, hbefore, Sequence.forget_read, hlast]
  rfl

theorem Choice.insert_forget {a a' : Choice} (h : a'.forget = a.forget) {i i' : Item}
    (hi : i'.forget = i.forget) : (a'.insert i').forget = (a.insert i).forget := by
  simp only [forget, Sequence.forget, Prod.mk.injEq] at h
  simp only [forget, Sequence.forget, insert, List.map_cons, h, hi]

structure Choice.Ordered (a : Choice) : Prop where
  before : ∀ r ∈ a.before, r.tree.Ordered
  last : ∀ i ∈ a.last.items, ∀ t ∈ i.tree?, t.Ordered

namespace Choice.Ordered

variable {a : Choice}

theorem read_last (h : a.Ordered) (p : Place) : (a.last.read p).tree.Ordered := by
  refine Tree.ordered_concat fun t ht => ?_
  obtain ⟨i, hi, ht⟩ := List.mem_filterMap.1 (List.mem_reverse.1 ht)
  exact h.last i hi t ht

theorem read (h : a.Ordered) (p : Place) : (a.read p).tree.Ordered := by
  unfold Choice.read
  split
  · exact h.read_last p
  · refine Tree.ordered_choice fun t ht => ?_
    obtain ⟨r, hr, rfl⟩ := List.mem_map.1 (List.mem_reverse.1 ht)
    rcases List.mem_cons.1 hr with rfl | hr
    · exact h.read_last p
    · exact h.before r hr

theorem begin (p : Place) : (Choice.begin p).Ordered :=
  ⟨fun _ h => absurd h List.not_mem_nil, fun _ h => absurd h List.not_mem_nil⟩

theorem insert (h : a.Ordered) {i : Item} (hi : ∀ t ∈ i.tree?, t.Ordered) :
    (a.insert i).Ordered := by
  refine ⟨h.before, fun j hj => ?_⟩
  rcases List.mem_cons.1 hj with rfl | hj
  · exact hi
  · exact h.last j hj

theorem next (h : a.Ordered) (p q : Place) : (a.next p q).Ordered := by
  refine ⟨fun r hr => ?_, fun _ h => absurd h List.not_mem_nil⟩
  rcases List.mem_cons.1 hr with rfl | hr
  · exact h.read_last p
  · exact h.before r hr

end Choice.Ordered

/-- The second choice is the first one, read at other places. -/
structure Choice.Like (a a' : Choice) : Prop where
  forget : a'.forget = a.forget
  ordered : a.Ordered

variable {w : List Char} {c c' : Cursor}

theorem skipPreference_run_stop (h : (c.rest.head? == some '?') = false) :
    skipPreference.run c = .ok ((), c) := by
  change StateT.run (if (c.rest.head? == some '?') = true then _ else _) c = _
  rw [h]
  rfl

theorem skipPreference_follows (h : InFront w c c') :
    Follows (fun _ d _ d' => InFront w d d') skipPreference c skipPreference c' := by
  unfold skipPreference
  refine .current (.branch (h.current_beq (by decide)) (fun hquestion => ?_) fun _ => .ret h)
  have hne : c.rest ≠ [] := ne_nil_of_current (x := '?') (by simpa using hquestion)
  exact .bind (bump_follows h hne) fun _ d _ d' hmoved => .ret hmoved.inFront

/-- A sign of preference is looked for only if something is left, which makes no difference. -/
theorem FollowsTo.then_skipPreference {α β : Type} {kind : Cursor → Prop}
    {post : α → Cursor → β → Cursor → Prop} {m m' : Reader Bool} {f : Unit → Reader α}
    {f' : Unit → Reader β} (hm : Follows (Moved w c) m c m' c')
    (hf : ∀ d d', InFront w d d' → FollowsTo kind post (f ()) d (f' ()) d') :
    FollowsTo kind post (m >>= fun more => if more = true then skipPreference >>= f else f ()) c
      (m' >>= fun more => if more = true then skipPreference >>= f' else f' ()) c' := by
  refine .bind hm fun more d more' d' hmoved => ?_
  cases hmore : more with
  | true =>
    rw [hmoved.more_of_more hmore]
    exact .bind (skipPreference_follows hmoved.inFront) fun _ e _ e' he => hf e e' he
  | false =>
    have hd := hmoved.inFront
    have hstop : (d'.rest.head? == some '?') = false := by
      rw [hd.current_beq (by decide), hmoved.eq_nil hmore]
      rfl
    intro a e hrun hkind
    obtain ⟨b, e', hrun', hpost⟩ := hf d d' hd a e hrun hkind
    refine ⟨b, e', ?_, hpost⟩
    cases more' with
    | false => exact hrun'
    | true =>
      simp only [if_true]
      rw [StateT.run_bind, skipPreference_run_stop hstop]
      exact hrun'

/-- A number is the same in front of more, and so is that there is none. -/
theorem decimal_follows (h : InFront w c c') :
    Follows (Both w fun a b => b.toOption = a.toOption) decimal c decimal c' := by
  have hgroup : Text.isBlank ')' = false := by decide
  have htext : Text.isBlank '$' = false := by decide
  unfold decimal
  refine .bind (collectWhile_follows hgroup htext h) fun _ d _ d' ⟨_, hd⟩ => ?_
  refine .look looks_place looks_place fun first first' => ?_
  refine .bind (collectWhile_follows rfl rfl hd) ?_
  rintro digits e _ e' ⟨rfl, he⟩
  refine .look (looks_since _) (looks_since _) fun span span' => ?_
  refine .bind (collectWhile_follows hgroup htext he) fun _ g _ g' ⟨_, hg⟩ => ?_
  refine .branch rfl (fun _ => .ret ⟨rfl, hg⟩) fun _ => ?_
  split
  · exact .ret ⟨rfl, hg⟩
  · exact .ret ⟨rfl, hg⟩

theorem lift_follows (h : InFront w c c') {α : Type} {a b : Except Fault α}
    (hab : b.toOption = a.toOption) :
    Follows (Both w Eq) (liftM a : Reader α) c (liftM b : Reader α) c' := by
  cases a with
  | error fault => exact Fails.followsTo ⟨fun _ => ⟨fault, rfl⟩⟩ _
  | ok x =>
    obtain rfl : b = .ok x := by cases b <;> simp_all [Except.toOption]
    exact FollowsTo.ret (a := x) (b := x) ⟨rfl, h⟩

/-- The bounds of a repetition are in order. -/
theorem count_follows (h : InFront w c c') (hne : c.rest ≠ []) :
    Follows (Both w fun a b => b = a ∧ ∀ k ∈ a.2, a.1 ≤ k) count c count c' := by
  unfold count
  refine .look looks_place looks_place fun first first' => ?_
  refine .moving (bumpSpace_follows h hne) (by simp) fun d d' hd _ _ => ?_
  refine .bind (decimal_follows hd) fun least e least' e' ⟨hleast, he⟩ => ?_
  refine .rest (.guard (by simp) (by simpa using he.ne_nil) fun _ => .current ?_)
  extract_lets close two close' two'
  have hclose (bounds : Nat × Option Nat) {g g' : Cursor} (hg : InFront w g g') :
      Follows (Both w fun a b => b = a ∧ ∀ k ∈ a.2, a.1 ≤ k) (close bounds) g (close' bounds)
        g' := by
    refine .current (.guard (by simp) (hg.current_bne (by decide)).trans fun hbrace => ?_)
    have hne : g.rest ≠ [] := ne_nil_of_current hbrace
    refine .then_skipPreference (bumpSpace_follows hg hne) fun i i' hi => ?_
    refine .guard (by simp) id fun horder => .ret ⟨⟨rfl, fun k hk => ?_⟩, hi⟩
    simpa [Option.mem_def.1 hk] using horder
  refine .branch (he.current_beq (by decide)) (fun hcomma => ?_) fun _ => ?_
  · have hne : e.rest ≠ [] := ne_nil_of_current (x := ',') (by simpa using hcomma)
    refine .moving (bumpSpace_follows he hne) (by simp) fun g g' hg _ _ => ?_
    refine .bind (lift_follows hg hleast) ?_
    rintro low i _ i' ⟨rfl, hi⟩
    refine .current (.branch (hi.current_beq (by decide)) (fun _ => hclose _ hi) fun _ => ?_)
    refine .bind (decimal_follows hi) fun most j most' j' ⟨hmost, hj⟩ => ?_
    refine .bind (lift_follows hj hmost) ?_
    rintro high k _ k' ⟨rfl, hk⟩
    exact hclose _ hk
  · refine .bind (lift_follows he hleast) ?_
    rintro low i _ i' ⟨rfl, hi⟩
    exact hclose _ hi

theorem sign_follows (h : InFront w c c') (hne : c.rest ≠ []) {least : Nat} {most : Option Nat}
    (hbounds : ∀ k ∈ most, least ≤ k) :
    Follows (Both w fun a b => b = a ∧ ∀ k ∈ a.2, a.1 ≤ k) (sign least most) c (sign least most)
      c' :=
  .then_skipPreference (bump_follows h hne) fun _ _ hd => .ret ⟨⟨rfl, hbounds⟩, hd⟩

structure OperandLike (x y : Item × Tree × Choice) : Prop where
  levels : y.1.levels.length = x.1.levels.length
  tree : y.2.1 = x.2.1
  ordered : x.2.1.Ordered
  choice : x.2.2.Like y.2.2

theorem operand_follows {a a' : Choice} (ha : a.Like a') :
    Follows (fun x d y d' => OperandLike x y ∧ d = c ∧ d' = c') (operand a) c (operand a') c' := by
  unfold operand
  have hbefore : a'.before.map Read.forget = a.before.map Read.forget :=
    congrArg Prod.fst ha.forget
  have hitems : a'.last.items.map Item.forget = a.last.items.map Item.forget :=
    congrArg Prod.snd ha.forget
  rcases hlast : a.last.items with _ | ⟨i, items⟩
  · exact Fails.followsTo (by simp) _
  rw [hlast] at hitems
  obtain ⟨i', items', hlast', hi, htail⟩ := List.map_eq_cons_iff.1 hitems
  obtain ⟨htree, hlevels⟩ := Prod.mk.inj hi
  rw [hlast']
  simp only
  cases ht : i.tree? with
  | none => exact Fails.followsTo (by simp) _
  | some t =>
    have hordered : t.Ordered := ha.ordered.last i (by simp [hlast]) t ht
    rw [htree.trans ht]
    refine .ret ⟨⟨hlevels, rfl, hordered, ?_, ha.ordered.before, fun j hj => ?_⟩, rfl, rfl⟩
    · exact Prod.ext hbefore htail
    · exact ha.ordered.last j (by simp [hlast, hj])

theorem repetition_follows {a a' : Choice} (ha : a.Like a')
    {bounds : Reader (Nat × Option Nat)}
    (hbounds : Follows (Both w fun a b => b = a ∧ ∀ k ∈ a.2, a.1 ≤ k) bounds c bounds c') :
    Follows (Both w Choice.Like) (repetition a bounds) c (repetition a' bounds) c' := by
  unfold repetition
  refine .bind (operand_follows ha) ?_
  rintro ⟨i, t, b⟩ _ ⟨i', _, b'⟩ _ ⟨⟨hlevels, rfl, htree, hb⟩, rfl, rfl⟩
  refine .bind hbounds ?_
  rintro ⟨least, most⟩ d _ d' ⟨⟨rfl, horder⟩, hd⟩
  refine .look (looks_since _) (looks_since _) fun span span' => .ret ⟨⟨?_, ?_⟩, hd⟩
  · exact Choice.insert_forget hb.forget (by simpa [Item.forget] using hlevels)
  · refine hb.ordered.insert fun u hu => ?_
    cases hu
    exact ⟨horder, htree⟩

theorem atom_follows (h : InFront w c c') (hne : c.rest ≠ []) :
    Follows (Both w fun a b => b = a ∧ a.Ordered) atom c atom c' := by
  unfold atom
  obtain ⟨x, s, hrest⟩ := List.exists_cons_of_ne_nil hne
  refine .modes h (.look looks_charSpan looks_charSpan fun span span' => .current ?_)
  rw [hrest, h.rest_eq_cons hrest]
  simp only [List.head?_cons]
  split
  · refine .bind (escape_follows h hne) fun a d a' d' ⟨ha, hd⟩ => ?_
    obtain ⟨atom, span⟩ := a
    obtain ⟨_, span'⟩ := a'
    cases ha
    cases atom with
    | literal x isByte =>
      refine .branch rfl (fun _ => ?_) fun _ => .ret ⟨⟨rfl, trivial⟩, hd⟩
      exact .bind (misused_follows hd _ _ _) fun _ e _ e' he => .ret ⟨⟨rfl, trivial⟩, he⟩
    | cls a => exact .ret ⟨⟨rfl, trivial⟩, hd⟩
    | condition k => exact .ret ⟨⟨rfl, trivial⟩, hd⟩
  · refine .bind (bump_follows h hne) fun _ d _ d' hmoved => ?_
    have hd := hmoved.inFront
    split
    · have hdot (x y z : CharClass) {e e' : Cursor} (he : InFront w e e') :
          let dot : Reader Tree :=
            if c.modes.dotMatchesAll = true then return .char x
            else if c.modes.crlf = true then return .char y
            else return .char z
          Follows (Both w fun a b => b = a ∧ a.Ordered) dot e dot e' := by
        refine .branch rfl (fun _ => .ret ⟨⟨rfl, trivial⟩, he⟩) fun _ => ?_
        exact .branch rfl (fun _ => .ret ⟨⟨rfl, trivial⟩, he⟩) fun _ => .ret ⟨⟨rfl, trivial⟩, he⟩
      refine .branch rfl (fun _ => ?_) fun _ => hdot _ _ _ hd
      exact .bind (misused_follows hd _ _ _) fun _ e _ e' he => hdot _ _ _ he
    all_goals exact .ret ⟨⟨rfl, trivial⟩, hd⟩
  · contradiction

/-- What has been read of a pattern: the choice at the current place, and the groups around it. -/
structure Progress where
  choice : Choice
  outer : List OpenGroup := []

/-- What is read after a group has been opened or modes have been switched. -/
def Progress.enter (s : Progress) (p : Place) : Opening → Reader Progress
  | .switch m => do
    setModes m
    return { s with choice := s.choice.insert ⟨p, none, []⟩ }
  | .group opening captures m => do
    let g : OpenGroup := ⟨opening, captures, s.choice, ← modes⟩
    setModes m
    return ⟨.begin (← place), g :: s.outer⟩

def Progress.leave (s : Progress) (p : Place) : Reader Progress :=
  match s.outer with
  | [] => do failAt .groupUnopened (← charSpan)
  | g :: outer => do
    let _ ← bump
    return ⟨← g.close s.choice p, outer⟩

def part (s : Progress) : Reader Progress := do
  let p ← place
  match ← current? with
  | none => return s
  | some '(' => s.enter p (← openGroup)
  | some ')' => s.leave p
  | some '|' =>
    let _ ← bump
    return { s with choice := s.choice.next p (← place) }
  | some '[' =>
    let c ← bracket
    return { s with choice := s.choice.insert ⟨p, some (.char c.cls), c.levels⟩ }
  | some '?' => return { s with choice := ← repetition s.choice (sign 0 (some 1)) }
  | some '*' => return { s with choice := ← repetition s.choice (sign 0 none) }
  | some '+' => return { s with choice := ← repetition s.choice (sign 1 none) }
  | some '\x7b' => return { s with choice := ← repetition s.choice count }
  | some _ =>
    let t ← atom
    return { s with choice := s.choice.insert ⟨p, some t, []⟩ }

/-- The rest of a pattern is nothing, or one part and then the rest. -/
theorem parts_succ (s : Progress) (steps : Nat) :
    parts s.choice s.outer (steps + 1) = (do
      skipSpace
      if (← Reader.rest).isEmpty then
        match s.outer with
        | g :: _ => failAt .groupUnclosed g.opening
        | [] => return s.choice.read (← place)
      else
        let t ← part s
        parts t.choice t.outer steps) := by
  refine StateT.ext fun c => ?_
  rw [parts, StateT.run_bind, StateT.run_bind]
  congr 1
  funext ⟨_, d⟩
  rw [run_place_bind, run_current_bind, run_rest_bind]
  rcases hrest : d.rest with _ | ⟨x, t⟩
  · cases s.outer <;> rfl
  rw [List.isEmpty_cons, if_neg Bool.false_ne_true, part, bind_assoc, run_place_bind, bind_assoc,
    run_current_bind, hrest]
  simp only [List.head?_cons]
  split
  · contradiction
  · rename_i heq
    cases heq
    simp only [bind_assoc]
    congr 2
    funext o
    cases o <;> simp only [Progress.enter, bind_assoc, pure_bind]
  · rename_i heq
    cases heq
    unfold Progress.leave
    cases s.outer with
    | nil => simp only [bind_assoc, failAt_bind]
    | cons g outer => simp only [bind_assoc, pure_bind]
  all_goals
    rename_i heq
    cases heq
    simp only [bind_assoc, pure_bind]

theorem parts_run_of_ne_nil {s : Progress} {c d : Cursor} (hspace : skipSpace.run c = .ok ((), d))
    (hne : d.rest ≠ []) (steps : Nat) :
    (parts s.choice s.outer (steps + 1)).run c =
      (part s >>= fun t => parts t.choice t.outer steps).run d := by
  have hmore : d.rest.isEmpty = false := by simpa using hne
  rw [parts_succ, StateT.run_bind, hspace]
  change StateT.run (if d.rest.isEmpty = true then _ else _) d = _
  rw [hmore]
  rfl

theorem parts_run_of_nil {s : Progress} {c d : Cursor} (hspace : skipSpace.run c = .ok ((), d))
    (hnil : d.rest = []) (steps : Nat) :
    (parts s.choice s.outer (steps + 1)).run c =
      match s.outer with
      | g :: _ => .error ⟨.groupUnclosed, g.opening, none⟩
      | [] => .ok (s.choice.read d.place, d) := by
  rw [parts_succ, StateT.run_bind, hspace]
  change StateT.run (if d.rest.isEmpty = true then _ else _) d = _
  rw [hnil]
  cases s.outer <;> rfl

/-- The second progress is the first one, read at other places and inside further groups. -/
structure Progress.Within (extra : List GroupShape) (s s' : Progress) : Prop where
  choice : s.choice.Like s'.choice
  outer : s'.outer.map OpenGroup.forget = s.outer.map OpenGroup.forget ++ extra
  ordered : ∀ g ∈ s.outer, g.outer.Ordered

variable {extra : List GroupShape} {s s' : Progress}

theorem Choice.Like.insert {a a' : Choice} (h : a.Like a') {i i' : Item}
    (hi : i'.forget = i.forget) (hordered : ∀ t ∈ i.tree?, t.Ordered) :
    (a.insert i).Like (a'.insert i') :=
  ⟨Choice.insert_forget h.forget hi, h.ordered.insert hordered⟩

theorem Progress.Within.withChoice (hs : s.Within extra s') {a a' : Choice} (ha : a.Like a') :
    Progress.Within extra { s with choice := a } { s' with choice := a' } :=
  ⟨ha, hs.outer, hs.ordered⟩

theorem close_follows (h : InFront w c c') {g g' : OpenGroup} (hg : g'.forget = g.forget)
    (hordered : g.outer.Ordered) {a a' : Choice} (ha : a.Like a') (p p' : Place) :
    Follows (Both w Choice.Like) (g.close a p) c (g'.close a' p') c' := by
  obtain ⟨hcaptures, houter, hmodes⟩ : g'.captures = g.captures ∧ g'.outer.forget = g.outer.forget ∧
      g'.modes = g.modes := by simpa [OpenGroup.forget] using hg
  obtain ⟨htree, hlevels⟩ := Prod.mk.inj (Choice.read_forget ha.forget p p')
  refine .look (looks_since _) (looks_since _) fun span span' => ?_
  rintro _ _ ⟨⟩ -
  refine ⟨_, _, rfl, ?_, hmodes ▸ h.setModes g.modes⟩
  refine Choice.Like.insert ⟨houter, hordered⟩ ?_ ?_
  · simp [Item.forget, hcaptures, htree, hlevels]
  · rintro _ ⟨⟩
    exact ha.ordered.read p

theorem enter_follows (h : InFront w c c') (hs : s.Within extra s') {o o' : Opening}
    (ho : o'.forget = o.forget) (p p' : Place) :
    Follows (Both w (Progress.Within extra)) (s.enter p o) c (s'.enter p' o') c' := by
  have ha := hs.choice
  cases o with
  | switch m =>
    cases o' with
    | group opening captures m' => simp [Opening.forget] at ho
    | switch m' =>
      obtain rfl : m' = m := by simpa [Opening.forget] using ho
      rintro _ _ ⟨⟩ -
      have hswitch : ∀ t ∈ (none : Option Tree), t.Ordered := by simp
      exact ⟨_, _, rfl, hs.withChoice (ha.insert rfl hswitch), h.setModes m'⟩
  | group opening captures m =>
    cases o' with
    | switch m' => simp [Opening.forget] at ho
    | group opening' captures' m' =>
      obtain ⟨rfl, rfl⟩ : captures' = captures ∧ m' = m := by simpa [Opening.forget] using ho
      refine .modes h ?_
      rintro _ _ ⟨⟩ -
      refine ⟨_, _, rfl, ⟨⟨rfl, .begin _⟩, ?_, ?_⟩, h.setModes m'⟩
      · simp [OpenGroup.forget, hs.outer, ha.forget]
      · intro g hg
        rcases List.mem_cons.1 hg with rfl | hg
        · exact ha.ordered
        · exact hs.ordered g hg

theorem leave_follows (h : InFront w c c') (hne : c.rest ≠ []) (hs : s.Within extra s')
    (p p' : Place) :
    Follows (Both w (Progress.Within extra)) (s.leave p) c (s'.leave p') c' := by
  have hmap := hs.outer
  have hordered := hs.ordered
  unfold Progress.leave
  cases houter : s.outer with
  | nil => exact Fails.followsTo (by simp) _
  | cons g outer =>
    rw [houter, List.map_cons, List.cons_append] at hmap
    rw [houter] at hordered
    obtain ⟨g', outer', houter', hg, htail⟩ := List.map_eq_cons_iff.1 hmap
    rw [houter']
    refine .bind (bump_follows h hne) fun _ d _ d' hmoved => ?_
    have hinside : g.outer.Ordered := hordered g (by simp)
    refine .bind (close_follows hmoved.inFront hg hinside hs.choice p p') ?_
    rintro a e a' e' ⟨ha, he⟩
    exact .ret ⟨⟨ha, htail, fun g hg => hordered g (by simp [hg])⟩, he⟩

theorem repeated_follows (hs : s.Within extra s') {bounds : Reader (Nat × Option Nat)}
    (hbounds : Follows (Both w fun a b => b = a ∧ ∀ k ∈ a.2, a.1 ≤ k) bounds c bounds c') :
    Follows (Both w (Progress.Within extra))
      (do return { s with choice := ← repetition s.choice bounds }) c
      (do return { s' with choice := ← repetition s'.choice bounds }) c' :=
  .map (repetition_follows hs.choice hbounds) fun _ _ ha => hs.withChoice ha

/-- A part is read in the same way in front of more, and inside further groups. -/
theorem part_follows (h : InFront w c c') (hne : c.rest ≠ []) (hs : s.Within extra s') :
    Follows (Both w (Progress.Within extra)) (part s) c (part s') c' := by
  obtain ⟨x, t, hrest⟩ := List.exists_cons_of_ne_nil hne
  have ha := hs.choice
  unfold part
  refine .look looks_place looks_place fun p p' => .current ?_
  rw [hrest, h.rest_eq_cons hrest]
  simp only [List.head?_cons]
  split
  · contradiction
  · exact .bind (openGroup_follows h hne) fun _ _ _ _ ho => enter_follows ho.2 hs ho.1 p p'
  · exact leave_follows h hne hs p p'
  · refine .bind (bump_follows h hne) fun _ d _ d' hmoved => ?_
    refine .look looks_place looks_place fun q q' => .ret ⟨hs.withChoice ?_, hmoved.inFront⟩
    exact ⟨Choice.next_forget ha.forget _ _ _ _, ha.ordered.next _ _⟩
  · refine .bind (bracket_follows h hne) ?_
    rintro a d a' d' ⟨hpart, hd⟩
    refine .ret ⟨hs.withChoice ?_, hd⟩
    obtain ⟨hcls, hlevels⟩ := Prod.mk.inj hpart
    refine ha.insert (by simp [Item.forget, hcls, hlevels]) ?_
    rintro _ ⟨⟩
    trivial
  · exact repeated_follows hs (sign_follows h hne (by simp))
  · exact repeated_follows hs (sign_follows h hne (by simp))
  · exact repeated_follows hs (sign_follows h hne (by simp))
  · exact repeated_follows hs (count_follows h hne)
  · refine .bind (atom_follows h hne) ?_
    rintro t d _ d' ⟨⟨rfl, ht⟩, hd⟩
    refine .ret ⟨hs.withChoice (ha.insert rfl ?_), hd⟩
    rintro _ ⟨⟩
    exact ht

/-- Some parts are read one after the other, each after the space in front of it. -/
inductive Run : Progress → Cursor → Progress → Cursor → Nat → Prop where
  | refl (s : Progress) (c : Cursor) : Run s c s c 0
  | step {s t u : Progress} {c d e f : Cursor} {n : Nat} (hspace : skipSpace.run c = .ok ((), d))
      (hne : d.rest ≠ []) (hpart : (part s).run d = .ok (t, e)) (hrest : Run t e u f n) :
      Run s c u f (n + 1)

theorem Run.inFront {t : Progress} {d : Cursor} {n : Nat} (hrun : Run s c t d n)
    (h : InFront w c c') (hs : s.Within extra s') :
    ∃ t' d', Run s' c' t' d' n ∧ t.Within extra t' ∧ InFront w d d' := by
  induction hrun generalizing s' c' with
  | refl s c => exact ⟨s', c', .refl s' c', hs, h⟩
  | step hspace hne hpart _ ih =>
    obtain ⟨⟨⟩, d', hspace', hd, -⟩ := skipSpace_follows h _ _ hspace trivial
    obtain ⟨t', e', hpart', ht, he⟩ := part_follows hd hne hs _ _ hpart trivial
    obtain ⟨u', f', hrest', hu, hf⟩ := ih he ht
    exact ⟨u', f', .step hspace' (hd.ne_nil hne) hpart' hrest', hu, hf⟩

/-- After the parts of a run the rest is read as if it began there. -/
theorem Run.parts_eq {t : Progress} {d : Cursor} {n : Nat} (hrun : Run s c t d n) (steps : Nat) :
    (parts s.choice s.outer (n + steps)).run c = (parts t.choice t.outer steps).run d := by
  induction hrun with
  | refl s c => rw [Nat.zero_add]
  | @step s t u c d e f n hspace hne hpart _ ih =>
    rw [Nat.add_right_comm, parts_run_of_ne_nil hspace hne, StateT.run_bind, hpart]
    exact ih

/-- Whatever is read to its end is read by a run that leaves no group open. -/
theorem exists_run_of_parts {steps : Nat} {r : Read} {e : Cursor}
    (h : (parts s.choice s.outer steps).run c = .ok (r, e)) :
    ∃ t d n, Run s c t d n ∧ n < steps ∧ t.outer = [] ∧ skipSpace.run d = .ok ((), e) ∧
      e.rest = [] ∧ r = t.choice.read e.place := by
  induction steps generalizing s c with
  | zero => cases h
  | succ steps ih =>
    obtain ⟨d, hspace⟩ : ∃ d, skipSpace.run c = .ok ((), d) := ⟨_, skipSpace_run c⟩
    by_cases hnil : d.rest = []
    · rw [parts_run_of_nil hspace hnil] at h
      cases houter : s.outer with
      | cons g outer => simp [houter] at h
      | nil =>
        rw [houter] at h
        cases h
        exact ⟨s, c, 0, .refl s c, Nat.succ_pos _, houter, hspace, hnil, rfl⟩
    · rw [parts_run_of_ne_nil hspace hnil, StateT.run_bind] at h
      cases hpart : (part s).run d with
      | error fault => rw [hpart] at h; cases h
      | ok x =>
        obtain ⟨t, f⟩ := x
        rw [hpart] at h
        obtain ⟨u, g, n, hrun, hn, hend⟩ := ih h
        exact ⟨u, g, n + 1, .step hspace hnil hpart hrun, Nat.succ_lt_succ hn, hend⟩

end Reader

end JsonRules.Pattern
