import JsonRules.Pattern.Cursor

namespace JsonRules.Pattern

/-- What can stand behind a pattern to close it. -/
inductive Closing : List Char → Prop where
  | group : Closing [')']
  | text : Closing ['$']
  | both : Closing [')', '$']

theorem Closing.exists_eq_cons {w : List Char} (h : Closing w) :
    ∃ x v, w = x :: v ∧ (x = ')' ∨ x = '$') := by
  cases h <;> simp

namespace Reader

/-- The second cursor reads in front of `w` what the first one reads: the same characters are left,
and `w` behind them unless a comment has passed over it. -/
structure InFront (w : List Char) (c c' : Cursor) : Prop where
  closing : Closing w
  rest : c'.rest = c.rest ++ w ∨ c.rest = [] ∧ c'.rest = []
  bound : c.rest.length ≤ c.length
  length : c.length ≤ c'.length
  modes : c'.modes = c.modes
  names : c'.names.map Prod.fst = c.names.map Prod.fst
  misuse : c'.misuse.isSome = c.misuse.isSome

namespace InFront

variable {w : List Char} {c c' : Cursor}

theorem rest_of_ne_nil (h : InFront w c c') (hne : c.rest ≠ []) : c'.rest = c.rest ++ w :=
  h.rest.resolve_right fun h => hne h.1

theorem rest_eq_cons (h : InFront w c c') {x : Char} {s : List Char} (hrest : c.rest = x :: s) :
    c'.rest = x :: (s ++ w) := by
  rw [h.rest_of_ne_nil (by simp [hrest]), hrest, List.cons_append]

theorem ne_nil (h : InFront w c c') (hne : c.rest ≠ []) : c'.rest ≠ [] := by
  simp [h.rest_of_ne_nil hne, hne]

/-- What does not depend on `w` behind the rest is the same for both cursors. -/
theorem same {α : Type} (h : InFront w c c') {f : List Char → α} (hf : ∀ s, f (s ++ w) = f s) :
    f c'.rest = f c.rest := by
  rcases h.rest with hrest | ⟨hrest, hrest'⟩
  · rw [hrest, hf]
  · rw [hrest, hrest']

/-- A test of the current character that what closes a pattern does not pass. -/
theorem test_current (h : InFront w c c') (test : Option Char → Bool) (hnone : test none = false)
    (hgroup : test (some ')') = false) (htext : test (some '$') = false) :
    test c'.rest.head? = test c.rest.head? := by
  obtain ⟨x, v, rfl, hx⟩ := h.closing.exists_eq_cons
  refine h.same (f := fun s => test s.head?) fun s => ?_
  cases s with
  | nil => rcases hx with rfl | rfl <;> simp_all
  | cons y s => rfl

theorem current_beq (h : InFront w c c') {x : Char} (hx : x ≠ ')' ∧ x ≠ '$') :
    (c'.rest.head? == some x) = (c.rest.head? == some x) :=
  h.test_current (· == some x) rfl (by simpa using hx.1.symm) (by simpa using hx.2.symm)

theorem current_bne (h : InFront w c c') {x : Char} (hx : x ≠ ')' ∧ x ≠ '$') :
    (c'.rest.head? != some x) = (c.rest.head? != some x) :=
  congrArg (!·) (h.current_beq hx)

/-- Both cursors move on in the same way. -/
theorem move (h : InFront w c c') {s s' : List Char} (hs : s' = s ++ w ∨ s = [] ∧ s' = [])
    (hle : s.length ≤ c.rest.length) (p p' : Place) :
    InFront w { c with rest := s, place := p } { c' with rest := s', place := p' } :=
  { h with rest := hs, bound := Nat.le_trans hle h.bound }

theorem setModes (h : InFront w c c') (m : Modes) :
    InFront w { c with modes := m } { c' with modes := m } := { h with modes := rfl }

end InFront

theorem ne_nil_of_current {c : Cursor} {x : Char} (h : (c.rest.head? != some x) = false) :
    c.rest ≠ [] := by
  rintro hnil
  simp [hnil] at h

variable {α β γ δ : Type}

structure Fails (m : Reader α) : Prop where
  eq_error : ∀ c, ∃ fault, m.run c = .error fault

@[simp] theorem fails_failAt (kind : FaultKind) (span : Span) (other : Option Span) :
    Fails (failAt (α := α) kind span other) := ⟨fun _ => ⟨_, rfl⟩⟩

@[simp] theorem fails_failAt_bind (kind : FaultKind) (span : Span) (other : Option Span)
    (f : γ → Reader α) : Fails (failAt kind span other >>= f) := ⟨fun _ => ⟨_, rfl⟩⟩

@[simp] theorem fails_bind {m : Reader γ} {f : γ → Reader α} (h : ∀ a, Fails (f a)) :
    Fails (m >>= f) := by
  refine ⟨fun c => ?_⟩
  rw [StateT.run_bind]
  match m.run c with
  | .error fault => exact ⟨fault, rfl⟩
  | .ok (a, d) => exact (h a).eq_error d

@[simp] theorem fails_map {m : Reader γ} (h : Fails m) (f : γ → α) : Fails (f <$> m) := by
  refine ⟨fun c => ?_⟩
  obtain ⟨fault, hfault⟩ := h.eq_error c
  exact ⟨fault, by rw [StateT.run_map, hfault]; rfl⟩

theorem failAt_bind (kind : FaultKind) (span : Span) (other : Option Span) (f : γ → Reader α) :
    failAt kind span other >>= f = failAt kind span other := rfl

theorem run_place_bind (f : Place → Reader α) (c : Cursor) :
    (place >>= f).run c = (f c.place).run c := rfl

theorem run_current_bind (f : Option Char → Reader α) (c : Cursor) :
    (current? >>= f).run c = (f c.rest.head?).run c := rfl

theorem run_rest_bind (f : List Char → Reader α) (c : Cursor) :
    (rest >>= f).run c = (f c.rest).run c := rfl

/-- Looks at the cursor and leaves it as it is. -/
structure Looks (m : Reader α) : Prop where
  eq_ok : ∀ c, ∃ a, m.run c = .ok (a, c)

theorem Looks.exists_run_of_bind {m : Reader γ} (hm : Looks m) {f : γ → Reader α} {c : Cursor}
    {x : α × Cursor} (h : (m >>= f).run c = .ok x) : ∃ a, (f a).run c = .ok x := by
  obtain ⟨a, ha⟩ := hm.eq_ok c
  rw [StateT.run_bind, ha] at h
  exact ⟨a, h⟩

theorem looks_place : Looks place := ⟨fun _ => ⟨_, rfl⟩⟩

theorem looks_here : Looks here := ⟨fun _ => ⟨_, rfl⟩⟩

theorem looks_since (first : Place) : Looks (since first) := ⟨fun _ => ⟨_, rfl⟩⟩

theorem looks_charSpan : Looks charSpan := by
  refine ⟨fun c => ?_⟩
  obtain ⟨length, _ | ⟨x, s⟩⟩ := c
  · exact ⟨_, rfl⟩
  · exact ⟨_, rfl⟩

/-- Whenever `m` succeeds from `c` and comes to a cursor of the kind asked for, `m'` succeeds from
`c'`, and the results and the cursors are as `post` says. -/
def FollowsTo (kind : Cursor → Prop) (post : α → Cursor → β → Cursor → Prop) (m : Reader α)
    (c : Cursor) (m' : Reader β) (c' : Cursor) : Prop :=
  ∀ a d, m.run c = .ok (a, d) → kind d → ∃ b d', m'.run c' = .ok (b, d') ∧ post a d b d'

abbrev Follows (post : α → Cursor → β → Cursor → Prop) (m : Reader α) (c : Cursor) (m' : Reader β)
    (c' : Cursor) : Prop :=
  FollowsTo (fun _ => True) post m c m' c'

def Both (w : List Char) (R : α → β → Prop) (a : α) (d : Cursor) (b : β) (d' : Cursor) : Prop :=
  R a b ∧ InFront w d d'

section Rules

variable {kind kind' : Cursor → Prop} {post : α → Cursor → β → Cursor → Prop}
  {mid : γ → Cursor → δ → Cursor → Prop} {c c' : Cursor}

theorem FollowsTo.ret {a : α} {b : β} (h : post a c b c') :
    FollowsTo kind post (pure a) c (pure b) c' := by
  rintro _ _ ⟨⟩ -
  exact ⟨b, c', rfl, h⟩

theorem FollowsTo.mono {post' : α → Cursor → β → Cursor → Prop} {m : Reader α} {m' : Reader β}
    (h : FollowsTo kind post m c m' c') (hpost : ∀ a d b d', post a d b d' → post' a d b d') :
    FollowsTo kind post' m c m' c' := by
  intro a d hrun hkind
  obtain ⟨b, d', hrun', h⟩ := h a d hrun hkind
  exact ⟨b, d', hrun', hpost a d b d' h⟩

/-- What follows only up to cursors of some kind is enough if the rest comes to no good from the
other ones. -/
theorem FollowsTo.bind_of_kind {m : Reader γ} {m' : Reader δ} {f : γ → Reader α} {f' : δ → Reader β}
    (h : FollowsTo kind' mid m c m' c')
    (hother : ∀ a d, ¬kind' d → ∀ r e, (f a).run d = .ok (r, e) → ¬kind e)
    (hf : ∀ a d b d', kind' d → mid a d b d' → FollowsTo kind post (f a) d (f' b) d') :
    FollowsTo kind post (m >>= f) c (m' >>= f') c' := by
  intro r e hrun hkind
  rw [StateT.run_bind] at hrun
  match hm : m.run c with
  | .error fault => rw [hm] at hrun; cases hrun
  | .ok (a, d) =>
    rw [hm] at hrun
    by_cases hd : kind' d
    · obtain ⟨b, d', hm', hmid⟩ := h a d hm hd
      obtain ⟨r', e', hrun', hpost⟩ := hf a d b d' hd hmid r e hrun hkind
      exact ⟨r', e', by rw [StateT.run_bind, hm']; exact hrun', hpost⟩
    · exact absurd hkind (hother a d hd r e hrun)

/-- What is made of a result takes nothing more of the pattern. -/
theorem FollowsTo.map {w : List Char} {R : γ → δ → Prop} {R' : α → β → Prop} {m : Reader γ}
    {m' : Reader δ} {f : γ → α} {f' : δ → β} (h : FollowsTo kind (Both w R) m c m' c')
    (hf : ∀ a b, R a b → R' (f a) (f' b)) :
    FollowsTo kind (Both w R') (m >>= fun a => pure (f a)) c (m' >>= fun b => pure (f' b)) c' := by
  refine h.bind_of_kind ?_ fun a d b d' _ ⟨hab, hd⟩ => .ret ⟨hf a b hab, hd⟩
  rintro _ _ hnot _ _ ⟨⟩
  exact hnot

theorem FollowsTo.bind {m : Reader γ} {m' : Reader δ} {f : γ → Reader α} {f' : δ → Reader β}
    (h : Follows mid m c m' c')
    (hf : ∀ a d b d', mid a d b d' → FollowsTo kind post (f a) d (f' b) d') :
    FollowsTo kind post (m >>= f) c (m' >>= f') c' :=
  FollowsTo.bind_of_kind h (fun _ _ hd => absurd trivial hd) fun a d b d' _ => hf a d b d'

theorem Fails.followsTo {m : Reader α} (h : Fails m) (m' : Reader β) :
    FollowsTo kind post m c m' c' := by
  intro a d hrun
  obtain ⟨fault, hfault⟩ := h.eq_error c
  rw [hfault] at hrun
  cases hrun

/-- A check that fails in front of more only where it fails anyway. -/
theorem FollowsTo.guard {b b' : Bool} {m n : Reader α} {m' n' : Reader β} (hm : Fails m)
    (hb : b = false → b' = false) (hn : b = false → FollowsTo kind post n c n' c') :
    FollowsTo kind post (if b = true then m else n) c (if b' = true then m' else n') c' := by
  cases b with
  | true => exact hm.followsTo _
  | false => simpa [hb rfl] using hn rfl

theorem FollowsTo.branch {b b' : Bool} {m n : Reader α} {m' n' : Reader β} (hb : b' = b)
    (hm : b = true → FollowsTo kind post m c m' c')
    (hn : b = false → FollowsTo kind post n c n' c') :
    FollowsTo kind post (if b = true then m else n) c (if b' = true then m' else n') c' := by
  cases b with
  | true => simpa [hb] using hm rfl
  | false => simpa [hb] using hn rfl

/-- Places play no part. -/
theorem FollowsTo.look {m : Reader γ} {m' : Reader δ} {f : γ → Reader α} {f' : δ → Reader β}
    (hm : Looks m) (hm' : Looks m') (h : ∀ a b, FollowsTo kind post (f a) c (f' b) c') :
    FollowsTo kind post (m >>= f) c (m' >>= f') c' := by
  obtain ⟨a, ha⟩ := hm.eq_ok c
  obtain ⟨b, hb⟩ := hm'.eq_ok c'
  intro r e hrun hkind
  rw [StateT.run_bind, ha] at hrun
  rw [StateT.run_bind, hb]
  exact h a b r e hrun hkind

theorem FollowsTo.get {f : Cursor → Reader α} {f' : Cursor → Reader β}
    (h : FollowsTo kind post (f c) c (f' c') c') :
    FollowsTo kind post (MonadState.get >>= f) c (MonadState.get >>= f') c' := h

theorem FollowsTo.set {e e' : Cursor} {f : PUnit → Reader α} {f' : PUnit → Reader β}
    (h : FollowsTo kind post (f ⟨⟩) e (f' ⟨⟩) e') :
    FollowsTo kind post (MonadStateOf.set e >>= f) c (MonadStateOf.set e' >>= f') c' := h

theorem FollowsTo.current {f : Option Char → Reader α} {f' : Option Char → Reader β}
    (h : FollowsTo kind post (f c.rest.head?) c (f' c'.rest.head?) c') :
    FollowsTo kind post (current? >>= f) c (current? >>= f') c' := h

theorem FollowsTo.rest {f : List Char → Reader α} {f' : List Char → Reader β}
    (h : FollowsTo kind post (f c.rest) c (f' c'.rest) c') :
    FollowsTo kind post (Reader.rest >>= f) c (Reader.rest >>= f') c' := h

theorem FollowsTo.modes {w : List Char} (hc : InFront w c c') {f : Modes → Reader α}
    {f' : Modes → Reader β} (h : FollowsTo kind post (f c.modes) c (f' c.modes) c') :
    FollowsTo kind post (Reader.modes >>= f) c (Reader.modes >>= f') c' := by
  have h' : FollowsTo kind post (f c.modes) c (f' c'.modes) c' := by rwa [hc.modes]
  exact h'

theorem FollowsTo.wholeLength {f : Nat → Reader α} {f' : Nat → Reader β}
    (h : FollowsTo kind post (f c.length) c (f' c'.length) c') :
    FollowsTo kind post (Reader.wholeLength >>= f) c (Reader.wholeLength >>= f') c' := h

/-- Past a check that something is left, something is. -/
theorem ne_nil_of_check {m n : List Char → Reader α} (hm : ∀ s, Fails (m s)) {x : α × Cursor}
    (h : (Reader.rest >>= fun s => if s.isEmpty = true then m s else n s).run c = .ok x) :
    c.rest ≠ [] := by
  intro hnil
  obtain ⟨fault, hfault⟩ := (hm c.rest).eq_error c
  have hrun : (if c.rest.isEmpty = true then m c.rest else n c.rest).run c = .ok x := h
  rw [if_pos (by rw [hnil]; rfl), hfault] at hrun
  cases hrun

end Rules

section Moves

variable {w : List Char} {c c' : Cursor}

/-- Both cursors have moved on, and each tells whether something is left. -/
structure Moved (w : List Char) (c : Cursor) (more : Bool) (d : Cursor) (more' : Bool)
    (d' : Cursor) : Prop where
  inFront : InFront w d d'
  more_eq : more = !d.rest.isEmpty
  more_eq' : more' = !d'.rest.isEmpty
  shorter : d.rest.length < c.rest.length

namespace Moved

variable {d d' : Cursor} {more more' : Bool}

theorem ne_nil (h : Moved w c more d more' d') (hmore : more = true) : d.rest ≠ [] := by
  have := h.more_eq
  simp_all

theorem more_of_more (h : Moved w c more d more' d') (hmore : more = true) : more' = true := by
  simpa [h.more_eq'] using h.inFront.ne_nil (h.ne_nil hmore)

theorem eq_nil (h : Moved w c more d more' d') (hmore : more = false) : d.rest = [] := by
  have := h.more_eq
  simp_all

end Moved

/-- A step that has to leave something behind it. -/
theorem FollowsTo.moving {kind : Cursor → Prop} {post : α → Cursor → β → Cursor → Prop}
    {step step' : Reader Bool} {m n : Reader α} {m' n' : Reader β}
    (hstep : Follows (Moved w c) step c step' c') (hm : Fails m)
    (hn : ∀ d d', InFront w d d' → d.rest ≠ [] → d.rest.length < c.rest.length →
      FollowsTo kind post n d n' d') :
    FollowsTo kind post (step >>= fun more => if (!more) = true then m else n) c
      (step' >>= fun more => if (!more) = true then m' else n') c' := by
  refine .bind hstep fun more d more' d' hmoved => ?_
  refine .guard hm (by simpa using hmoved.more_of_more) fun hmore => ?_
  exact hn d d' hmoved.inFront (hmoved.ne_nil (by simpa using hmore)) hmoved.shorter

theorem bump_run_nil (h : c.rest = []) : bump.run c = .ok (false, c) := by
  cases c
  cases h
  rfl

theorem bump_run_cons {x : Char} {s : List Char} (h : c.rest = x :: s) :
    bump.run c = .ok (!s.isEmpty, { c with rest := s, place := c.place.next x }) := by
  cases c
  cases h
  rfl

theorem bump_follows_tail (h : InFront w c c') (hne : c.rest ≠ []) :
    Follows (fun more d more' d' => Moved w c more d more' d' ∧ d.rest = c.rest.tail) bump c
      bump c' := by
  obtain ⟨x, s, hrest⟩ := List.exists_cons_of_ne_nil hne
  rintro _ _ hrun -
  rw [bump_run_cons hrest] at hrun
  cases hrun
  have hlt : s.length < c.rest.length := by simp [hrest]
  have hfront := h.move (.inl rfl) (Nat.le_of_lt hlt) (c.place.next x) (c'.place.next x)
  exact ⟨_, _, bump_run_cons (h.rest_eq_cons hrest), ⟨hfront, rfl, rfl, hlt⟩, by simp [hrest]⟩

theorem bump_follows (h : InFront w c c') (hne : c.rest ≠ []) :
    Follows (Moved w c) bump c bump c' :=
  (bump_follows_tail h hne).mono fun _ _ _ _ hmoved => hmoved.1

theorem length_skipVerbose_le (comment : Bool) (s : List Char) (p : Place) :
    (skipVerbose comment s p).1.length ≤ s.length := by
  induction s generalizing comment p with
  | nil => simp [skipVerbose]
  | cons x s ih =>
    cases comment with
    | true => exact Nat.le_succ_of_le (ih _ _)
    | false =>
      simp only [skipVerbose]
      split
      · exact Nat.le_succ_of_le (ih _ _)
      · split
        · exact Nat.le_succ_of_le (ih _ _)
        · simp

/-- Space ends in front of what closes a pattern, and a comment reaches over it. -/
theorem skipVerbose_closing (hw : Closing w) (comment : Bool) (p : Place) :
    (skipVerbose comment w p).1 = if comment then [] else w := by
  have hgroup : Text.isBlank ')' = false := by decide
  have htext : Text.isBlank '$' = false := by decide
  cases hw <;> cases comment <;> simp [skipVerbose, hgroup, htext]

theorem skipVerbose_append (hw : Closing w) (comment : Bool) (s : List Char) (p p' : Place) :
    (skipVerbose comment (s ++ w) p').1 = (skipVerbose comment s p).1 ++ w ∨
      (skipVerbose comment s p).1 = [] ∧ (skipVerbose comment (s ++ w) p').1 = [] := by
  induction s generalizing comment p p' with
  | nil => cases comment <;> simp [skipVerbose, skipVerbose_closing hw]
  | cons x s ih =>
    cases comment with
    | true => exact ih _ _ _
    | false =>
      simp only [List.cons_append, skipVerbose]
      split
      · exact ih _ _ _
      · split
        · exact ih _ _ _
        · exact .inl rfl

theorem skipSpace_run (c : Cursor) :
    skipSpace.run c = .ok ((), if c.modes.verbose then
      { c with rest := (skipVerbose false c.rest c.place).1
               place := (skipVerbose false c.rest c.place).2 } else c) := by
  change StateT.run (if c.modes.verbose = true then _ else _) c = _
  split <;> rfl

theorem skipSpace_run_nil (h : c.rest = []) : skipSpace.run c = .ok ((), c) := by
  rw [skipSpace_run, h, skipVerbose, ← h]
  split <;> rfl

theorem skipSpace_follows (h : InFront w c c') :
    Follows (fun _ d _ d' => InFront w d d' ∧ d.rest.length ≤ c.rest.length) skipSpace c
      skipSpace c' := by
  rintro ⟨⟩ d hrun -
  rw [skipSpace_run] at hrun
  cases hrun
  refine ⟨(), _, skipSpace_run c', ?_⟩
  have hmodes := h.modes
  cases hverbose : c.modes.verbose with
  | false => simpa [hmodes, hverbose] using h
  | true =>
    have hskip : (skipVerbose false c'.rest c'.place).1 =
          (skipVerbose false c.rest c.place).1 ++ w ∨
        (skipVerbose false c.rest c.place).1 = [] ∧
          (skipVerbose false c'.rest c'.place).1 = [] := by
      rcases h.rest with hrest | ⟨hrest, hrest'⟩
      · rw [hrest]
        exact skipVerbose_append h.closing _ _ _ _
      · rw [hrest, hrest']
        exact .inr ⟨rfl, rfl⟩
    have hle := length_skipVerbose_le false c.rest c.place
    simpa [hmodes, hverbose] using And.intro (h.move hskip hle _ _) hle

/-- What does nothing at the end need not be kept from it. -/
theorem bump_then {m n : Reader α} (h : ∀ d, d.rest = [] → m.run d = n.run d) :
    (do if ← bump then m else n) = (do let _ ← bump; m) := by
  refine StateT.ext fun c => ?_
  rcases hrest : c.rest with _ | ⟨x, s⟩
  · rw [StateT.run_bind, StateT.run_bind, bump_run_nil hrest]
    exact (h c hrest).symm
  · rw [StateT.run_bind, StateT.run_bind, bump_run_cons hrest]
    cases s with
    | nil => exact (h _ rfl).symm
    | cons y s => rfl

theorem bumpSpace_eq :
    bumpSpace = (do let _ ← bump; skipSpace; return !(← Reader.rest).isEmpty) := by
  refine bump_then fun d hnil => ?_
  rw [StateT.run_bind, skipSpace_run_nil hnil]
  change Except.ok (!d.rest.isEmpty, d) = Except.ok (false, d)
  rw [hnil]
  rfl

theorem bumpSpace_follows (h : InFront w c c') (hne : c.rest ≠ []) :
    Follows (Moved w c) bumpSpace c bumpSpace c' := by
  rw [bumpSpace_eq]
  refine .bind (bump_follows h hne) fun _ d _ d' hmoved => ?_
  refine .bind (skipSpace_follows hmoved.inFront) fun _ e _ e' ⟨he, hle⟩ => ?_
  exact .rest (.ret ⟨he, rfl, rfl, Nat.lt_of_le_of_lt hle hmoved.shorter⟩)

theorem skip_follows (h : InFront w c c') {count : Nat} (hcount : count ≤ c.rest.length) :
    Follows (fun _ d _ d' => InFront w d d') (skip count) c (skip count) c' := by
  induction count generalizing c c' with
  | zero => exact .ret h
  | succ count ih =>
    have hne : c.rest ≠ [] := List.ne_nil_of_length_pos (by omega)
    refine .bind (bump_follows_tail h hne) fun _ d _ d' ⟨hmoved, htail⟩ => ?_
    exact ih hmoved.inFront (by simp [htail]; omega)

theorem isPrefixOf_append {word : List Char} {x : Char} (hx : x ∉ word) (s v : List Char) :
    word.isPrefixOf (s ++ x :: v) = word.isPrefixOf s := by
  induction word generalizing s with
  | nil => simp
  | cons y word ih =>
    cases s with
    | nil =>
      have hy : ¬y = x := fun h => hx (by simp [h])
      simp [List.isPrefixOf, hy]
    | cons z s => simp [List.isPrefixOf, ih (fun h => hx (by simp [h]))]

theorem length_le_of_isPrefixOf {word s : List Char} (h : word.isPrefixOf s = true) :
    word.length ≤ s.length :=
  (List.isPrefixOf_iff_prefix.1 h).length_le

theorem accept_follows (h : InFront w c c') {word : String} (hgroup : ')' ∉ word.toList)
    (htext : '$' ∉ word.toList) :
    Follows (Both w Eq) (accept word) c (accept word) c' := by
  have hsame : word.toList.isPrefixOf c'.rest = word.toList.isPrefixOf c.rest := by
    obtain ⟨x, v, rfl, hx⟩ := h.closing.exists_eq_cons
    exact h.same fun s => isPrefixOf_append (by rcases hx with rfl | rfl <;> assumption) s v
  unfold accept
  refine .rest (.branch hsame (fun hword => ?_) fun _ => .ret ⟨rfl, h⟩)
  have hlength : word.length ≤ c.rest.length := by
    rw [← String.length_toList]
    exact length_le_of_isPrefixOf hword
  exact .bind (skip_follows h hlength) fun _ d _ d' hd => .ret ⟨rfl, hd⟩

theorem collect_run_stop {keep : Char → Bool} (h : c.rest.head?.any keep = false) (count : Nat) :
    (collect keep count).run c = .ok ([], c) := by
  cases count with
  | zero => rfl
  | succ count =>
    rw [collect, run_current_bind]
    cases hhead : c.rest.head? with
    | none => rfl
    | some x =>
      have hx : keep x = false := by simpa [hhead] using h
      simp only [hx]
      rfl

/-- Characters that what closes a pattern begins with are not collected. -/
theorem collect_follows {keep : Char → Bool} (hgroup : keep ')' = false) (htext : keep '$' = false)
    {count count' : Nat} (h : InFront w c c') (hcount : c.rest.length ≤ count)
    (hle : count ≤ count') :
    Follows (Both w Eq) (collect keep count) c (collect keep count') c' := by
  have hcurrent : c'.rest.head?.any keep = c.rest.head?.any keep :=
    h.test_current (fun x => x.any keep) rfl hgroup htext
  induction count generalizing count' c c' with
  | zero =>
    have hstop : c.rest.head?.any keep = false := by
      simp [List.eq_nil_of_length_eq_zero (Nat.le_zero.1 hcount)]
    rintro _ _ ⟨⟩ -
    exact ⟨[], c', collect_run_stop (hcurrent.trans hstop) count', rfl, h⟩
  | succ count ih =>
    cases hkeep : c.rest.head?.any keep with
    | false =>
      rintro _ _ hrun -
      rw [collect_run_stop hkeep] at hrun
      cases hrun
      exact ⟨[], c', collect_run_stop (hcurrent.trans hkeep) count', rfl, h⟩
    | true =>
      obtain ⟨count', rfl⟩ : ∃ n, count' = n + 1 := ⟨count' - 1, by omega⟩
      rcases hrest : c.rest with _ | ⟨x, s⟩
      · simp [hrest] at hkeep
      have hx : keep x = true := by simpa [hrest] using hkeep
      unfold collect
      refine .current ?_
      simp only [hrest, h.rest_eq_cons hrest, List.head?_cons, hx, if_true]
      refine .bind (bumpSpace_follows h (by simp [hrest])) fun _ d _ d' hmoved => ?_
      have hd : d.rest.length ≤ count := by have := hmoved.shorter; omega
      have hd' : d'.rest.head?.any keep = d.rest.head?.any keep :=
        hmoved.inFront.test_current (fun x => x.any keep) rfl hgroup htext
      refine .bind (ih hmoved.inFront hd (by omega) hd') fun _ e _ e' ⟨hresult, he⟩ => ?_
      exact .ret ⟨by rw [hresult], he⟩

theorem collectWhile_follows {keep : Char → Bool} (hgroup : keep ')' = false)
    (htext : keep '$' = false) (h : InFront w c c') :
    Follows (Both w Eq) (collectWhile keep) c (collectWhile keep) c' :=
  .wholeLength (collect_follows hgroup htext h h.bound h.length)

theorem misused_follows (h : InFront w c c') (kind : FaultKind) (span span' : Span) :
    Follows (fun _ d _ d' => InFront w d d') (misused kind span) c (misused kind span') c' := by
  rintro _ _ ⟨⟩ -
  refine ⟨(), _, rfl, { h with misuse := ?_ }⟩
  have hmisuse := h.misuse
  cases hc : c.misuse <;> cases hc' : c'.misuse <;> simp_all

end Moves

end Reader

end JsonRules.Pattern
