import JsonRules.Pattern.Escape
import JsonRules.Proofs.Pattern.Closing.Basic

namespace JsonRules.Pattern.Reader

variable {w : List Char} {c c' : Cursor}

theorem complementIf_follows (h : InFront w c c') (negated : Bool) (span span' : Span)
    (a : CharClass) :
    Follows (Both w Eq) (complementIf negated span a) c (complementIf negated span' a) c' := by
  unfold complementIf
  refine .branch rfl (fun _ => ?_) fun _ => .ret ⟨rfl, h⟩
  refine .modes h (.branch rfl (fun _ => ?_) fun _ => .ret ⟨rfl, h⟩)
  exact .bind (misused_follows h _ _ _) fun _ d _ d' hd => .ret ⟨rfl, hd⟩

theorem scalarOf_follows (h : InFront w c c') (digits : List Nat) (span span' : Span) :
    Follows (Both w Eq) (scalarOf digits span) c (scalarOf digits span') c' := by
  unfold scalarOf
  split
  · exact .ret ⟨rfl, h⟩
  · exact Fails.followsTo (by simp) _

/-- A digit is there already, and is not passed over. -/
theorem hexDigit_follows (h : InFront w c c') :
    Follows (fun a d b d' => b = a ∧ d = c ∧ d' = c' ∧ c.rest ≠ []) hexDigit c hexDigit c' := by
  unfold hexDigit
  refine .current ?_
  rcases hrest : c.rest with _ | ⟨x, s⟩
  · exact Fails.followsTo (by simp) _
  · rw [h.rest_eq_cons hrest]
    simp only [List.head?_cons, Option.bind_some]
    cases Text.hexDigit? x with
    | some d => exact .ret ⟨rfl, rfl, rfl, by simp⟩
    | none => exact Fails.followsTo (by simp) _

theorem hexDigits_follows (h : InFront w c c') (hne : c.rest ≠ []) (count : Nat) :
    Follows (fun a d b d' => b = a ∧ InFront w d d' ∧ d.rest ≠ []) (hexDigits count) c
      (hexDigits count) c' := by
  induction count generalizing c c' with
  | zero => exact .ret ⟨rfl, h, hne⟩
  | succ count ih =>
    unfold hexDigits
    refine .moving (bumpSpace_follows h hne) (by simp) fun d d' hd _ _ => ?_
    refine .bind (hexDigit_follows hd) ?_
    rintro digit _ _ _ ⟨rfl, rfl, rfl, hne⟩
    refine .bind (ih hd hne) ?_
    rintro digits e _ e' ⟨rfl, he, hne⟩
    exact .ret ⟨rfl, he, hne⟩

/-- Without its closing brace a number follows only as far as the pattern goes on. -/
theorem bracedDigits_follows (h : InFront w c c') (hne : c.rest ≠ []) {count count' : Nat}
    (hcount : c.rest.length ≤ count) (hle : count ≤ count') :
    FollowsTo (fun d => d.rest ≠ []) (Both w Eq) (bracedDigits count) c
      (bracedDigits count') c' := by
  induction count generalizing count' c c' with
  | zero => exact absurd (List.eq_nil_of_length_eq_zero (Nat.le_zero.1 hcount)) hne
  | succ count ih =>
    obtain ⟨count', rfl⟩ : ∃ n, count' = n + 1 := ⟨count' - 1, by omega⟩
    unfold bracedDigits
    refine .bind (bumpSpace_follows h hne) fun more d more' d' hmoved => ?_
    cases hmore : more with
    | false =>
      rintro _ _ ⟨⟩ hd
      exact absurd (hmoved.eq_nil hmore) hd
    | true =>
      rw [hmoved.more_of_more hmore]
      simp only [if_true]
      have hclose := hmoved.inFront.current_beq (x := '\x7d') (by decide)
      refine .current (.branch hclose (fun _ => .ret ⟨rfl, hmoved.inFront⟩) fun _ => ?_)
      refine .bind (hexDigit_follows hmoved.inFront) ?_
      rintro digit _ _ _ ⟨rfl, rfl, rfl, hd⟩
      have := hmoved.shorter
      exact .map (ih hmoved.inFront hd (by omega) (by omega)) (by simp)

theorem codePoint_follows (h : InFront w c c') (hne : c.rest ≠ []) (length : Nat) :
    Follows (Both w Eq) (codePoint length) c (codePoint length) c' := by
  unfold codePoint
  refine .moving (bumpSpace_follows h hne) (by simp) fun d d' hd hne _ => ?_
  refine .look looks_place looks_place fun first first' => ?_
  have hbrace := hd.current_beq (x := '\x7b') (by decide)
  refine .current (.branch hbrace (fun _ => ?_) fun _ => ?_)
  · refine .look looks_charSpan looks_charSpan fun span span' => ?_
    refine .wholeLength (.bind_of_kind (bracedDigits_follows hd hne hd.bound hd.length) ?_ ?_)
    · -- A pattern that ends inside the braces is refused.
      intro digits e he r i hrun
      exact absurd (ne_nil_of_check (by simp) hrun) he
    · rintro digits e _ e' he ⟨rfl, hfront⟩
      refine .rest (.guard (by simp) (by simpa using hfront.ne_nil) fun _ => ?_)
      refine .look (looks_since _) (looks_since _) fun inside inside' => ?_
      refine .bind (bumpSpace_follows hfront he) fun _ g _ g' hmoved => ?_
      refine .guard (by simp) id fun _ => ?_
      exact .map (scalarOf_follows hmoved.inFront _ _ _) (by simp)
  · refine .bind (hexDigit_follows hd) ?_
    rintro digit _ _ _ ⟨rfl, rfl, rfl, -⟩
    refine .bind (hexDigits_follows hd hne _) ?_
    rintro digits e _ e' ⟨rfl, he, hne⟩
    refine .bind (bumpSpace_follows he hne) fun _ g _ g' hmoved => ?_
    refine .look (looks_since _) (looks_since _) fun span span' => ?_
    exact .map (scalarOf_follows hmoved.inFront _ _ _) (by simp)

theorem wordEdge_follows (h : InFront w c c') (first first' : Place) :
    Follows (Both w Eq) (wordEdge first) c (wordEdge first') c' := by
  unfold wordEdge
  refine .current (.branch (h.current_bne (by decide)) (fun _ => .ret ⟨rfl, h⟩) fun hopen => ?_)
  have hne : c.rest ≠ [] := ne_nil_of_current hopen
  refine .get (.moving (bumpSpace_follows h hne) (by simp) fun d d' hd _ _ => ?_)
  refine .look looks_place looks_place fun inside inside' => ?_
  have hname := congrArg (!·) (hd.test_current (fun x => x.any isNameLetter) rfl rfl rfl)
  refine .current (.branch hname (fun _ => .set (.ret ⟨rfl, h⟩)) fun _ => ?_)
  refine .bind (collectWhile_follows rfl rfl hd) ?_
  rintro name e _ e' ⟨rfl, he⟩
  have hclose := he.current_bne (x := '\x7d') (by decide)
  refine .current (.guard (by simp) hclose.trans fun hend => ?_)
  have hne : e.rest ≠ [] := ne_nil_of_current hend
  refine .look (looks_since _) (looks_since _) fun span span' => ?_
  refine .bind (bump_follows he hne) fun _ g _ g' hmoved => ?_
  split
  · exact .ret ⟨rfl, hmoved.inFront⟩
  · exact Fails.followsTo (by simp) _

theorem bracedName_follows (h : InFront w c c') (hne : c.rest ≠ []) {count count' : Nat}
    (hcount : c.rest.length ≤ count) (hle : count ≤ count') :
    FollowsTo (fun d => d.rest ≠ []) (Both w Eq) (bracedName count) c (bracedName count') c' := by
  induction count generalizing count' c c' with
  | zero => exact absurd (List.eq_nil_of_length_eq_zero (Nat.le_zero.1 hcount)) hne
  | succ count ih =>
    obtain ⟨count', rfl⟩ : ∃ n, count' = n + 1 := ⟨count' - 1, by omega⟩
    unfold bracedName
    refine .bind (bumpSpace_follows h hne) fun more d more' d' hmoved => ?_
    cases hmore : more with
    | false =>
      rintro _ _ ⟨⟩ hd
      exact absurd (hmoved.eq_nil hmore) hd
    | true =>
      rw [hmoved.more_of_more hmore]
      simp only [if_true]
      have hd : d.rest ≠ [] := hmoved.ne_nil hmore
      have := hmoved.shorter
      obtain ⟨x, s, hrest⟩ := List.exists_cons_of_ne_nil hd
      refine .current ?_
      rw [hrest, hmoved.inFront.rest_eq_cons hrest]
      simp only [List.head?_cons]
      split
      · exact .ret ⟨rfl, hmoved.inFront⟩
      · exact .map (ih hmoved.inFront hd (by omega) (by omega)) (by simp)
      · exact .ret ⟨rfl, hmoved.inFront⟩

theorem propertyName_follows (h : InFront w c c') (hne : c.rest ≠ []) :
    Follows (Both w Eq) propertyName c propertyName c' := by
  unfold propertyName
  refine .moving (bumpSpace_follows h hne) (by simp) fun d d' hd hne _ => ?_
  obtain ⟨x, s, hrest⟩ := List.exists_cons_of_ne_nil hne
  refine .current ?_
  rw [hrest, hd.rest_eq_cons hrest]
  simp only [List.head?_cons]
  split
  · refine .wholeLength (.bind_of_kind (bracedName_follows hd hne hd.bound hd.length) ?_ ?_)
    · intro name e he r i hrun
      exact absurd (ne_nil_of_check (by simp) hrun) he
    · rintro name e _ e' he ⟨rfl, hfront⟩
      refine .rest (.guard (by simp) (by simpa using hfront.ne_nil) fun _ => ?_)
      exact .bind (bump_follows hfront he) fun _ g _ g' hmoved => .ret ⟨rfl, hmoved.inFront⟩
  · exact Fails.followsTo (by simp) _
  · exact .bind (bumpSpace_follows hd hne) fun _ e _ e' he => .ret ⟨rfl, he.inFront⟩

theorem property_follows (h : InFront w c c') (hne : c.rest ≠ []) (first first' : Place)
    (negated : Bool) :
    Follows (Both w Eq) (property first negated) c (property first' negated) c' := by
  unfold property
  refine .bind (propertyName_follows h hne) ?_
  rintro name d _ d' ⟨rfl, hd⟩
  refine .look (looks_since _) (looks_since _) fun span span' => ?_
  refine .modes hd (.branch rfl (fun _ => ?_) fun _ => ?_)
  · exact .bind (misused_follows hd _ _ _) fun _ e _ e' he => .ret ⟨rfl, he⟩
  · split
    · exact complementIf_follows hd _ _ _ _
    · exact .bind (misused_follows hd _ _ _) fun _ e _ e' he => .ret ⟨rfl, he⟩
    · exact .bind (misused_follows hd _ _ _) fun _ e _ e' he => .ret ⟨rfl, he⟩

theorem escape_follows (h : InFront w c c') (hne : c.rest ≠ []) :
    Follows (Both w fun a b => b.1 = a.1) escape c escape c' := by
  unfold escape
  refine .look looks_place looks_place fun first first' => ?_
  refine .moving (bump_follows h hne) (by simp) fun d d' hd hne _ => ?_
  obtain ⟨x, s, hrest⟩ := List.exists_cons_of_ne_nil hne
  refine .current ?_
  rw [hrest, hd.rest_eq_cons hrest]
  simp only [List.head?_cons, Option.getD_some]
  refine .guard (by simp) id fun _ => ?_
  have hpoint (length : Nat) :
      Follows (Both w fun a b => b.1 = a.1)
        (do return (← codePoint length, ← since first)) d
        (do return (← codePoint length, ← since first')) d' := by
    refine .bind (codePoint_follows hd hne length) ?_
    rintro a e _ e' ⟨rfl, he⟩
    exact .look (looks_since _) (looks_since _) fun _ _ => .ret ⟨rfl, he⟩
  refine .branch rfl (fun _ => hpoint 2) fun _ => ?_
  refine .branch rfl (fun _ => hpoint 4) fun _ => ?_
  refine .branch rfl (fun _ => hpoint 8) fun _ => ?_
  refine .branch rfl (fun _ => ?_) fun _ => ?_
  · refine .bind (property_follows hd hne _ _ _) ?_
    rintro a e _ e' ⟨rfl, he⟩
    exact .look (looks_since _) (looks_since _) fun _ _ => .ret ⟨rfl, he⟩
  refine .modes hd (.bind (bump_follows hd hne) fun _ e _ e' hmoved => ?_)
  have he := hmoved.inFront
  refine .branch rfl (fun _ => ?_) fun _ => ?_
  · refine .bind (wordEdge_follows he _ _) ?_
    rintro a i _ i' ⟨rfl, hi⟩
    exact .look (looks_since _) (looks_since _) fun _ _ => .ret ⟨rfl, hi⟩
  refine .look (looks_since _) (looks_since _) fun span span' => ?_
  refine .branch rfl (fun _ => .ret ⟨rfl, he⟩) fun _ => ?_
  split
  · exact .map (complementIf_follows he _ _ _ _) (by simp)
  · split
    · exact .ret ⟨rfl, he⟩
    · split
      all_goals first
        | exact .ret ⟨rfl, he⟩
        | exact Fails.followsTo (by simp) _

end JsonRules.Pattern.Reader
