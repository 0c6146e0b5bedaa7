import JsonRules.Pattern.Reader
import JsonRules.Proofs.Pattern.Closing.Basic

namespace JsonRules.Pattern.Reader

variable {w : List Char} {c c' : Cursor}

/-- Whether a list has an entry for a key depends on its keys only. -/
theorem isSome_lookup_congr {α β : Type} [BEq α] {l l' : List (α × β)}
    (h : l'.map Prod.fst = l.map Prod.fst) (a : α) :
    (l'.lookup a).isSome = (l.lookup a).isSome := by
  induction l generalizing l' with
  | nil => simp_all
  | cons x l ih =>
    obtain ⟨z, b'⟩ := x
    obtain ⟨⟨y, b⟩, l', rfl, rfl, htail⟩ := List.map_eq_cons_iff.1 h
    simp only [List.lookup_cons]
    split
    · rfl
    · exact ih htail

theorem flags_follows (h : InFront w c c') {read read' : List (Char × Span)}
    (hread : read'.map Prod.fst = read.map Prod.fst) {steps steps' : Nat} (hle : steps ≤ steps') :
    Follows (fun a d b d' => b = a ∧ InFront w d d' ∧ d.rest ≠ []) (flags read steps) c
      (flags read' steps') c' := by
  induction steps generalizing steps' c c' read read' with
  | zero => exact Fails.followsTo (fails_bind fun _ => fails_failAt ..) _
  | succ steps ih =>
    obtain ⟨steps', rfl⟩ : ∃ n, steps' = n + 1 := ⟨steps' - 1, by omega⟩
    unfold flags
    refine .current ?_
    rcases hrest : c.rest with _ | ⟨x, s⟩
    · exact Fails.followsTo (by simp) _
    have hne : c.rest ≠ [] := by simp [hrest]
    rw [h.rest_eq_cons hrest]
    simp only [List.head?_cons]
    refine .branch rfl (fun _ => ?_) fun _ => ?_
    · cases read with
      | nil =>
        obtain rfl : read' = [] := by simpa using hread
        exact .ret ⟨rfl, h, hne⟩
      | cons y read =>
        obtain ⟨⟨z, span'⟩, read', rfl, hz, htail⟩ := List.map_eq_cons_iff.1 hread
        obtain ⟨_, span⟩ := y
        cases hz
        split
        · exact (fails_failAt ..).followsTo _
        · rename_i hlast
          split
          · rename_i heq
            cases heq
            exact absurd rfl (hlast span read)
          · exact .ret ⟨by rw [hread], h, hne⟩
    · refine .look looks_charSpan looks_charSpan fun span span' => ?_
      refine .guard (by simp) id fun _ => ?_
      have hlookup := isSome_lookup_congr hread x
      cases hx : read.lookup x with
      | some earlier => exact (fails_failAt_bind ..).followsTo _
      | none =>
        have hx' : read'.lookup x = none := by simpa [hx] using hlookup
        rw [hx']
        exact .moving (bump_follows h hne) (by simp) fun _ _ hd _ _ =>
          ih hd (by simp [hread]) (by omega)

theorem nameChars_follows (h : InFront w c c') (isFirst : Bool) {count count' : Nat}
    (hcount : c.rest.length ≤ count) (hle : count ≤ count') :
    FollowsTo (fun d => d.rest ≠ []) (Both w Eq) (nameChars isFirst count) c
      (nameChars isFirst count') c' := by
  induction count generalizing count' c c' isFirst with
  | zero =>
    rintro _ _ ⟨⟩ hne
    exact absurd (List.eq_nil_of_length_eq_zero (Nat.le_zero.1 hcount)) hne
  | succ count ih =>
    obtain ⟨count', rfl⟩ : ∃ n, count' = n + 1 := ⟨count' - 1, by omega⟩
    unfold nameChars
    refine .current ?_
    rcases hrest : c.rest with _ | ⟨x, s⟩
    · rintro _ _ ⟨⟩ hne
      exact absurd hrest hne
    have hne : c.rest ≠ [] := by simp [hrest]
    rw [h.rest_eq_cons hrest]
    simp only [List.head?_cons]
    split
    · contradiction
    · exact .ret ⟨rfl, h⟩
    · rename_i y _ hy
      refine .guard (by simp) id fun _ => ?_
      refine .bind (bump_follows h hne) fun more d more' d' hmoved => ?_
      have := hmoved.shorter
      cases hmore : more with
      | false =>
        rintro _ _ ⟨⟩ hd
        exact absurd (hmoved.eq_nil hmore) hd
      | true =>
        rw [hmoved.more_of_more hmore]
        exact .map (ih hmoved.inFront false (by omega) (by omega)) (by simp)

theorem groupName_follows (h : InFront w c c') :
    Follows (fun _ d _ d' => InFront w d d') groupName c groupName c' := by
  unfold groupName
  refine .look looks_place looks_place fun first first' => .wholeLength ?_
  refine .bind_of_kind (nameChars_follows h true h.bound h.length) ?_ ?_
  · intro name d hd r e hrun
    obtain ⟨span, hrun⟩ := (looks_since first).exists_run_of_bind hrun
    exact absurd (ne_nil_of_check (by simp) hrun) hd
  rintro name d _ d' hne ⟨rfl, hd⟩
  refine .look (looks_since _) (looks_since _) fun span span' => ?_
  refine .rest (.guard (by simp) (by simpa using hd.ne_nil) fun _ => ?_)
  refine .bind (bump_follows hd hne) fun _ e _ e' hmoved => ?_
  refine .guard (by simp) id fun _ => ?_
  have he := hmoved.inFront
  refine .get ?_
  have hlookup := isSome_lookup_congr he.names (String.ofList name)
  cases hname : e.names.lookup (String.ofList name) with
  | some earlier => exact (fails_failAt_bind ..).followsTo _
  | none =>
    have hname' : e'.names.lookup (String.ofList name) = none := by simpa [hname] using hlookup
    rw [hname']
    rintro _ _ ⟨⟩ -
    exact ⟨(), _, rfl, { he with names := by simp [he.names] }⟩

def Opening.forget : Opening → Option Bool × Modes
  | switch m => (none, m)
  | group _ captures m => (some captures, m)

theorem orM_follows {m n m' n' : Reader Bool} (hm : Follows (Both w Eq) m c m' c')
    (hn : ∀ d d', InFront w d d' → Follows (Both w Eq) n d n' d') :
    Follows (Both w Eq) (m <||> n) c (m' <||> n') c' := by
  refine .bind hm ?_
  rintro a d _ d' ⟨rfl, hd⟩
  cases a with
  | true => exact .ret ⟨rfl, hd⟩
  | false => exact hn d d' hd

theorem openGroup_follows (h : InFront w c c') (hne : c.rest ≠ []) :
    Follows (Both w fun a b => b.forget = a.forget) openGroup c openGroup c' := by
  unfold openGroup
  refine .look looks_charSpan looks_charSpan fun opening opening' => ?_
  refine .bind (bump_follows h hne) fun _ d _ d' hmoved => ?_
  refine .bind (skipSpace_follows hmoved.inFront) fun _ e _ e' ⟨he, _⟩ => ?_
  have haccept {word : String} (hgroup : ')' ∉ word.toList) (htext : '$' ∉ word.toList)
      (d d' : Cursor) (hd : InFront w d d') :
      Follows (Both w Eq) (accept word) d (accept word) d' := accept_follows hd hgroup htext
  refine .bind (orM_follows (haccept (by decide) (by decide) e e' he) fun _ _ h =>
    orM_follows (haccept (by decide) (by decide) _ _ h) fun _ _ h =>
    orM_follows (haccept (by decide) (by decide) _ _ h) (haccept (by decide) (by decide))) ?_
  rintro ahead f _ f' ⟨rfl, hf⟩
  refine .guard (by simp) id fun _ => .look looks_here looks_here fun inside inside' => ?_
  refine .bind (orM_follows (haccept (by decide) (by decide) f f' hf)
    (haccept (by decide) (by decide))) ?_
  rintro named g _ g' ⟨rfl, hg⟩
  refine .branch rfl (fun _ => ?_) fun _ => ?_
  · refine .bind (groupName_follows hg) fun _ i _ i' hi => ?_
    exact .modes hi (.ret ⟨rfl, hi⟩)
  refine .bind (haccept (by decide) (by decide) g g' hg) ?_
  rintro question i _ i' ⟨rfl, hi⟩
  refine .branch rfl (fun _ => ?_) fun _ => .modes hi (.ret ⟨rfl, hi⟩)
  refine .rest (.guard (by simp) (by simpa using hi.ne_nil) fun _ => .wholeLength ?_)
  refine .bind (flags_follows hi rfl hi.length) ?_
  rintro switches j _ j' ⟨rfl, hj, hne⟩
  obtain ⟨x, s, hrest⟩ := List.exists_cons_of_ne_nil hne
  refine .current ?_
  rw [hrest, hj.rest_eq_cons hrest]
  refine .bind (bump_follows hj hne) fun _ k _ k' hmoved => .modes hmoved.inFront ?_
  refine .branch rfl (fun _ => ?_) fun _ => .ret ⟨rfl, hmoved.inFront⟩
  exact .guard (by simp) id fun _ => .ret ⟨rfl, hmoved.inFront⟩

end JsonRules.Pattern.Reader
