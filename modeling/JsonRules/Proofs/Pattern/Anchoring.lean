import JsonRules.Except
import JsonRules.Proofs.Pattern.Closing.Parts

namespace JsonRules.Pattern

namespace Reader

def startOf (text : String) : Cursor := { length := text.toList.length, rest := text.toList }

def readAll (text : String) : Except Fault (Read × Cursor) :=
  (parts (.begin .start) [] (text.toList.length + 1)).run (startOf text)

theorem ofText_eq_ok_iff {text : String} {t : Tree} :
    Tree.ofText text = .ok t ↔ ∃ r e, readAll text = .ok (r, e) ∧
      r.levels.length ≤ depthLimit ∧ e.misuse = none ∧ r.tree = t := by
  have htooDeep (r : Read) : r.levels.tooDeep? = none ↔ r.levels.length ≤ depthLimit :=
    List.getElem?_eq_none_iff
  unfold Tree.ofText
  change (readAll text >>= _) = _ ↔ _
  rw [Except.bind_eq_ok_iff]
  constructor
  · rintro ⟨⟨r, e⟩, hread, h⟩
    cases hdeep : r.levels.tooDeep? with
    | some span => simp only [hdeep] at h; cases h
    | none =>
      cases hmisuse : e.misuse with
      | some fault => simp only [hdeep, hmisuse] at h; cases h
      | none =>
        simp only [hdeep, hmisuse] at h
        exact ⟨r, e, hread, (htooDeep r).1 hdeep, hmisuse, Except.ok.inj h⟩
  · rintro ⟨r, e, hread, hlevels, hmisuse, rfl⟩
    refine ⟨(r, e), hread, ?_⟩
    simp only [(htooDeep r).2 hlevels, hmisuse]
    rfl

end Reader

def depth (text : String) : Nat :=
  match Reader.readAll text with
  | .ok (r, _) => r.levels.length
  | .error _ => 0

/-- A pattern ends in a comment if even a parenthesis that closes nothing can stand behind it. -/
def EndsInComment (text : String) : Prop := ∃ t, Tree.ofText (text ++ ")") = .ok t

namespace Reader

def anchorShape : GroupShape := (false, ([], [(some (.condition .textStart), 0)]), {})

theorem run_opening (length : Nat) (s : List Char) :
    ∃ t d,
      Run ⟨.begin .start, []⟩ { length := length + 1, rest := '^' :: '(' :: '?' :: ':' :: s } t d
        2 ∧
      t.choice.forget = ([], []) ∧ t.outer.map OpenGroup.forget = [anchorShape] ∧
      ∃ p, d = { length := length + 1, rest := s, place := p } := by
  refine ⟨_, _, .step rfl (by simp) rfl (.step rfl (by simp) rfl (.refl _ _)), rfl, rfl, _, rfl⟩

theorem part_dollar (s : Progress) {c : Cursor} (hrest : c.rest = ['$']) :
    ∃ i d, (part s).run c = .ok ({ s with choice := s.choice.insert i }, d) ∧ d.rest = [] ∧
      d.modes = c.modes ∧ d.misuse = c.misuse ∧ i.forget = (some (.condition
        (if c.modes.manyLines then .lineEnd c.modes.crlf else .textEnd)), 0) := by
  obtain ⟨length, rest, place, modes, names, misuse⟩ := c
  obtain rfl : rest = ['$'] := hrest
  exact ⟨_, _, rfl, rfl, rfl, rfl, rfl⟩

theorem part_parenthesis {s : Progress} {g : OpenGroup} (houter : s.outer = [g]) {c : Cursor}
    (hrest : c.rest = [')', '$']) :
    ∃ i d, (part s).run c = .ok (⟨g.outer.insert i, []⟩, d) ∧ d.rest = ['$'] ∧
      d.modes = g.modes ∧ d.misuse = c.misuse ∧
      i.forget = (some (.group g.captures (s.choice.read c.place).tree),
        (s.choice.read c.place).levels.length + 1) := by
  obtain ⟨a, outer⟩ := s
  obtain rfl : outer = [g] := houter
  obtain ⟨length, rest, place, modes, names, misuse⟩ := c
  obtain rfl : rest = [')', '$'] := hrest
  exact ⟨_, _, rfl, rfl, rfl, rfl, rfl⟩

theorem part_unopened {s : Progress} (houter : s.outer = []) {c : Cursor} (hrest : c.rest = [')']) :
    ∃ fault, (part s).run c = .error fault := by
  obtain ⟨a, outer⟩ := s
  obtain rfl : outer = [] := houter
  obtain ⟨length, rest, place, modes, names, misuse⟩ := c
  obtain rfl : rest = [')'] := hrest
  exact ⟨_, rfl⟩

theorem skipSpace_run_plain {c : Cursor} (h : c.modes = {}) : skipSpace.run c = .ok ((), c) := by
  rw [skipSpace_run, h]
  rfl

/-- A parenthesis closes the group around what has been read, and an anchor ends the pattern. -/
theorem parts_closing {s : Progress} {c d : Cursor}
    (houter : s.outer.map OpenGroup.forget = [anchorShape])
    (hspace : skipSpace.run c = .ok ((), d)) (hrest : d.rest = [')', '$']) (steps : Nat) :
    ∃ r e, (parts s.choice s.outer (steps + 3)).run c = .ok (r, e) ∧ e.misuse = d.misuse ∧
      r.forget =
        ((s.choice.read d.place).tree.anchored, (s.choice.read d.place).levels.length + 2) := by
  obtain ⟨g, _, hs, hg, hnil⟩ := List.map_eq_cons_iff.1 houter
  obtain rfl := List.map_eq_nil_iff.1 hnil
  obtain ⟨hcaptures, houter, hmodes⟩ :
      g.captures = false ∧ g.outer.forget = ([], [(some (.condition .textStart), 0)]) ∧
        g.modes = {} := by
    simpa [OpenGroup.forget, anchorShape] using hg
  obtain ⟨i, e, hclose, he, hemodes, hemisuse, hi⟩ := part_parenthesis hs hrest
  obtain ⟨j, f, hdollar, hf, hfmodes, hfmisuse, hj⟩ := part_dollar ⟨g.outer.insert i, []⟩ he
  rw [hmodes] at hemodes
  rw [hemodes] at hfmodes hj
  refine ⟨((g.outer.insert i).insert j).read f.place, f, ?_, hfmisuse.trans hemisuse, ?_⟩
  · rw [parts_run_of_ne_nil hspace (by simp [hrest]), StateT.run_bind, hclose]
    change (parts (g.outer.insert i) [] (steps + 2)).run e = _
    rw [parts_run_of_ne_nil (s := ⟨g.outer.insert i, []⟩) (skipSpace_run_plain hemodes)
      (by simp [he]), StateT.run_bind, hdollar]
    exact parts_run_of_nil (s := ⟨(g.outer.insert i).insert j, []⟩) (skipSpace_run_plain hfmodes) hf
      steps
  · have hforget : ((g.outer.insert i).insert j).forget =
        ([], [j.forget, i.forget, (some (.condition .textStart), 0)]) := by
      obtain ⟨hbefore, hlast⟩ := Prod.mk.inj houter
      simp only [Sequence.forget] at hlast
      simp only [Choice.forget, Choice.insert, Sequence.forget, List.map_cons, hbefore, hlast]
    have hitems : ((g.outer.insert i).insert j).last.forget =
        [j.forget, i.forget, (some (.condition .textStart), 0)] := congrArg Prod.snd hforget
    rw [Choice.forget_read, hforget, Sequence.forget_read, hitems, hi, hj, hcaptures]
    simp [Tree.concat, Tree.anchored]

/-- Inside a group no pattern ends, with an anchor in front of its end or without. -/
theorem parts_unclosed {s : Progress} {c d : Cursor} (houter : s.outer ≠ [])
    (hspace : skipSpace.run c = .ok ((), d)) (hrest : d.rest = ['$'] ∨ d.rest = []) (steps : Nat) :
    ∃ fault, (parts s.choice s.outer steps).run c = .error fault := by
  have hend {s : Progress} {c d : Cursor} (houter : s.outer ≠ [])
      (hspace : skipSpace.run c = .ok ((), d)) (hnil : d.rest = []) (steps : Nat) :
      ∃ fault, (parts s.choice s.outer steps).run c = .error fault := by
    obtain ⟨g, outer, hs⟩ := List.exists_cons_of_ne_nil houter
    cases steps with
    | zero => exact ⟨_, rfl⟩
    | succ steps =>
      rw [parts_run_of_nil hspace hnil, hs]
      exact ⟨_, rfl⟩
  rcases hrest with hrest | hrest
  · cases steps with
    | zero => exact ⟨_, rfl⟩
    | succ steps =>
      obtain ⟨i, e, hpart, he, -, -⟩ := part_dollar s hrest
      rw [parts_run_of_ne_nil hspace (by simp [hrest]), StateT.run_bind, hpart]
      exact hend (s := { s with choice := s.choice.insert i }) houter (skipSpace_run_nil he) he
        steps
  · exact hend houter hspace hrest steps

variable {text : String} {r : Read} {e : Cursor}

theorem inFront_startOf (text : String) :
    InFront [')'] (startOf text) (startOf (text ++ ")")) :=
  ⟨.group, .inl (by simp [startOf]), Nat.le_refl _, by simp [startOf], rfl, rfl, rfl⟩

theorem within_begin : Progress.Within [] ⟨.begin .start, []⟩ ⟨.begin .start, []⟩ :=
  ⟨⟨rfl, .begin _⟩, rfl, by simp⟩

theorem ordered_of_readAll (h : readAll text = .ok (r, e)) : r.tree.Ordered := by
  obtain ⟨t, d, n, hrun, -, -, -, -, rfl⟩ := exists_run_of_parts (s := ⟨_, _⟩) h
  obtain ⟨t', d', -, ht, -⟩ := hrun.inFront (inFront_startOf text) within_begin
  exact ht.choice.ordered.read _

/-- Some parts of a text in front of a parenthesis have been read, after which no group is open and
space goes as far as the second cursor. -/
structure ReadUpTo (text : String) (t : Progress) (d f : Cursor) (n : Nat) : Prop where
  run : Run ⟨.begin .start, []⟩ (startOf (text ++ ")")) t d n
  steps_le : n ≤ text.toList.length
  space : skipSpace.run d = .ok ((), f)
  outer : t.outer = []

/-- In front of a parenthesis a pattern is read as it is alone. -/
theorem exists_readUpTo_of_readAll (h : readAll text = .ok (r, e)) :
    ∃ t d f n, ReadUpTo text t d f n ∧ InFront [')'] e f ∧ e.rest = [] ∧
      ∀ p, (t.choice.read p).forget = r.forget := by
  obtain ⟨t, d, n, hrun, hn, houter, hspace, hrest, rfl⟩ := exists_run_of_parts (s := ⟨_, _⟩) h
  obtain ⟨t', d', hrun', ht, hd⟩ := hrun.inFront (inFront_startOf text) within_begin
  obtain ⟨⟨⟩, f, hspace', hf, -⟩ := skipSpace_follows hd _ _ hspace trivial
  have houter' : t'.outer = [] := by simpa [houter] using ht.outer
  exact ⟨t', d', f, n, ⟨hrun', Nat.le_of_lt_succ hn, hspace', houter'⟩, hf, hrest,
    fun p => Choice.read_forget ht.choice.forget _ p⟩

variable {t : Progress} {d f : Cursor} {n : Nat}

theorem ReadUpTo.readAll_eq (h : ReadUpTo text t d f n) :
    readAll (text ++ ")") = (parts t.choice t.outer (text.toList.length - n + 1 + 1)).run d := by
  have hn := h.steps_le
  have hsteps : (text ++ ")").toList.length + 1 = n + (text.toList.length - n + 1 + 1) := by
    simp
    omega
  rw [readAll, hsteps]
  exact h.run.parts_eq _

/-- A comment at the end is what reaches over a parenthesis. -/
theorem ReadUpTo.endsInComment_iff (h : ReadUpTo text t d f n)
    (hrest : f.rest = [')'] ∨ f.rest = [])
    (hlevels : (t.choice.read f.place).levels.length ≤ depthLimit) (hmisuse : f.misuse = none) :
    EndsInComment text ↔ f.rest = [] := by
  rw [EndsInComment]
  simp only [ofText_eq_ok_iff, h.readAll_eq]
  rcases hrest with hrest | hrest
  · obtain ⟨fault, hpart⟩ := part_unopened h.outer hrest
    rw [parts_run_of_ne_nil h.space (by simp [hrest]), StateT.run_bind, hpart]
    refine iff_of_false ?_ (by simp [hrest])
    rintro ⟨_, _, _, ⟨⟩, -⟩
  · rw [parts_run_of_nil h.space hrest, h.outer]
    exact iff_of_true ⟨_, _, _, rfl, hlevels, hmisuse, rfl⟩ hrest

/-- Between anchors a pattern is read as it is in front of a parenthesis. -/
theorem ReadUpTo.exists_anchored (h : ReadUpTo text t d f n) :
    ∃ (t' : Progress) (d' f' : Cursor), readAll ("^(?:" ++ text ++ ")$") =
        (parts t'.choice t'.outer (text.toList.length - n + 2 + 3)).run d' ∧
      t'.choice.forget = t.choice.forget ∧ t'.outer.map OpenGroup.forget = [anchorShape] ∧
      skipSpace.run d' = .ok ((), f') ∧ InFront ['$'] f f' := by
  obtain ⟨s, c, hopening, hbegin, hshape, p, rfl⟩ :=
    run_opening (text.toList.length + 5) (text.toList ++ [')', '$'])
  have hstart : InFront ['$'] (startOf (text ++ ")"))
      { length := text.toList.length + 5 + 1, rest := text.toList ++ [')', '$'], place := p } :=
    ⟨.text, .inl (by simp [startOf]), Nat.le_refl _, by simp [startOf], rfl, rfl, rfl⟩
  have hwithin : Progress.Within [anchorShape] ⟨.begin .start, []⟩ s :=
    ⟨⟨hbegin, .begin _⟩, hshape, by simp⟩
  obtain ⟨t', d', hrun', ht, hd⟩ := h.run.inFront hstart hwithin
  obtain ⟨⟨⟩, f', hspace', hf', -⟩ := skipSpace_follows hd _ _ h.space trivial
  have hn := h.steps_le
  have hsteps : ("^(?:" ++ text ++ ")$").toList.length + 1 =
      2 + (n + (text.toList.length - n + 2 + 3)) := by
    simp
    omega
  have hcursor : startOf ("^(?:" ++ text ++ ")$") =
      { length := text.toList.length + 5 + 1
        rest := '^' :: '(' :: '?' :: ':' :: (text.toList ++ [')', '$']) } := by
    simp [startOf]
  refine ⟨t', d', f', ?_, ht.choice.forget, by simpa [h.outer] using ht.outer, hspace', hf'⟩
  rw [readAll, hsteps, hcursor, hopening.parts_eq (s := ⟨_, _⟩), hrun'.parts_eq]

/-- Between anchors a pattern is a group, unless a comment at its end reaches over them. -/
theorem readAll_anchored (h : readAll text = .ok (r, e)) (hlevels : r.levels.length ≤ depthLimit)
    (hmisuse : e.misuse = none) :
    EndsInComment text ∧ (∃ fault, readAll ("^(?:" ++ text ++ ")$") = .error fault) ∨
      ¬EndsInComment text ∧ ∃ r' e', readAll ("^(?:" ++ text ++ ")$") = .ok (r', e') ∧
        e'.misuse = none ∧ r'.forget = (r.tree.anchored, r.levels.length + 2) := by
  obtain ⟨t, d, f, n, hupTo, hf, hrest, hforget⟩ := exists_readUpTo_of_readAll h
  obtain ⟨t', d', f', hread, ht, hshape, hspace', hf'⟩ := hupTo.exists_anchored
  have hnone : f.misuse = none := by simpa [hmisuse] using hf.misuse
  have hend : f.rest = [')'] ∨ f.rest = [] := by simpa [hrest] using hf.rest
  have hdepth : (t.choice.read f.place).levels.length ≤ depthLimit := by
    rwa [(Prod.mk.inj (hforget f.place)).2]
  rw [hupTo.endsInComment_iff hend hdepth hnone, hread]
  rcases hend with hend | hend
  · have hend' : f'.rest = [')', '$'] := by
      rw [hf'.rest_of_ne_nil (by simp [hend]), hend]
      rfl
    obtain ⟨r', e', hread', he', hforget'⟩ :=
      parts_closing hshape hspace' hend' (text.toList.length - n + 2)
    have hnone' : f'.misuse = none := by simpa [hnone] using hf'.misuse
    have hinside : (t'.choice.read f'.place).forget = r.forget :=
      (Choice.read_forget ht f.place f'.place).trans (hforget f.place)
    obtain ⟨htree, hlength⟩ := Prod.mk.inj hinside
    exact .inr ⟨by simp [hend], r', e', hread', he'.trans hnone', by rw [hforget', htree, hlength]⟩
  · have hend' : f'.rest = ['$'] ∨ f'.rest = [] := by simpa [hend] using hf'.rest
    have hopen : t'.outer ≠ [] := by
      intro hnil
      simp [hnil] at hshape
    exact .inl ⟨hend, parts_unclosed hopen hspace' hend' _⟩

end Reader

theorem Tree.ordered_of_ofText {text : String} {t : Tree} (h : Tree.ofText text = .ok t) :
    t.Ordered := by
  obtain ⟨r, e, hread, -, -, rfl⟩ := Reader.ofText_eq_ok_iff.1 h
  exact Reader.ordered_of_readAll hread

/-- Between anchors, a pattern that can be read becomes a group, if no comment at its end reaches
over the anchor behind it and two more levels are not too deep. -/
theorem Tree.ofText_anchored_iff {text : String} {own : Tree} (hown : Tree.ofText text = .ok own)
    (t : Tree) :
    Tree.ofText ("^(?:" ++ text ++ ")$") = .ok t ↔
      ¬EndsInComment text ∧ depth text + 2 ≤ depthLimit ∧ t = own.anchored := by
  obtain ⟨r, e, hread, hlevels, hmisuse, rfl⟩ := Reader.ofText_eq_ok_iff.1 hown
  have hdepth : depth text = r.levels.length := by rw [depth, hread]
  rw [Reader.ofText_eq_ok_iff, hdepth]
  rcases Reader.readAll_anchored hread hlevels hmisuse with ⟨hcomment, fault, hfault⟩ |
    ⟨hcomment, r', e', hread', hmisuse', hforget⟩
  · simp [hfault, hcomment]
  · obtain ⟨htree, hlevels'⟩ := Prod.mk.inj hforget
    constructor
    · rintro ⟨_, _, hread'', hle, -, rfl⟩
      rw [hread'] at hread''
      cases hread''
      exact ⟨hcomment, hlevels' ▸ hle, htree⟩
    · rintro ⟨-, hle, rfl⟩
      exact ⟨r', e', hread', hlevels' ▸ hle, hmisuse', htree⟩

end JsonRules.Pattern
