import JsonRules.Proofs.Selector.Reading

namespace JsonRules.Selector

open Text (EndsRun endsRun_dropWhile takeWhile_dropWhile_iff)

def IsSegments (s : List Char) : Prop := ∃ segments, SegmentsText s segments

def IsPath (s : List Char) : Prop := ∃ segments, PathText s segments

/-- The fault is that an index is beyond the limit. It is placed in front of the number. -/
def Fault.IsGreatIndex (f : Fault) : Prop :=
  f.kind = .insideBrackets ∧ indexLimit ≤ Text.decimalValue (f.rest.takeWhile Char.isDigit)

/-- The text `s` goes well up to the end of `front`, where the fault is: this much of it can be
continued to a text of the form, and one character more cannot, unless an index is too great. -/
structure Fault.LiesAfter (form : List Char → Prop) (s : List Char) (f : Fault)
    (front : List Char) : Prop where
  split : s = front ++ f.rest
  continues : ∃ more, form (front ++ more)
  stops : ∀ c rest, f.rest = c :: rest → f.IsGreatIndex ∨ ∀ more, ¬ form (front ++ c :: more)

section Segments

variable {s r : List Char} {f : Fault}

theorem isSegments_of_readSegments {segments : List Segment} (h : readSegments s = .ok segments) :
    IsSegments s :=
  ⟨segments, segmentsText_of_readSegments h⟩

theorem SegmentText.isSegments {segment : Segment} (h : SegmentText s segment) : IsSegments s := by
  refine ⟨[segment], ?_⟩
  simpa using SegmentsText.cons h .nil

theorem not_isSegments_of_readSegments (h : readSegments s = .error f) : ¬ IsSegments s := by
  rintro ⟨segments, hsegments⟩
  cases h.symm.trans (readSegments_of_segmentsText hsegments)

theorem readSegments_unexpected {c : Char} (hdot : c ≠ '.') (hbracket : c ≠ '[')
    (more : List Char) : readSegments (c :: more) = .error ⟨.unexpected, c :: more⟩ := by
  rw [readSegments.eq_def]
  split <;> simp_all

theorem not_isSegments_dot (h : readAfterDot r = .error f) : ¬ IsSegments ('.' :: r) := by
  refine not_isSegments_of_readSegments (f := f) ?_
  rw [readSegments]
  split <;> simp_all

theorem not_isSegments_brackets (h : readBrackets r = .error f) : ¬ IsSegments ('[' :: r) := by
  refine not_isSegments_of_readSegments (f := f) ?_
  rw [readSegments]
  split <;> simp_all

theorem readAfterDot_eq_error (h : readAfterDot s = .error f) :
    f = ⟨.afterDot, s⟩ ∧ ∀ c rest, s = c :: rest →
      ∀ more, readAfterDot (c :: more) = .error ⟨.afterDot, c :: more⟩ := by
  unfold readAfterDot at h
  split at h
  · cases h
  · next hany =>
    split at h
    · next hkey =>
      cases h
      refine ⟨rfl, ?_⟩
      rintro c rest rfl more
      have hc : isKeyChar c = false := by
        by_contra hc
        rw [Bool.not_eq_false] at hc
        simp [hc] at hkey
      unfold readAfterDot
      split
      · next heq =>
        cases heq
        exact absurd rfl (hany rest)
      · rw [if_pos (by simp [hc])]
    · cases h

theorem liesAfter_of_readAfterDot (h : readAfterDot r = .error f) :
    f.LiesAfter IsSegments ('.' :: r) ['.'] := by
  obtain ⟨rfl, hstops⟩ := readAfterDot_eq_error h
  refine ⟨rfl, ⟨['*'], SegmentText.dotAny.isSegments⟩, fun c rest hrest => .inr fun more => ?_⟩
  exact not_isSegments_dot (hstops c rest hrest more)

/-- A quoted key that is not closed can be closed at the end, where one quote more is needed if the
last character is a backslash. -/
theorem exists_quotedText_of_readQuoted {quote : Char}
    (h : readQuoted quote s = none) :
    ∃ more body k, s ++ more = body ++ [quote] ∧ QuotedText quote body k := by
  fun_induction readQuoted quote s with
  | case1 => exact ⟨[quote], [], [], rfl, .nil⟩
  | case2 => exact ⟨[quote, quote], ['\\', quote], [quote], rfl, .escaped .nil⟩
  | case3 c s ih =>
    obtain ⟨more, body, k, hsplit, hbody⟩ := ih (Option.map_eq_none_iff.1 h)
    exact ⟨more, '\\' :: c :: body, c :: k, by simp [hsplit], .escaped hbody⟩
  | case4 => cases h
  | case5 c s hend hescape hc ih =>
    obtain ⟨more, body, k, hsplit, hbody⟩ := ih (Option.map_eq_none_iff.1 h)
    have hplain := ne_backslash_of_cases hend hescape
    exact ⟨more, c :: body, c :: k, by simp [hsplit], .plain hc hplain hbody⟩

theorem readInside_eq_error (h : readInside s = .error f) :
    (f = ⟨.insideBrackets, s⟩ ∧ ∀ c rest, s = c :: rest →
      f.IsGreatIndex ∨ ∀ more, readInside (c :: more) = .error ⟨.insideBrackets, c :: more⟩) ∨
    (f.rest = [] ∧ ∃ quote t,
      quote ∈ ['\'', '"'] ∧ s = quote :: t ∧ readQuoted quote t = none) := by
  unfold readInside at h
  split at h
  · cases h
    exact .inl ⟨rfl, by simp⟩
  · cases h
  · next c t hany =>
    split at h
    · next hdigit =>
      dsimp only at h
      split at h
      · cases h
      · next hlimit =>
        cases h
        exact .inl ⟨rfl, fun _ _ _ => .inl ⟨rfl, Nat.le_of_not_lt hlimit⟩⟩
    · next hdigit =>
      split at h
      · next hquote =>
        split at h
        · cases h
        · next hread =>
          cases h
          exact .inr ⟨rfl, c, t, by simpa using hquote, rfl, hread⟩
      · next hquote =>
        cases h
        refine .inl ⟨rfl, fun c' rest heq => .inr fun more => ?_⟩
        cases heq
        unfold readInside
        split
        · next heq => cases heq
        · next heq =>
          cases heq
          exact absurd rfl hany
        · next heq =>
          cases heq
          rw [if_neg hdigit, if_neg hquote]

theorem readBrackets_of_readInside (h : readInside s = .error f) : readBrackets s = .error f := by
  rw [readBrackets, h]

theorem liesAfter_of_readInside (h : readInside r = .error f) :
    ∃ front, f.LiesAfter IsSegments ('[' :: r) front := by
  obtain ⟨rfl, hstops⟩ | ⟨hrest, quote, t, hquote, rfl, hread⟩ := readInside_eq_error h
  · refine ⟨['['], rfl, ⟨['*', ']'], SegmentText.any.isSegments⟩, fun c rest hrest => ?_⟩
    refine (hstops c rest hrest).imp_right fun herror more => ?_
    exact not_isSegments_brackets (readBrackets_of_readInside (herror more))
  · obtain ⟨more, body, k, hsplit, hbody⟩ := exists_quotedText_of_readQuoted hread
    refine ⟨'[' :: quote :: t, by simp [hrest], ⟨more ++ [']'], ?_⟩, fun c rest heq => ?_⟩
    · have htext : '[' :: quote :: t ++ (more ++ [']']) =
          '[' :: quote :: (body ++ [quote, ']']) := by
        rw [List.append_cons body quote [']'], ← hsplit]
        simp
      rw [htext]
      exact (SegmentText.quoted hquote hbody).isSegments
    · cases hrest.symm.trans heq

theorem readClosing_eq_error {segment : Segment} (h : readClosing segment s = .error f) :
    f = ⟨.closingBracket, s⟩ ∧ ∀ c rest, s = c :: rest →
      ∀ more, readClosing segment (c :: more) = .error ⟨.closingBracket, c :: more⟩ := by
  unfold readClosing at h
  split at h
  · cases h
  · next hclosing =>
    cases h
    refine ⟨rfl, ?_⟩
    rintro c rest rfl more
    unfold readClosing
    split
    · next heq =>
      cases heq
      exact absurd rfl (hclosing rest)
    · rfl

theorem liesAfter_of_readBrackets (h : readBrackets r = .error f) :
    ∃ front, f.LiesAfter IsSegments ('[' :: r) front := by
  unfold readBrackets at h
  split at h
  · next segment s hinside =>
    obtain ⟨t, hsegment, rfl, hlocal⟩ := segmentText_of_readInside hinside
    obtain ⟨rfl, hstops⟩ := readClosing_eq_error h
    refine ⟨'[' :: t, rfl, ⟨[']'], hsegment.isSegments⟩, fun c rest hrest => .inr fun more => ?_⟩
    have hread : readInside (t ++ c :: more) = .ok (segment, c :: more) :=
      hlocal _ (congrArg List.head? hrest).symm
    have hbrackets : readBrackets (t ++ c :: more) = .error ⟨.closingBracket, c :: more⟩ := by
      rw [readBrackets, hread]
      exact hstops c rest hrest more
    exact not_isSegments_brackets hbrackets
  · next hinside =>
    cases h
    exact liesAfter_of_readInside hinside

/-- A text in front moves the fault on, if what follows this text decides whether the whole has its
form, at least among texts that begin alike. -/
theorem Fault.LiesAfter.after {front t : List Char} {form whole : List Char → Prop}
    (h : f.LiesAfter form s front) (hcontinues : ∀ s', form s' → whole (t ++ s'))
    (hstops : ∀ s', s'.head? = s.head? → whole (t ++ s') → form s') :
    f.LiesAfter whole (t ++ s) (t ++ front) := by
  refine ⟨?_, ?_, fun c rest hrest => (h.stops c rest hrest).imp_right fun hnone more hwhole => ?_⟩
  · rw [List.append_assoc, ← h.split]
  · obtain ⟨more, hmore⟩ := h.continues
    refine ⟨more, ?_⟩
    rw [List.append_assoc]
    exact hcontinues _ hmore
  · have hhead : (front ++ c :: more).head? = s.head? := by
      rw [h.split, hrest]
      cases front <;> rfl
    rw [List.append_assoc] at hwhole
    exact hnone more (hstops _ hhead hwhole)

theorem SegmentText.isSegments_append {t : List Char} {segment : Segment}
    (h : SegmentText t segment) (hs : IsSegments s) : IsSegments (t ++ s) := by
  obtain ⟨segments, hsegments⟩ := hs
  exact ⟨segment :: segments, .cons h hsegments⟩

theorem exists_liesAfter_of_readSegments (h : readSegments s = .error f) :
    ∃ front, f.LiesAfter IsSegments s front := by
  fun_induction readSegments s with
  | case1 => cases h
  | case2 r segment t hread ih =>
    obtain ⟨front, hfront⟩ := ih (Except.map_eq_error_iff.1 h)
    obtain ⟨text, hsegment, rfl, hlocal⟩ := segmentText_of_readAfterDot hread
    refine ⟨_, hfront.after (fun _ => hsegment.isSegments_append) ?_⟩
    rintro s' hhead ⟨segments, hsegments⟩
    have hok := readSegments_of_segmentsText hsegments
    rw [List.cons_append, readSegments_dot (hlocal s' hhead)] at hok
    obtain ⟨rest, hrest, -⟩ := Except.map_eq_ok_iff.1 hok
    exact isSegments_of_readSegments hrest
  | case3 r e hread =>
    cases h
    exact ⟨_, liesAfter_of_readAfterDot hread⟩
  | case4 r segment t hread ih =>
    obtain ⟨front, hfront⟩ := ih (Except.map_eq_error_iff.1 h)
    obtain ⟨text, hsegment, rfl⟩ := readBrackets_eq_ok_iff.1 hread
    refine ⟨_, hfront.after (fun _ => hsegment.isSegments_append) ?_⟩
    rintro s' - ⟨segments, hsegments⟩
    have hok := readSegments_of_segmentsText hsegments
    have hlocal : readBrackets (text ++ s') = .ok (segment, s') :=
      readBrackets_eq_ok_iff.2 ⟨text, hsegment, rfl⟩
    rw [List.cons_append, readSegments_brackets hlocal] at hok
    obtain ⟨rest, hrest, -⟩ := Except.map_eq_ok_iff.1 hok
    exact isSegments_of_readSegments hrest
  | case5 r e hread =>
    cases h
    exact liesAfter_of_readBrackets hread
  | case6 c r hdot hbracket =>
    cases h
    refine ⟨[], rfl, ⟨[], [], .nil⟩, fun c' rest hrest => .inr fun more => ?_⟩
    cases hrest
    exact not_isSegments_of_readSegments (readSegments_unexpected hdot hbracket more)

end Segments

section Paths

variable {s : List Char} {f : Fault}

theorem isPath_rooted_iff : IsPath ('$' :: s) ↔ IsSegments s := by
  constructor
  · rintro ⟨segments, hpath⟩
    have hread := readPath_of_pathText hpath
    rw [readPath] at hread
    exact isSegments_of_readSegments hread
  · rintro ⟨segments, hsegments⟩
    exact ⟨segments, .rooted hsegments⟩

theorem head?_append_ne_dollar {key : List Char} (hfirst : key.head? ≠ some '$')
    (hends : EndsRun isKeyChar s) : (key ++ s).head? ≠ some '$' := by
  cases key with
  | nil =>
    -- a dollar sign is a character of keys
    intro hdollar
    have hkey := hends '$' hdollar
    revert hkey
    decide
  | cons c others => exact hfirst

/-- Without a dollar sign in front, the run of characters of keys that a path begins with is a key
of its own, or there is none. -/
theorem isPath_keyed_iff {key : List Char} (hkey : ∀ c ∈ key, isKeyChar c = true)
    (hfirst : key.head? ≠ some '$') (hends : EndsRun isKeyChar s) :
    IsPath (key ++ s) ↔ IsSegments s := by
  obtain ⟨htake, hdrop⟩ := takeWhile_dropWhile_iff.2 ⟨rfl, hkey, hends⟩
  constructor
  · rintro ⟨segments, hpath⟩
    have hread := readPath_of_pathText hpath
    rw [readPath_of_head? (head?_append_ne_dollar hfirst hends), htake, hdrop] at hread
    split at hread
    · next hnil =>
      rw [List.isEmpty_iff.1 hnil] at hread
      exact isSegments_of_readSegments hread
    · obtain ⟨rest, hrest, -⟩ := Except.map_eq_ok_iff.1 hread
      exact isSegments_of_readSegments hrest
  · rintro ⟨segments, hsegments⟩
    by_cases hnil : key = []
    · rw [hnil]
      exact ⟨segments, .plain hsegments⟩
    · exact ⟨_, .keyed (isBareKey_iff.2 ⟨hnil, hkey⟩) hfirst hsegments⟩

theorem readPath_eq_error (h : readPath s = .error f) :
    (∃ t, s = '$' :: t ∧ readSegments t = .error f) ∨
      ∃ key t, s = key ++ t ∧ (∀ c ∈ key, isKeyChar c = true) ∧ key.head? ≠ some '$' ∧
        EndsRun isKeyChar t ∧ readSegments t = .error f := by
  by_cases hdollar : s.head? = some '$'
  · obtain ⟨t, rfl⟩ := List.head?_eq_some_iff.1 hdollar
    exact .inl ⟨t, rfl, h⟩
  · have hsplit := List.takeWhile_append_dropWhile (p := isKeyChar) (l := s)
    have hfirst : (s.takeWhile isKeyChar).head? ≠ some '$' := by
      intro hfirst
      obtain ⟨others, hothers⟩ := List.head?_eq_some_iff.1 hfirst
      rw [hothers, List.cons_append] at hsplit
      rw [← hsplit] at hdollar
      exact hdollar rfl
    refine .inr ⟨_, _, hsplit.symm, fun c hc => List.mem_takeWhile_imp hc, hfirst,
      endsRun_dropWhile isKeyChar s, ?_⟩
    rw [readPath_of_head? hdollar] at h
    split at h
    · next hnil =>
      rw [List.isEmpty_iff.1 hnil, List.nil_append] at hsplit
      rwa [hsplit]
    · exact Except.map_eq_error_iff.1 h

theorem exists_liesAfter_of_readPath (h : readPath s = .error f) :
    ∃ front, f.LiesAfter IsPath s front := by
  obtain ⟨t, rfl, herror⟩ | ⟨key, t, rfl, hkey, hfirst, hends, herror⟩ := readPath_eq_error h
  · obtain ⟨front, hfront⟩ := exists_liesAfter_of_readSegments herror
    have hdollar : f.LiesAfter IsPath (['$'] ++ t) (['$'] ++ front) :=
      hfront.after (fun _ => isPath_rooted_iff.2) fun _ _ => isPath_rooted_iff.1
    exact ⟨_, hdollar⟩
  · obtain ⟨front, hfront⟩ := exists_liesAfter_of_readSegments herror
    refine ⟨_, hfront.after (fun s' hs' => ?_) fun s' hhead => ?_⟩
    · obtain ⟨segments, hsegments⟩ := hs'
      exact (isPath_keyed_iff hkey hfirst hsegments.endsRun).2 ⟨segments, hsegments⟩
    · exact (isPath_keyed_iff hkey hfirst (hends.of_head? hhead)).1

end Paths

section Offsets

variable {text : String} {f : Fault}

theorem byteLength_eq_utf8ByteSize (s : List Char) :
    Text.byteLength s = (String.ofList s).utf8ByteSize := by
  induction s with
  | nil => rfl
  | cons c s ih =>
    rw [← List.singleton_append, String.ofList_append, String.utf8ByteSize_append, ← ih,
      ← String.singleton_eq_ofList, String.utf8ByteSize_singleton]
    rfl

theorem Fault.LiesAfter.offset_eq {form : List Char → Prop} {front : List Char}
    (h : f.LiesAfter form (Text.trim text.toList) front) :
    f.offset text = (String.ofList front).utf8ByteSize := by
  rw [Fault.offset, h.split]
  simp only [byteLength_eq_utf8ByteSize, String.ofList_append, String.utf8ByteSize_append]
  omega

/-- The reason for refusing a text ends in the length in bytes of the part in front of the fault.
This part can be continued to a path, and with one character more it cannot, unless the fault is an
index beyond the limit. -/
theorem offset_ends_longest_start {t : String} (h : ofText text = .error f)
    (ht : Text.Trimmed text.toList t.toList) :
    f.reason text = f.kind.text ++ " at offset " ++ toString (f.offset text) ∧
      f.offset text ≤ t.utf8ByteSize ∧
      ∃ front : String, t = front ++ String.ofList f.rest ∧ front.utf8ByteSize = f.offset text ∧
        (∃ more s, ofText (front ++ more) = .ok s) ∧
        ∀ c rest, f.rest = c :: rest →
          f.IsGreatIndex ∨ ∀ more segments, ¬ PathText (front.toList ++ c :: more) segments := by
  have htrim := Text.trim_eq_iff.2 ht
  have hread : readPath (Text.trim text.toList) = .error f := Except.map_eq_error_iff.1 h
  obtain ⟨front, hfront⟩ := exists_liesAfter_of_readPath hread
  have hsplit : t = String.ofList front ++ String.ofList f.rest := by
    rw [← String.ofList_append, ← hfront.split, htrim, String.ofList_toList]
  refine ⟨rfl, ?_, String.ofList front, hsplit, hfront.offset_eq.symm, ?_, ?_⟩
  · rw [hfront.offset_eq, hsplit, String.utf8ByteSize_append]
    exact Nat.le_add_right _ _
  · obtain ⟨more, segments, hpath⟩ := hfront.continues
    rw [← String.toList_ofList (l := front ++ more), String.ofList_append] at hpath
    exact ⟨String.ofList more, _, ofText_of_pathText hpath⟩
  · intro c rest hrest
    rw [String.toList_ofList]
    refine (hfront.stops c rest hrest).imp_right fun hnone more segments hpath => ?_
    exact hnone more ⟨segments, hpath⟩

/-- A text with a blank in front, a key of two bytes for each character, and brackets around what is
no index. -/
def wordText : String := " $.ключ[x]"

theorem ofText_wordText : ofText wordText = .error ⟨.insideBrackets, ['x', ']']⟩ := by
  decide +kernel

theorem trimmed_wordText : Text.Trimmed wordText.toList "$.ключ[x]".toList :=
  Text.trim_eq_iff.1 (by decide +kernel)

/-- The fault is behind the opening bracket, and the blank in front of the path is not counted. -/
theorem offset_wordText :
    ofText wordText = .error ⟨.insideBrackets, ['x', ']']⟩ ∧
      Text.Trimmed wordText.toList "$.ключ[x]".toList ∧
      ∃ front : String, "$.ключ[x]" = front ++ "x]" ∧ front.utf8ByteSize = 11 ∧
        (∃ more s, ofText (front ++ more) = .ok s) ∧
        ∀ more segments, ¬ PathText (front.toList ++ 'x' :: more) segments := by
  obtain ⟨-, -, front, hsplit, hsize, hmore, hstops⟩ :=
    offset_ends_longest_start ofText_wordText trimmed_wordText
  have hoffset : Fault.offset wordText ⟨.insideBrackets, ['x', ']']⟩ = 11 := by decide +kernel
  have hsmall : ¬ Fault.IsGreatIndex ⟨.insideBrackets, ['x', ']']⟩ := by
    rintro ⟨-, hgreat⟩
    revert hgreat
    decide +kernel
  refine ⟨ofText_wordText, trimmed_wordText, front, hsplit, hsize.trans hoffset, hmore, ?_⟩
  exact (hstops 'x' [']'] rfl).resolve_left hsmall

end Offsets

end JsonRules.Selector
