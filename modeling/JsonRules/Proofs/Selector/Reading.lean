import JsonRules.Except
import JsonRules.Proofs.Selector.Grammar
import JsonRules.Selector.Reader

namespace JsonRules.Selector

open Text (EndsRun endsRun_nil endsRun_cons endsRun_dropWhile takeWhile_dropWhile_iff)

section Quoted

variable {quote : Char}

theorem readQuoted_cons {c : Char} (h : c ≠ '\\') (s : List Char) :
    readQuoted quote (c :: s) =
      if c = quote then some ([], s) else (readQuoted quote s).map fun (k, r) => (c :: k, r) := by
  rw [readQuoted]
  · exact fun hc => absurd hc h
  · exact fun _ _ hc => absurd hc h

/-- A backslash would have fallen under one of the cases in front. -/
theorem ne_backslash_of_cases {c : Char} {s : List Char} (hend : c = '\\' → s = [] → False)
    (hescape : ∀ first rest, c = '\\' → s = first :: rest → False) : c ≠ '\\' := by
  intro hc
  obtain ⟨first, rest, hfirst⟩ := List.exists_cons_of_ne_nil (hend hc)
  exact hescape first rest hc hfirst

theorem quotedText_of_readQuoted {s k r : List Char} (h : readQuoted quote s = some (k, r)) :
    ∃ body, QuotedText quote body k ∧ s = body ++ quote :: r := by
  fun_induction readQuoted quote s generalizing k with
  | case1 => cases h
  | case2 => cases h
  | case3 c s ih =>
    obtain ⟨⟨k, r⟩, hread, heq⟩ := Option.map_eq_some_iff.1 h
    cases heq
    obtain ⟨body, hbody, rfl⟩ := ih hread
    exact ⟨_, .escaped hbody, rfl⟩
  | case4 s _ =>
    cases h
    exact ⟨[], .nil, rfl⟩
  | case5 c s hend hescape hquote ih =>
    obtain ⟨⟨k, r⟩, hread, heq⟩ := Option.map_eq_some_iff.1 h
    cases heq
    obtain ⟨body, hbody, rfl⟩ := ih hread
    exact ⟨_, .plain hquote (ne_backslash_of_cases hend hescape) hbody, rfl⟩

theorem readQuoted_of_quotedText {body k : List Char} (hquote : quote ≠ '\\')
    (h : QuotedText quote body k) (r : List Char) :
    readQuoted quote (body ++ quote :: r) = some (k, r) := by
  induction h with
  | nil => rw [List.nil_append, readQuoted_cons hquote, if_pos rfl]
  | plain hc hescape _ ih =>
    rw [List.cons_append, readQuoted_cons hescape, if_neg hc, ih]
    rfl
  | escaped _ ih =>
    rw [List.cons_append, List.cons_append, readQuoted, ih]
    rfl

end Quoted

section Keys

theorem isKeyChar_eq_true_iff {c : Char} :
    isKeyChar c = true ↔ c ∉ ['.', '[', ']', '\'', '"', '*'] ∧ Text.isBlank c = false := by
  simp [isKeyChar]

theorem isBareKey_iff {k : List Char} : IsBareKey k ↔ k ≠ [] ∧ ∀ c ∈ k, isKeyChar c = true := by
  rw [IsBareKey]
  simp only [isKeyChar_eq_true_iff]

theorem isBareKey_takeWhile {s : List Char} (h : ¬ (s.takeWhile isKeyChar).isEmpty = true) :
    IsBareKey (s.takeWhile isKeyChar) := by
  rw [List.isEmpty_iff] at h
  exact isBareKey_iff.2 ⟨h, fun c hc => List.mem_takeWhile_imp hc⟩

theorem takeWhile_dropWhile_key {k r : List Char} (h : IsBareKey k) (hends : EndsRun isKeyChar r) :
    (k ++ r).takeWhile isKeyChar = k ∧ (k ++ r).dropWhile isKeyChar = r :=
  takeWhile_dropWhile_iff.2 ⟨rfl, (isBareKey_iff.1 h).2, hends⟩

theorem not_isEmpty_of_isBareKey {k : List Char} (h : IsBareKey k) : ¬ k.isEmpty = true := by
  rw [List.isEmpty_iff]
  exact h.1

theorem readAfterDot_of_segmentText {t r : List Char} {segment : Segment}
    (h : SegmentText ('.' :: t) segment) (hends : EndsRun isKeyChar r) :
    readAfterDot (t ++ r) = .ok (segment, r) := by
  cases h with
  | dotAny => rfl
  | dotKey hkey =>
    obtain ⟨htake, hdrop⟩ := takeWhile_dropWhile_key hkey hends
    unfold readAfterDot
    split
    · next s hs =>
      -- a key has no asterisk
      rw [hs] at htake
      rw [← htake] at hkey
      exact absurd rfl hkey.1
    · rw [htake, hdrop, if_neg (not_isEmpty_of_isBareKey hkey)]

/-- What is read after a dot depends on no more than the first character of what follows it. -/
theorem segmentText_of_readAfterDot {s r : List Char} {segment : Segment}
    (h : readAfterDot s = .ok (segment, r)) :
    ∃ t, SegmentText ('.' :: t) segment ∧ s = t ++ r ∧
      ∀ r', r'.head? = r.head? → readAfterDot (t ++ r') = .ok (segment, r') := by
  unfold readAfterDot at h
  split at h
  · cases h
    exact ⟨_, .dotAny, rfl, fun _ _ => rfl⟩
  · split at h
    · cases h
    · next hkey =>
      cases h
      have hsegment := SegmentText.dotKey (isBareKey_takeWhile hkey)
      refine ⟨_, hsegment, List.takeWhile_append_dropWhile.symm, fun r' hr' => ?_⟩
      exact readAfterDot_of_segmentText hsegment ((endsRun_dropWhile isKeyChar _).of_head? hr')

end Keys

section Brackets

theorem isDigit_iff {c : Char} : c.isDigit = true ↔ '0' ≤ c ∧ c ≤ '9' := by
  simp [Char.isDigit, Char.le_def]

theorem decimalValue_eq_ofDigits (digits : List Char) :
    Text.decimalValue digits = Nat.ofDigits 10 (digits.reverse.map Text.digitValue) := by
  rw [Nat.ofDigits_eq_foldr, List.foldr_map, List.foldr_reverse, Text.decimalValue]
  congr 1
  funext n c
  rw [Nat.cast_id]
  omega

theorem isNumeral_iff {digits : List Char} {n : Nat} :
    IsNumeral digits n ↔
      digits ≠ [] ∧ (∀ c ∈ digits, c.isDigit = true) ∧ Text.decimalValue digits = n := by
  rw [IsNumeral, decimalValue_eq_ofDigits, eq_comm]
  simp only [isDigit_iff]

theorem decimalValue_eq_ofDigitChars (digits : List Char) :
    Text.decimalValue digits = Nat.ofDigitChars 10 digits 0 := by
  rw [Nat.ofDigitChars_eq_foldl, Text.decimalValue]
  congr 1
  funext n c
  rw [Text.digitValue, Nat.mul_comm]

theorem isNumeral_toString (n : Nat) : IsNumeral (toString n).toList n := by
  rw [Nat.toString_eq_ofList_toDigits, String.toList_ofList, isNumeral_iff]
  refine ⟨Nat.toDigits_ne_nil, fun c hc => Nat.isDigit_of_mem_toDigits (by omega) (by omega) hc, ?_⟩
  rw [decimalValue_eq_ofDigitChars, Nat.ofDigitChars_ten_toDigits]

theorem readInside_of_isNumeral {digits : List Char} {n : Nat} (h : IsNumeral digits n)
    (hlimit : n < indexLimit) {r : List Char} (hends : EndsRun Char.isDigit r) :
    readInside (digits ++ r) = .ok (.index n, r) := by
  obtain ⟨hnil, hdigits, hvalue⟩ := isNumeral_iff.1 h
  obtain ⟨htake, hdrop⟩ := takeWhile_dropWhile_iff.2 ⟨rfl, hdigits, hends⟩
  obtain ⟨c, others, rfl⟩ := List.exists_cons_of_ne_nil hnil
  have hdigit := hdigits c List.mem_cons_self
  rw [List.cons_append] at htake hdrop ⊢
  unfold readInside
  split
  · next heq => cases heq
  · next heq =>
    cases heq
    cases hdigit
  · next heq =>
    cases heq
    rw [if_pos hdigit, htake, hdrop, hvalue, if_pos hlimit]

theorem readInside_of_quotedText {quote : Char} {body k : List Char}
    (hquote : quote ∈ ['\'', '"']) (h : QuotedText quote body k) (r : List Char) :
    readInside (quote :: (body ++ quote :: r)) = .ok (.key (String.ofList k), r) := by
  have hescape : quote ≠ '\\' := by
    rintro rfl
    revert hquote
    decide
  have hread := readQuoted_of_quotedText hescape h r
  rw [List.mem_cons, List.mem_singleton] at hquote
  obtain rfl | rfl := hquote <;> simp [readInside, hread, Char.isDigit]

/-- What is read after a bracket depends on no more than the first character of what follows it. -/
theorem segmentText_of_readInside {s r : List Char} {segment : Segment}
    (h : readInside s = .ok (segment, r)) :
    ∃ t, SegmentText ('[' :: (t ++ [']'])) segment ∧ s = t ++ r ∧
      ∀ r', r'.head? = r.head? → readInside (t ++ r') = .ok (segment, r') := by
  unfold readInside at h
  split at h
  · cases h
  · cases h
    exact ⟨['*'], .any, rfl, fun _ _ => rfl⟩
  · next c s _ =>
    split at h
    · next hdigit =>
      dsimp only at h
      split at h
      · next hlimit =>
        cases h
        have hnumeral : IsNumeral ((c :: s).takeWhile Char.isDigit)
            (Text.decimalValue ((c :: s).takeWhile Char.isDigit)) := by
          refine isNumeral_iff.2 ⟨?_, fun c hc => List.mem_takeWhile_imp hc, rfl⟩
          rw [List.takeWhile_cons_of_pos hdigit]
          exact List.cons_ne_nil _ _
        refine ⟨_, .index hnumeral hlimit, List.takeWhile_append_dropWhile.symm, fun r' hr' => ?_⟩
        exact readInside_of_isNumeral hnumeral hlimit ((endsRun_dropWhile _ _).of_head? hr')
      · cases h
    · split at h
      · next hquote =>
        split at h
        · next hread =>
          cases h
          obtain ⟨body, hbody, rfl⟩ := quotedText_of_readQuoted hread
          have hmem : c ∈ ['\'', '"'] := by simpa using hquote
          refine ⟨c :: (body ++ [c]), ?_, by simp, fun r' _ => ?_⟩
          · simpa using SegmentText.quoted hmem hbody
          · simpa using readInside_of_quotedText hmem hbody r'
        · cases h
      · cases h

/-- What stands between brackets is read up to the closing one, whatever follows. -/
theorem readBrackets_eq_ok_iff {s r : List Char} {segment : Segment} :
    readBrackets s = .ok (segment, r) ↔ ∃ t, SegmentText ('[' :: t) segment ∧ s = t ++ r := by
  constructor
  · intro h
    unfold readBrackets at h
    split at h
    · next hinside =>
      obtain ⟨t, ht, rfl, -⟩ := segmentText_of_readInside hinside
      unfold readClosing at h
      split at h
      · cases h
        exact ⟨_, ht, by simp⟩
      · cases h
    · cases h
  · rintro ⟨t, ht, rfl⟩
    unfold readBrackets
    cases ht with
    | any => rfl
    | index hnumeral hlimit =>
      have hends : EndsRun Char.isDigit (']' :: r) := endsRun_cons.2 (by decide)
      rw [List.append_assoc, List.singleton_append, readInside_of_isNumeral hnumeral hlimit hends]
      rfl
    | @quoted quote body k hquote hbody =>
      have hread := readInside_of_quotedText hquote hbody (']' :: r)
      have hassoc :
          quote :: (body ++ [quote, ']']) ++ r = quote :: (body ++ quote :: ']' :: r) := by
        simp
      rw [hassoc, hread]
      rfl

end Brackets

section Segments

theorem SegmentText.exists_cons {s : List Char} {segment : Segment} (h : SegmentText s segment) :
    ∃ t, s = '.' :: t ∨ s = '[' :: t := by
  cases h with
  | dotKey _ => exact ⟨_, .inl rfl⟩
  | dotAny => exact ⟨_, .inl rfl⟩
  | index _ _ => exact ⟨_, .inr rfl⟩
  | any => exact ⟨_, .inr rfl⟩
  | quoted _ _ => exact ⟨_, .inr rfl⟩

/-- No segment goes on with a key, so a key in front of segments ends where they begin. -/
theorem SegmentsText.endsRun {s : List Char} {segments : List Segment}
    (h : SegmentsText s segments) : EndsRun isKeyChar s := by
  cases h with
  | nil => exact endsRun_nil
  | cons hsegment _ =>
    obtain ⟨t, rfl | rfl⟩ := hsegment.exists_cons
    · exact endsRun_cons.2 (by decide)
    · exact endsRun_cons.2 (by decide)

theorem segmentsText_of_readSegments {s : List Char} {segments : List Segment}
    (h : readSegments s = .ok segments) : SegmentsText s segments := by
  fun_induction readSegments s generalizing segments with
  | case1 =>
    cases h
    exact .nil
  | case2 r segment t hread ih =>
    obtain ⟨rest, hrest, rfl⟩ := Except.map_eq_ok_iff.1 h
    obtain ⟨t', hsegment, rfl, -⟩ := segmentText_of_readAfterDot hread
    exact .cons hsegment (ih hrest)
  | case3 => cases h
  | case4 r segment t hread ih =>
    obtain ⟨rest, hrest, rfl⟩ := Except.map_eq_ok_iff.1 h
    obtain ⟨t', hsegment, rfl⟩ := readBrackets_eq_ok_iff.1 hread
    exact .cons hsegment (ih hrest)
  | case5 => cases h
  | case6 => cases h

theorem readSegments_dot {r t : List Char} {segment : Segment}
    (h : readAfterDot r = .ok (segment, t)) :
    readSegments ('.' :: r) = (readSegments t).map (segment :: ·) := by
  rw [readSegments]
  split <;> simp_all

theorem readSegments_brackets {r t : List Char} {segment : Segment}
    (h : readBrackets r = .ok (segment, t)) :
    readSegments ('[' :: r) = (readSegments t).map (segment :: ·) := by
  rw [readSegments]
  split <;> simp_all

theorem readSegments_of_segmentsText {s : List Char} {segments : List Segment}
    (h : SegmentsText s segments) : readSegments s = .ok segments := by
  induction h with
  | nil => rw [readSegments]
  | cons hsegment hrest ih =>
    obtain ⟨t', rfl | rfl⟩ := hsegment.exists_cons
    · rw [List.cons_append, readSegments_dot (readAfterDot_of_segmentText hsegment hrest.endsRun),
        ih]
      rfl
    · rw [List.cons_append, readSegments_brackets (readBrackets_eq_ok_iff.2 ⟨_, hsegment, rfl⟩), ih]
      rfl

end Segments

section Paths

theorem pathText_of_readPath {s : List Char} {segments : List Segment}
    (h : readPath s = .ok segments) : PathText s segments := by
  unfold readPath at h
  split at h
  · exact .rooted (segmentsText_of_readSegments h)
  · next hdollar =>
    split at h
    · exact .plain (segmentsText_of_readSegments h)
    · next hkey =>
      obtain ⟨rest, hrest, rfl⟩ := Except.map_eq_ok_iff.1 h
      have hbare := isBareKey_takeWhile hkey
      have hsplit := List.takeWhile_append_dropWhile (p := isKeyChar) (l := s)
      -- a dollar sign is a character of keys, but in front it would have been the root
      have hfirst : (s.takeWhile isKeyChar).head? ≠ some '$' := by
        intro hfirst
        obtain ⟨others, hothers⟩ := List.head?_eq_some_iff.1 hfirst
        rw [hothers, List.cons_append] at hsplit
        exact hdollar _ hsplit.symm
      have hpath := PathText.keyed hbare hfirst (segmentsText_of_readSegments hrest)
      rwa [hsplit] at hpath

theorem readPath_of_head? {s : List Char} (h : s.head? ≠ some '$') :
    readPath s =
      if (s.takeWhile isKeyChar).isEmpty then readSegments s
      else (readSegments (s.dropWhile isKeyChar)).map
        (.key (String.ofList (s.takeWhile isKeyChar)) :: ·) := by
  unfold readPath
  split
  · exact absurd rfl h
  · rfl

theorem readPath_of_pathText {s : List Char} {segments : List Segment}
    (h : PathText s segments) : readPath s = .ok segments := by
  cases h with
  | plain hsegments =>
    -- no segment begins with a character of keys, so the reader finds no key in front
    have hends := hsegments.endsRun
    have hfirst : s.head? ≠ some '$' := by
      intro hfirst
      have hdollar := hends '$' hfirst
      revert hdollar
      decide
    obtain ⟨htake, -⟩ := takeWhile_dropWhile_iff.2 ⟨(List.nil_append s).symm, by simp, hends⟩
    rw [readPath_of_head? hfirst, htake, readSegments_of_segmentsText hsegments]
    rfl
  | rooted hsegments => rw [readPath, readSegments_of_segmentsText hsegments]
  | @keyed k t _ hkey hfirst hsegments =>
    obtain ⟨htake, hdrop⟩ := takeWhile_dropWhile_key hkey hsegments.endsRun
    have hfirst' : (k ++ t).head? ≠ some '$' := by
      obtain ⟨c, others, rfl⟩ := List.exists_cons_of_ne_nil hkey.1
      exact hfirst
    rw [readPath_of_head? hfirst', htake, hdrop, if_neg (not_isEmpty_of_isBareKey hkey),
      readSegments_of_segmentsText hsegments]
    rfl

theorem readPath_eq_ok_iff {s : List Char} {segments : List Segment} :
    readPath s = .ok segments ↔ PathText s segments :=
  ⟨pathText_of_readPath, readPath_of_pathText⟩

theorem SegmentText.endsVisibly {s : List Char} {segment : Segment} (h : SegmentText s segment) :
    Text.EndsVisibly s := by
  have hclosing (s : List Char) : Text.EndsVisibly (s ++ [']']) :=
    Text.endsVisibly_concat.2 (by decide)
  cases h with
  | @dotKey k hkey =>
    have hdot : Text.EndsVisibly ['.'] :=
      Text.endsVisibly_of_forall (List.forall_mem_singleton.2 rfl)
    exact Text.endsVisibly_append hdot (Text.endsVisibly_of_forall fun c hc => (hkey.2 c hc).2)
  | dotAny => exact Text.endsVisibly_of_forall (by simp [Text.isBlank])
  | @index digits n _ _ => exact hclosing ('[' :: digits)
  | any => exact hclosing ['[', '*']
  | @quoted quote s k _ _ => simpa using hclosing ('[' :: quote :: (s ++ [quote]))

theorem SegmentsText.endsVisibly {s : List Char} {segments : List Segment}
    (h : SegmentsText s segments) : Text.EndsVisibly s := by
  induction h with
  | nil => exact Text.endsVisibly_of_forall (by simp)
  | cons hsegment _ ih => exact Text.endsVisibly_append hsegment.endsVisibly ih

/-- No form of a path has a blank at an end, so trimming leaves it as it is. -/
theorem PathText.trimmed {s : List Char} {segments : List Segment} (h : PathText s segments) :
    Text.Trimmed s s := by
  have hdollar : Text.EndsVisibly ['$'] :=
    Text.endsVisibly_of_forall (List.forall_mem_singleton.2 rfl)
  cases h with
  | plain hsegments =>
    refine Text.trimmed_self ?_ hsegments.endsVisibly
    cases hsegments with
    | nil => exact endsRun_nil
    | cons hsegment _ =>
      obtain ⟨t, rfl | rfl⟩ := hsegment.exists_cons
      · exact endsRun_cons.2 (by decide)
      · exact endsRun_cons.2 (by decide)
  | rooted hsegments =>
    exact Text.trimmed_self (endsRun_cons.2 (by decide))
      (Text.endsVisibly_append hdollar hsegments.endsVisibly)
  | keyed hkey _ hsegments =>
    have hvisible := fun c hc => (hkey.2 c hc).2
    refine Text.trimmed_self ?_
      (Text.endsVisibly_append (Text.endsVisibly_of_forall hvisible) hsegments.endsVisibly)
    obtain ⟨c, others, rfl⟩ := List.exists_cons_of_ne_nil hkey.1
    exact endsRun_cons.2 (hvisible c List.mem_cons_self)

theorem denotes_iff {text : String} {segments : List Segment} :
    Denotes text segments ↔ ofText text = .ok ⟨text, segments⟩ := by
  have hread : Denotes text segments ↔ readPath (Text.trim text.toList) = .ok segments := by
    simp only [Denotes, ← Text.trim_eq_iff, exists_eq_left', readPath_eq_ok_iff]
  rw [hread, ofText, Except.map_eq_ok_iff]
  constructor
  · intro h
    exact ⟨segments, h, rfl⟩
  · rintro ⟨others, hothers, heq⟩
    cases heq
    exact hothers

theorem ofText_of_pathText {text : String} {segments : List Segment}
    (h : PathText text.toList segments) : ofText text = .ok ⟨text, segments⟩ :=
  denotes_iff.1 ⟨text.toList, h.trimmed, h⟩

/-- The reader accepts what the grammar derives and nothing else, with the segments that the
grammar gives. -/
theorem ofText_reads_what_text_denotes (text : String) :
    (∀ segments, ofText text = .ok ⟨text, segments⟩ ↔ Denotes text segments) ∧
      (∀ s, ofText text = .ok s → s.text = text) ∧
      (∀ segments others, Denotes text segments → Denotes text others → segments = others) ∧
      ((∃ fault, ofText text = .error fault) ↔ ∀ segments, ¬ Denotes text segments) := by
  refine ⟨fun segments => denotes_iff.symm, ?_, ?_, ?_⟩
  · intro s hs
    obtain ⟨segments, -, rfl⟩ := Except.map_eq_ok_iff.1 hs
    rfl
  · intro segments others hsegments hothers
    have hsame := (denotes_iff.1 hsegments).symm.trans (denotes_iff.1 hothers)
    cases hsame
    rfl
  · constructor
    · rintro ⟨fault, hfault⟩ segments hsegments
      cases hfault.symm.trans (denotes_iff.1 hsegments)
    · intro hnone
      rcases hread : ofText text with fault | s
      · exact ⟨fault, rfl⟩
      · obtain ⟨segments, -, rfl⟩ := Except.map_eq_ok_iff.1 hread
        exact absurd (denotes_iff.2 hread) (hnone segments)

/-- A text with blanks around it, zeros in front of an index and a quote that is escaped. -/
def ticketText : String := " $.tickets[007]['it\\'s'].*\t"

/-- The text has one reading, and a dollar sign cannot begin a key. -/
theorem ofText_ticketText :
    Denotes ticketText [.key "tickets", .index 7, .key "it's", .wildcard] ∧
      ¬ Denotes ticketText [.key "tickets"] ∧ ∀ segments, ¬ Denotes "$name" segments := by
  have hread : ofText ticketText =
      .ok ⟨ticketText, [.key "tickets", .index 7, .key "it's", .wildcard]⟩ := by decide +kernel
  have hfault : ofText "$name" = .error ⟨.unexpected, "name".toList⟩ := by decide +kernel
  obtain ⟨hreads, -, hunique, -⟩ := ofText_reads_what_text_denotes ticketText
  obtain ⟨-, -, -, hrefused⟩ := ofText_reads_what_text_denotes "$name"
  have hdenotes := (hreads _).1 hread
  refine ⟨hdenotes, fun hshort => ?_, hrefused.1 ⟨_, hfault⟩⟩
  cases hunique _ _ hdenotes hshort

end Paths

end JsonRules.Selector
