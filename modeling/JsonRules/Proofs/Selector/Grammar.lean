import JsonRules.Proofs.Text.Trim
import JsonRules.Selector.Basic
import JsonRules.Text.Digits
import Mathlib.Data.Nat.Digits.Defs

namespace JsonRules.Selector

def IsBareKey (k : List Char) : Prop :=
  k ≠ [] ∧ ∀ c ∈ k, c ∉ ['.', '[', ']', '\'', '"', '*'] ∧ Text.isBlank c = false

/-- ASCII digits that write the number `n`, with any zeros in front. -/
def IsNumeral (digits : List Char) (n : Nat) : Prop :=
  digits ≠ [] ∧ (∀ c ∈ digits, '0' ≤ c ∧ c ≤ '9') ∧
    n = Nat.ofDigits 10 (digits.reverse.map Text.digitValue)

/-- What may stand between two quotes for the key `k`. -/
inductive QuotedText (quote : Char) : List Char → List Char → Prop
  | nil : QuotedText quote [] []
  | plain {c : Char} {s k : List Char} :
      c ≠ quote → c ≠ '\\' → QuotedText quote s k → QuotedText quote (c :: s) (c :: k)
  | escaped {c : Char} {s k : List Char} :
      QuotedText quote s k → QuotedText quote ('\\' :: c :: s) (c :: k)

inductive SegmentText : List Char → Segment → Prop
  | dotKey {k : List Char} : IsBareKey k → SegmentText ('.' :: k) (.key (String.ofList k))
  | dotAny : SegmentText ['.', '*'] .wildcard
  | index {digits : List Char} {n : Nat} :
      IsNumeral digits n → n < Nat.pow 2 64 → SegmentText ('[' :: (digits ++ [']'])) (.index n)
  | any : SegmentText ['[', '*', ']'] .wildcard
  | quoted {quote : Char} {s k : List Char} :
      quote ∈ ['\'', '"'] → QuotedText quote s k →
        SegmentText ('[' :: quote :: (s ++ [quote, ']'])) (.key (String.ofList k))

inductive SegmentsText : List Char → List Segment → Prop
  | nil : SegmentsText [] []
  | cons {s t : List Char} {segment : Segment} {segments : List Segment} :
      SegmentText s segment → SegmentsText t segments →
        SegmentsText (s ++ t) (segment :: segments)

inductive PathText : List Char → List Segment → Prop
  | plain {s : List Char} {segments : List Segment} :
      SegmentsText s segments → PathText s segments
  | rooted {s : List Char} {segments : List Segment} :
      SegmentsText s segments → PathText ('$' :: s) segments
  | keyed {k s : List Char} {segments : List Segment} :
      IsBareKey k → k.head? ≠ some '$' → SegmentsText s segments →
        PathText (k ++ s) (.key (String.ofList k) :: segments)

/-- What a text means as a path: blanks around it do not count. -/
def Denotes (text : String) (segments : List Segment) : Prop :=
  ∃ s, Text.Trimmed text.toList s ∧ PathText s segments

end JsonRules.Selector
