import JsonRules.Text.Property.Category
import JsonRules.Text.Property.Trait

namespace JsonRules.Text

def digitRanges : Ranges := (rangesOf categories "nd").getD []

/-- What words are made of: letters, marks, decimal digits, and what connects or joins them. -/
def wordRanges : Ranges :=
  (["mn", "mc", "me", "nd", "pc"].map fun name => (rangesOf categories name).getD []).foldl
    Ranges.union (((rangesOf traits "alphabetic").getD []).union
      ((rangesOf traits "joincontrol").getD []))

def blankRanges : Ranges := (rangesOf traits "whitespace").getD []

def digitTable : RangeTable := digitRanges.toArray

def wordTable : RangeTable := wordRanges.toArray

def isDecimalDigit (c : Char) : Bool :=
  if c.val < 128 then c.isDigit else digitTable.contains c

def isWord (c : Char) : Bool :=
  if c.val < 128 then c.isAlphanum || c == '_' else wordTable.contains c

end JsonRules.Text
