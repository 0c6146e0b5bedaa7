import JsonRules.Text.Property.Category
import JsonRules.Text.Property.Trait

namespace JsonRules.Text

/-- The letters that Unicode 17 has added. Names know them, while classes of characters in patterns
follow Unicode 16. -/
def newLetters : String :=
  "88f c5c cdc a7ce-a7cf a7d2 a7d4 a7f1 10940-10959 10ec5-10ec7 10efa-10efb 11b60-11b67
   11db0-11ddb 16ea0-16eb8 16ebb-16ed3 16ff2-16ff6 187f8-187ff 18d09-18d1e 18d80-18df2 1e6c0-1e6de
   1e6e0-1e6f5 1e6fe-1e6ff 2b73a-2b73f 2cea2-2cead 323b0-33479"

/-- The numerals, other than letters, that Unicode 17 has added. -/
def newNumerals : String := "11de0-11de9"

def letterTable : RangeTable :=
  (((rangesOf traits "alphabetic").getD []).union (Ranges.ofText newLetters)).toArray

def numeralTable : RangeTable :=
  ((["nd", "nl", "no"].map fun name => (rangesOf categories name).getD []).foldl Ranges.union
    (Ranges.ofText newNumerals)).toArray

def isLetter (c : Char) : Bool :=
  if c.val < 128 then c.isAlpha else letterTable.contains c

def isNumeral (c : Char) : Bool :=
  if c.val < 128 then c.isDigit else numeralTable.contains c

def isNameStart (c : Char) : Bool :=
  c == '_' || isLetter c

def isNameRest (c : Char) : Bool :=
  c == '_' || c == '.' || c == '[' || c == ']' || isLetter c || isNumeral c

end JsonRules.Text
