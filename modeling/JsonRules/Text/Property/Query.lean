import JsonRules.Text.Property.Age
import JsonRules.Text.Property.Category
import JsonRules.Text.Property.Script
import JsonRules.Text.Property.ScriptUse
import JsonRules.Text.Property.Segment
import JsonRules.Text.Property.Trait

namespace JsonRules.Text

inductive PropertyFault where
  | noProperty
  | noValue
deriving DecidableEq, Repr

/-- The form in which names are compared: only ASCII counts, and neither case, nor spaces, hyphens
and underscores, nor the word `is` in front. -/
def looseName (name : String) : String :=
  let chars := name.toList.map Char.toLower
  let isFirst := ['i', 's'].isPrefixOf chars
  let rest := (if isFirst then chars.drop 2 else chars).filter fun c =>
    c.val < 128 && c != ' ' && c != '_' && c != '-'
  if isFirst && rest == ['c'] then "isc" else String.ofList rest

def category? (name : String) : Option Ranges :=
  match name with
  | "any" => some [(0, Ranges.lastCode)]
  | "ascii" => some [(0, 0x7F)]
  | "assigned" => (rangesOf categories "cn").map Ranges.complement
  | _ =>
    match categoryGroups.find? (·.1.contains name) with
    | some (_, members) =>
      some (members.foldl (fun a m => a.union ((rangesOf categories m).getD [])) [])
    | none => rangesOf categories name

/-- A version of Unicode has all characters of the versions before it. -/
def upToAge? (name : String) : List CodeSet → Option Ranges
  | [] => none
  | s :: rest =>
    if s.names.contains name then some s.ranges else (upToAge? name rest).map s.ranges.union

/-- A set that holds no character counts as no set. -/
def valueOr (fault : PropertyFault) : Option Ranges → Except PropertyFault Ranges
  | none => .error fault
  | some [] => .error .noValue
  | some a => .ok a

def rangesNamed (name : String) : Except PropertyFault Ranges :=
  let name := looseName name
  valueOr .noProperty (rangesOf traits name <|> category? name <|> rangesOf scripts name)

/-- The names of the other properties, none of which can be asked for. -/
def otherProperties : List String := ["kaccountingnumeric", "cjkaccountingnumeric",
  "kothernumeric", "cjkothernumeric", "kprimarynumeric", "cjkprimarynumeric", "nv", "numericvalue",
  "bmg", "bidimirroringglyph", "bpb", "bidipairedbracket", "cf", "casefolding",
  "kcompatibilityvariant", "cjkcompatibilityvariant", "dm", "decompositionmapping", "equideo",
  "equivalentunifiedideograph", "fcnfkc", "fcnfkcclosure", "lc", "lowercasemapping", "nfkccf",
  "nfkccasefold", "nfkcscf", "nfkcsimplecasefold", "scf", "simplecasefolding", "sfc", "slc",
  "simplelowercasemapping", "stc", "simpletitlecasemapping", "suc", "simpleuppercasemapping", "tc",
  "titlecasemapping", "uc", "uppercasemapping", "kiicore", "cjkiicore", "kirggsource",
  "cjkirggsource", "kirghsource", "cjkirghsource", "kirgjsource", "cjkirgjsource", "kirgkpsource",
  "cjkirgkpsource", "kirgksource", "cjkirgksource", "kirgmsource", "cjkirgmsource", "kirgssource",
  "cjkirgssource", "kirgtsource", "cjkirgtsource", "kirgusource", "cjkirgusource", "kirguksource",
  "cjkirguksource", "kirgvsource", "cjkirgvsource", "kmandarin", "cjkmandarin", "krsunicode",
  "cjkrsunicode", "unicoderadicalstroke", "urs", "ktotalstrokes", "cjktotalstrokes",
  "kunihancore2020", "cjkunihancore2020", "isc", "isocomment", "jsn", "jamoshortname", "kehcat",
  "kehcore", "kehdesc", "kehfunc", "kehfval", "kehhg", "kehifao", "kehjsesh", "kehnomirror",
  "kehnorotate", "kehunik", "na", "name", "na1", "unicode1name", "namealias", "bc", "bidiclass",
  "bpt", "bidipairedbrackettype", "ccc", "canonicalcombiningclass", "dt", "decompositiontype", "ea",
  "eastasianwidth", "hst", "hangulsyllabletype", "incb", "indicconjunctbreak", "inpc",
  "indicpositionalcategory", "insc", "indicsyllabiccategory", "jg", "joininggroup", "jt",
  "joiningtype", "lb", "linebreak", "nfcqc", "nfcquickcheck", "nfdqc", "nfdquickcheck", "nfkcqc",
  "nfkcquickcheck", "nfkdqc", "nfkdquickcheck", "nt", "numerictype", "vo", "verticalorientation",
  "blk", "block", "bidim", "bidimirrored", "ce", "compositionexclusion", "compex",
  "fullcompositionexclusion", "cwkcf", "changeswhennfkccasefolded", "xonfc", "expandsonnfc",
  "xonfd", "expandsonnfd", "xonfkc", "expandsonnfkc", "xonfkd", "expandsonnfkd"]

def rangesWith (property value : String) : Except PropertyFault Ranges :=
  let property := looseName property
  let value := looseName value
  let is (names : List String) := names.contains property
  if is ["gc", "generalcategory"] then valueOr .noValue (category? value)
  else if is ["sc", "script"] then valueOr .noValue (rangesOf scripts value)
  else if is ["scx", "scriptextensions"] then
    valueOr .noValue (rangesOf scriptUses value <|> rangesOf scripts value)
  else if is ["age"] then valueOr .noValue (upToAge? value ages)
  else if is ["gcb", "graphemeclusterbreak"] then valueOr .noValue (rangesOf graphemeBreaks value)
  else if is ["wb", "wordbreak"] then valueOr .noValue (rangesOf wordBreaks value)
  else if is ["sb", "sentencebreak"] then valueOr .noValue (rangesOf sentenceBreaks value)
  else if otherProperties.contains property || (rangesOf traits property).isSome then
    .error .noValue
  else .error .noProperty

end JsonRules.Text
