import LogPipeline.CharSet
import LogPipeline.Unicode.AgeData
import LogPipeline.Unicode.BreakData
import LogPipeline.Unicode.CategoryData
import LogPipeline.Unicode.PropertyData
import LogPipeline.Unicode.ScriptData

/-!
# Classes of characters by property

Categories, scripts, ages, behaviours at boundaries and binary properties, found by a name in any of its
loose spellings.
-/

namespace LogPipeline.Unicode

/-- A property name without case, blanks, hyphens, underscores and a leading `is`. The name `isc` is
not the category `c`. -/
def looseName (name : String) : String :=
  let lower := name.toList.map Char.toLower
  let (dropped, rest) := match lower with
    | 'i' :: 's' :: rest => (true, rest)
    | rest => (false, rest)
  let kept := rest.filter fun c => c ≠ ' ' ∧ c ≠ '_' ∧ c ≠ '-' ∧ c.toNat < 128
  String.ofList (if dropped ∧ kept = ['c'] then ['i', 's', 'c'] else kept)

/-- The members of a two-letter category. -/
def categoryPart (short : String) : CharSet :=
  match categoryData.lookup short with
  | some text => .ofPacked text
  | none => .empty

def categoryUnion (parts : List String) : CharSet :=
  parts.foldl (fun s part => s.union (categoryPart part)) .empty

/-- Everything that has some category other than unassigned, surrogates left out. -/
def assigned : CharSet := categoryUnion (categoryData.map Prod.fst)

/-- The two-letter categories that a loose category name stands for. -/
def categoryParts : List (List String × List String) := [
  (["lu", "uppercaseletter"], ["Lu"]), (["ll", "lowercaseletter"], ["Ll"]),
  (["lt", "titlecaseletter"], ["Lt"]), (["lm", "modifierletter"], ["Lm"]),
  (["lo", "otherletter"], ["Lo"]), (["mn", "nonspacingmark"], ["Mn"]),
  (["mc", "spacingmark"], ["Mc"]), (["me", "enclosingmark"], ["Me"]),
  (["nd", "decimalnumber", "digit"], ["Nd"]), (["nl", "letternumber"], ["Nl"]),
  (["no", "othernumber"], ["No"]), (["pc", "connectorpunctuation"], ["Pc"]),
  (["pd", "dashpunctuation"], ["Pd"]), (["ps", "openpunctuation"], ["Ps"]),
  (["pe", "closepunctuation"], ["Pe"]), (["pi", "initialpunctuation"], ["Pi"]),
  (["pf", "finalpunctuation"], ["Pf"]), (["po", "otherpunctuation"], ["Po"]),
  (["sm", "mathsymbol"], ["Sm"]), (["sc", "currencysymbol"], ["Sc"]),
  (["sk", "modifiersymbol"], ["Sk"]), (["so", "othersymbol"], ["So"]),
  (["zs", "spaceseparator"], ["Zs"]), (["zl", "lineseparator"], ["Zl"]),
  (["zp", "paragraphseparator"], ["Zp"]), (["cc", "control", "cntrl"], ["Cc"]),
  (["cf", "format"], ["Cf"]), (["co", "privateuse"], ["Co"]),
  (["lc", "casedletter"], ["Lu", "Ll", "Lt"]),
  (["l", "letter"], ["Lu", "Ll", "Lt", "Lm", "Lo"]),
  (["m", "mark", "combiningmark"], ["Mn", "Mc", "Me"]),
  (["n", "number"], ["Nd", "Nl", "No"]),
  (["p", "punctuation", "punct"], ["Pc", "Pd", "Ps", "Pe", "Pi", "Pf", "Po"]),
  (["s", "symbol"], ["Sm", "Sc", "Sk", "So"]),
  (["z", "separator"], ["Zs", "Zl", "Zp"])]

/-- The members of a general category, found by its loose name. -/
def category? (loose : String) : Option CharSet :=
  if loose = "any" then some .all
  else if loose = "assigned" then some assigned
  else if loose = "ascii" then some (.range 0 0x7F)
  else if loose = "cn" ∨ loose = "unassigned" then some assigned.complement
  else if loose = "c" ∨ loose = "other" then
    some (assigned.complement.union (categoryUnion ["Cc", "Cf", "Co"]))
  else (categoryParts.find? fun entry => entry.1.contains loose).map fun entry => categoryUnion entry.2

def scriptName? (loose : String) : Option String :=
  (scriptNames.find? fun entry => entry.2.contains loose).map Prod.fst

/-- The members of a script, found by its loose name. -/
def script? (loose : String) : Option CharSet :=
  (scriptName? loose).bind fun name => (scriptData.lookup name).map .ofPacked

/-- The characters used with a script, found by its loose name. -/
def scriptExtension? (loose : String) : Option CharSet :=
  (scriptName? loose).bind fun name =>
    ((scriptExtensionData.lookup name).orElse fun _ => scriptData.lookup name).map .ofPacked

/-- The members of a binary property, found by its loose name. -/
def property? (loose : String) : Option CharSet :=
  (propertyNames.find? fun entry => entry.2.contains loose).bind fun entry =>
    (propertyData.lookup entry.1).map .ofPacked

/-- The characters that were assigned by a version of Unicode, found by one of its loose names. -/
def age? (loose : String) : Option CharSet :=
  (ageData.findIdx? fun entry => entry.1.contains loose).map fun position =>
    (ageData.take (position + 1)).foldl (fun s entry => s.union (.ofPacked entry.2)) .empty

/-- The characters with a behaviour at a boundary, found by one of its loose names. -/
def break? (data : List (List String × String)) (loose : String) : Option CharSet :=
  (data.find? fun entry => entry.1.contains loose).map fun entry => .ofPacked entry.2

/-- The class that a single name stands for: a property, else a category, else a script. The names
`cf`, `sc` and `lc` are categories. -/
def classNamed? (name : String) : Option CharSet :=
  let loose := looseName name
  (property? loose).orElse fun _ => (category? loose).orElse fun _ => script? loose

/-- The class of a property with a value. -/
def classValued? (name value : String) : Option CharSet :=
  let property := looseName name
  let value := looseName value
  if property = "gc" ∨ property = "generalcategory" then category? value
  else if property = "sc" ∨ property = "script" then script? value
  else if property = "scx" ∨ property = "scriptextensions" then scriptExtension? value
  else if property = "age" then age? value
  else if property = "gcb" ∨ property = "graphemeclusterbreak" then break? graphemeBreakData value
  else if property = "wb" ∨ property = "wordbreak" then break? wordBreakData value
  else if property = "sb" ∨ property = "sentencebreak" then break? sentenceBreakData value
  else none

/-- Letters, marks, decimal digits, connectors and joiners. -/
def wordChars : CharSet := .ofPacked wordData

def decimalDigits : CharSet := categoryPart "Nd"

def whiteSpace : CharSet := (property? "whitespace").getD .empty

end LogPipeline.Unicode
