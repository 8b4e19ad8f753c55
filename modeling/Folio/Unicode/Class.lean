import Folio.Unicode.Property
import Folio.Unicode.Script

namespace Folio.Unicode

inductive Class where
  | categories (among : List Category)
  | script (code : String)
  /-- What is in use with a script, whether it belongs to it or not. -/
  | usedWith (code : String)
  | property (p : Property)
  | wordCharacter
deriving DecidableEq, Repr

/-- Why there is no class of a name. -/
inductive NameFault where
  | unknownProperty
  | unknownValue
deriving DecidableEq, Repr

namespace Class

def has (n : Nat) : Class → Bool
  | categories among => among.contains (.of n)
  | script code => Script.of n == code
  | usedWith code => (Script.usedWith n).contains code
  | property p => p.has n
  | wordCharacter => isWordCharacter n

def digit : Class :=
  categories [.nd]

def space : Class :=
  property .whiteSpace

/-- What counts of a name. An `is` in front does not, except that `isc` is a name of its own. -/
def looseName (name : List Char) : List Char :=
  let plain (cs : List Char) : List Char :=
    (cs.filter fun c => c.toNat < 0x80 && c != ' ' && c != '_' && c != '-').map Char.toLower
  match name with
  | i :: s :: rest =>
    if i.toLower == 'i' && s.toLower == 's' then
      if plain rest == ['c'] then ['i', 's', 'c'] else plain rest
    else plain name
  | _ => plain name

/-- Whether a name stands for the looked-for loose name. -/
def isNamed (loose : List Char) (name : String) : Bool :=
  looseName name.toList == loose

def lookUp? (loose : List Char) (table : List (List String × α)) : Option α :=
  (table.find? fun entry => entry.1.any (isNamed loose)).map (·.2)

/-- Properties with other values than yes and no, and properties that name no class. -/
def furtherProperties : List String := [
  "Age", "Bidi_Class", "bc", "Bidi_Mirroring_Glyph", "bmg", "Bidi_Paired_Bracket", "bpb",
  "Bidi_Paired_Bracket_Type", "bpt", "Block", "blk", "Canonical_Combining_Class", "ccc",
  "Case_Folding", "cf", "Changes_When_NFKC_Casefolded", "CWKCF", "Composition_Exclusion", "CE",
  "Decomposition_Mapping", "dm", "Decomposition_Type", "dt", "East_Asian_Width", "ea",
  "Equivalent_Unified_Ideograph", "EqUIdeo", "Expands_On_NFC", "XO_NFC", "Expands_On_NFD",
  "XO_NFD", "Expands_On_NFKC", "XO_NFKC", "Expands_On_NFKD", "XO_NFKD", "FC_NFKC_Closure",
  "FC_NFKC", "Full_Composition_Exclusion", "Comp_Ex", "Grapheme_Cluster_Break", "GCB",
  "Hangul_Syllable_Type", "hst", "Indic_Positional_Category", "InPC",
  "Indic_Syllabic_Category", "InSC", "isc", "Jamo_Short_Name", "JSN", "Joining_Group", "jg",
  "Joining_Type", "jt", "Line_Break", "lb", "Lowercase_Mapping", "lc", "NFC_Quick_Check",
  "NFC_QC", "NFD_Quick_Check", "NFD_QC", "NFKC_Casefold", "NFKC_CF", "NFKC_Quick_Check",
  "NFKC_QC", "NFKD_Quick_Check", "NFKD_QC", "Name", "na", "Name_Alias", "Numeric_Type", "nt",
  "Numeric_Value", "nv", "Sentence_Break", "SB", "Simple_Case_Folding", "scf",
  "Simple_Lowercase_Mapping", "slc", "Simple_Titlecase_Mapping", "stc",
  "Simple_Uppercase_Mapping", "suc", "Titlecase_Mapping", "tc", "Unicode_1_Name", "na1",
  "Uppercase_Mapping", "uc", "Vertical_Orientation", "vo", "Word_Break", "WB"]

/-- Values that are names in the standard, but of no characters. -/
def emptyValues : List String :=
  ["Cs", "Surrogate", "Zzzz", "Unknown", "Hrkt", "Katakana_Or_Hiragana"]

def categoryNamed? (loose : List Char) : Option Class :=
  if loose == looseName "ASCII".toList then some (property .ascii)
  else (lookUp? loose Category.classes).map categories

/-- The code of the script with a name or a code. -/
def scriptNamed? (loose : List Char) : Option String :=
  match Script.names.find? fun (code, name) => isNamed loose code || isNamed loose name with
  | some (code, _) => if code == "Zzzz" then none else some code
  | none => (Script.formerCodes.find? fun (code, _) => isNamed loose code).map (·.2)

/-- The class with a single name: of a property, else of a category, else of a script. Three short
names stand for a category although there are properties with them. -/
def named (name : List Char) : Except NameFault Class :=
  let loose := looseName name
  let category := [['c', 'f'], ['s', 'c'], ['l', 'c']].contains loose
  match (if category then none else lookUp? loose Property.names), categoryNamed? loose,
    scriptNamed? loose with
  | some p, _, _ => .ok (property p)
  | none, some c, _ => .ok c
  | none, none, some code => .ok (script code)
  | none, none, none =>
    .error (if emptyValues.any (isNamed loose) then .unknownValue else .unknownProperty)

/-- The class of the characters for which a property has a value. -/
def withValue (name value : List Char) : Except NameFault Class :=
  let is (long short : String) : Bool :=
    isNamed (looseName name) long || isNamed (looseName name) short
  let found (c : Option Class) : Except NameFault Class :=
    match c with
    | some c => .ok c
    | none => .error .unknownValue
  if is "General_Category" "gc" then found (categoryNamed? (looseName value))
  else if is "Script" "sc" then found ((scriptNamed? (looseName value)).map script)
  else if is "Script_Extensions" "scx" then found ((scriptNamed? (looseName value)).map usedWith)
  else if (lookUp? (looseName name) Property.names).isSome
      || furtherProperties.any (isNamed (looseName name)) then .error .unknownValue
  else .error .unknownProperty

end Class

end Folio.Unicode
