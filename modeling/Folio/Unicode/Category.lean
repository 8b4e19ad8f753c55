import Folio.Unicode.Category.Table

namespace Folio.Unicode.Category

def of (n : Nat) : Category :=
  runs.value n .cn

/-- The names of the classes, each with the categories that belong to it. There is no name for the
surrogates, which are not characters. -/
def classes : List (List String × List Category) := [
  (["L", "Letter"], letters),
  (["LC", "Cased_Letter"], [lu, ll, lt]),
  (["Lu", "Uppercase_Letter"], [lu]),
  (["Ll", "Lowercase_Letter"], [ll]),
  (["Lt", "Titlecase_Letter"], [lt]),
  (["Lm", "Modifier_Letter"], [lm]),
  (["Lo", "Other_Letter"], [lo]),
  (["M", "Mark", "Combining_Mark"], marks),
  (["Mn", "Nonspacing_Mark"], [mn]),
  (["Mc", "Spacing_Mark"], [mc]),
  (["Me", "Enclosing_Mark"], [me]),
  (["N", "Number"], numbers),
  (["Nd", "Decimal_Number", "digit"], [nd]),
  (["Nl", "Letter_Number"], [nl]),
  (["No", "Other_Number"], [no]),
  (["P", "Punctuation", "punct"], punctuation),
  (["Pc", "Connector_Punctuation"], [pc]),
  (["Pd", "Dash_Punctuation"], [pd]),
  (["Ps", "Open_Punctuation"], [ps]),
  (["Pe", "Close_Punctuation"], [pe]),
  (["Pi", "Initial_Punctuation"], [pi]),
  (["Pf", "Final_Punctuation"], [pf]),
  (["Po", "Other_Punctuation"], [po]),
  (["S", "Symbol"], symbols),
  (["Sm", "Math_Symbol"], [sm]),
  (["Sc", "Currency_Symbol"], [sc]),
  (["Sk", "Modifier_Symbol"], [sk]),
  (["So", "Other_Symbol"], [so]),
  (["Z", "Separator"], separators),
  (["Zs", "Space_Separator"], [zs]),
  (["Zl", "Line_Separator"], [zl]),
  (["Zp", "Paragraph_Separator"], [zp]),
  (["C", "Other"], others),
  (["Cc", "Control", "cntrl"], [cc]),
  (["Cf", "Format"], [cf]),
  (["Co", "Private_Use"], [co]),
  (["Cn", "Unassigned"], [cn]),
  (["Any"], letters ++ marks ++ numbers ++ punctuation ++ symbols ++ separators ++ others),
  (["Assigned"], letters ++ marks ++ numbers ++ punctuation ++ symbols ++ separators
    ++ [cc, cf, cs, co])]

end Folio.Unicode.Category
