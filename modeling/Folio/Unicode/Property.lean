import Folio.Text.Blank
import Folio.Unicode.CaseFold
import Folio.Unicode.Category
import Folio.Unicode.Property.Table

namespace Folio.Unicode

inductive Property where
  | ascii | asciiHexDigit | alphabetic | bidiControl | bidiMirrored | caseIgnorable | cased
  | changesWhenCasefolded | changesWhenCasemapped | changesWhenLowercased
  | changesWhenTitlecased | changesWhenUppercased | dash | defaultIgnorableCodePoint | deprecated
  | diacritic | emoji | emojiComponent | emojiModifier | emojiModifierBase | emojiPresentation
  | extendedPictographic | extender | graphemeBase | graphemeExtend | graphemeLink | hexDigit
  | hyphen | idsBinaryOperator | idsTrinaryOperator | idContinue | idStart | ideographic
  | joinControl | logicalOrderException | lowercase | math | noncharacterCodePoint
  | otherAlphabetic | otherDefaultIgnorableCodePoint | otherGraphemeExtend | otherIdContinue
  | otherIdStart | otherLowercase | otherMath | otherUppercase | patternSyntax
  | patternWhiteSpace | prependedConcatenationMark | quotationMark | radical | regionalIndicator
  | sentenceTerminal | softDotted | terminalPunctuation | unifiedIdeograph | uppercase
  | variationSelector | whiteSpace | xidContinue | xidStart
deriving DecidableEq, Repr

namespace Property

def isOf (categories : List Category) (n : Nat) : Bool :=
  categories.contains (.of n)

def isUppercase (n : Nat) : Bool :=
  isOf [.lu] n || Table.otherUppercase.has n

def isLowercase (n : Nat) : Bool :=
  isOf [.ll] n || Table.otherLowercase.has n

def isCased (n : Nat) : Bool :=
  isUppercase n || isLowercase n || isOf [.lt] n

def isAlphabetic (n : Nat) : Bool :=
  isOf (.nl :: Category.letters) n || Table.otherAlphabetic.has n || isCased n

/-- A capital or title letter with a small letter of its own. -/
def isLowered (n : Nat) : Bool :=
  (isUppercase n || isOf [.lt] n) && !Table.capitalOnly.has n

def isRaised (n : Nat) : Bool :=
  isLowercase n && !Table.smallOnly.has n || Table.titleWithCapital.has n

def isTitled (n : Nat) : Bool :=
  isRaised n && !Table.capitalWithoutTitle.has n || Table.titleOnly.has n

def isFolded (n : Nat) : Bool :=
  isLowered n && !Table.capitalByFolding.has n || Table.smallByFolding.has n

def isGraphemeExtend (n : Nat) : Bool :=
  isOf [.mn, .me] n || Table.otherGraphemeExtend.has n

def isIdStart (n : Nat) : Bool :=
  (isOf (.nl :: Category.letters) n || Table.otherIdStart.has n) && !Table.patternSyntax.has n

def isIdContinue (n : Nat) : Bool :=
  isIdStart n || isOf [.mn, .mc, .nd, .pc] n || Table.otherIdContinue.has n

def isDefaultIgnorable (n : Nat) : Bool :=
  Table.otherDefaultIgnorableCodePoint.has n
    || (isOf [.cf] n || Table.variationSelector.has n) && !Table.visibleFormat.has n

/-- Whether the character with a code point has the property. -/
def has (n : Nat) : Property → Bool
  | ascii => n < 0x80
  | asciiHexDigit => Table.asciiHexDigit.has n
  | alphabetic => isAlphabetic n
  | bidiControl => Table.bidiControl.has n
  | bidiMirrored => Table.bidiMirrored.has n
  | caseIgnorable => isOf [.mn, .me, .cf, .lm, .sk] n || Table.insideWords.has n
  | cased => isCased n
  | changesWhenCasefolded => isFolded n
  | changesWhenCasemapped => isLowered n || isRaised n || isTitled n
  | changesWhenLowercased => isLowered n
  | changesWhenTitlecased => isTitled n
  | changesWhenUppercased => isRaised n
  | dash => Table.dash.has n
  | defaultIgnorableCodePoint => isDefaultIgnorable n
  | deprecated => Table.deprecated.has n
  | diacritic => Table.diacritic.has n
  | emoji => Table.emoji.has n
  | emojiComponent => Table.emojiComponent.has n
  | emojiModifier => Table.emojiModifier.has n
  | emojiModifierBase => Table.emojiModifierBase.has n
  | emojiPresentation => Table.emojiPresentation.has n
  | extendedPictographic => Table.extendedPictographic.has n
  | extender => Table.extender.has n
  | graphemeBase => !(isOf [.cc, .cf, .cs, .co, .cn, .zl, .zp] n || isGraphemeExtend n)
  | graphemeExtend => isGraphemeExtend n
  | graphemeLink => Table.graphemeLink.has n
  | hexDigit => Table.hexDigit.has n
  | hyphen => Table.hyphen.has n
  | idsBinaryOperator => Table.idsBinaryOperator.has n
  | idsTrinaryOperator => Table.idsTrinaryOperator.has n
  | idContinue => isIdContinue n
  | idStart => isIdStart n
  | ideographic => Table.ideographic.has n
  | joinControl => Table.joinControl.has n
  | logicalOrderException => Table.logicalOrderException.has n
  | lowercase => isLowercase n
  | math => isOf [.sm] n || Table.otherMath.has n
  | noncharacterCodePoint => Table.noncharacterCodePoint.has n
  | otherAlphabetic => Table.otherAlphabetic.has n
  | otherDefaultIgnorableCodePoint => Table.otherDefaultIgnorableCodePoint.has n
  | otherGraphemeExtend => Table.otherGraphemeExtend.has n
  | otherIdContinue => Table.otherIdContinue.has n
  | otherIdStart => Table.otherIdStart.has n
  | otherLowercase => Table.otherLowercase.has n
  | otherMath => Table.otherMath.has n
  | otherUppercase => Table.otherUppercase.has n
  | patternSyntax => Table.patternSyntax.has n
  | patternWhiteSpace => Table.patternWhiteSpace.has n
  | prependedConcatenationMark => Table.prependedConcatenationMark.has n
  | quotationMark => Table.quotationMark.has n
  | radical => Table.radical.has n
  | regionalIndicator => Table.regionalIndicator.has n
  | sentenceTerminal => Table.sentenceTerminal.has n
  | softDotted => Table.softDotted.has n
  | terminalPunctuation => Table.terminalPunctuation.has n
  | unifiedIdeograph => Table.unifiedIdeograph.has n
  | uppercase => isUppercase n
  | variationSelector => Table.variationSelector.has n
  | whiteSpace => Text.isBlank (Char.ofNat n)
  | xidContinue => isIdContinue n && !Table.incompatibleInside.has n
  | xidStart => isIdStart n && !Table.compatibleOnlyInside.has n

/-- The short and the long names of the properties; `ASCII` goes with the categories. -/
def names : List (List String × Property) := [
  (["AHex", "ASCII_Hex_Digit"], asciiHexDigit),
  (["Alpha", "Alphabetic"], alphabetic),
  (["Bidi_C", "Bidi_Control"], bidiControl),
  (["Bidi_M", "Bidi_Mirrored"], bidiMirrored),
  (["CI", "Case_Ignorable"], caseIgnorable),
  (["Cased"], cased),
  (["CWCF", "Changes_When_Casefolded"], changesWhenCasefolded),
  (["CWCM", "Changes_When_Casemapped"], changesWhenCasemapped),
  (["CWL", "Changes_When_Lowercased"], changesWhenLowercased),
  (["CWT", "Changes_When_Titlecased"], changesWhenTitlecased),
  (["CWU", "Changes_When_Uppercased"], changesWhenUppercased),
  (["Dash"], dash),
  (["DI", "Default_Ignorable_Code_Point"], defaultIgnorableCodePoint),
  (["Dep", "Deprecated"], deprecated),
  (["Dia", "Diacritic"], diacritic),
  (["Emoji"], emoji),
  (["EComp", "Emoji_Component"], emojiComponent),
  (["EMod", "Emoji_Modifier"], emojiModifier),
  (["EBase", "Emoji_Modifier_Base"], emojiModifierBase),
  (["EPres", "Emoji_Presentation"], emojiPresentation),
  (["ExtPict", "Extended_Pictographic"], extendedPictographic),
  (["Ext", "Extender"], extender),
  (["Gr_Base", "Grapheme_Base"], graphemeBase),
  (["Gr_Ext", "Grapheme_Extend"], graphemeExtend),
  (["Gr_Link", "Grapheme_Link"], graphemeLink),
  (["Hex", "Hex_Digit"], hexDigit),
  (["Hyphen"], hyphen),
  (["IDSB", "IDS_Binary_Operator"], idsBinaryOperator),
  (["IDST", "IDS_Trinary_Operator"], idsTrinaryOperator),
  (["IDC", "ID_Continue"], idContinue),
  (["IDS", "ID_Start"], idStart),
  (["Ideo", "Ideographic"], ideographic),
  (["Join_C", "Join_Control"], joinControl),
  (["LOE", "Logical_Order_Exception"], logicalOrderException),
  (["Lower", "Lowercase"], lowercase),
  (["Math"], math),
  (["NChar", "Noncharacter_Code_Point"], noncharacterCodePoint),
  (["OAlpha", "Other_Alphabetic"], otherAlphabetic),
  (["ODI", "Other_Default_Ignorable_Code_Point"], otherDefaultIgnorableCodePoint),
  (["OGr_Ext", "Other_Grapheme_Extend"], otherGraphemeExtend),
  (["OIDC", "Other_ID_Continue"], otherIdContinue),
  (["OIDS", "Other_ID_Start"], otherIdStart),
  (["OLower", "Other_Lowercase"], otherLowercase),
  (["OMath", "Other_Math"], otherMath),
  (["OUpper", "Other_Uppercase"], otherUppercase),
  (["Pat_Syn", "Pattern_Syntax"], patternSyntax),
  (["Pat_WS", "Pattern_White_Space"], patternWhiteSpace),
  (["PCM", "Prepended_Concatenation_Mark"], prependedConcatenationMark),
  (["QMark", "Quotation_Mark"], quotationMark),
  (["Radical"], radical),
  (["RI", "Regional_Indicator"], regionalIndicator),
  (["STerm", "Sentence_Terminal"], sentenceTerminal),
  (["SD", "Soft_Dotted"], softDotted),
  (["Term", "Terminal_Punctuation"], terminalPunctuation),
  (["UIdeo", "Unified_Ideograph"], unifiedIdeograph),
  (["Upper", "Uppercase"], uppercase),
  (["VS", "Variation_Selector"], variationSelector),
  (["WSpace", "White_Space", "space"], whiteSpace),
  (["XIDC", "XID_Continue"], xidContinue),
  (["XIDS", "XID_Start"], xidStart)]

end Property

/-- What a word is made of: letters, marks, digits, connecting punctuation and the two characters
that control joining. -/
def isWordCharacter (n : Nat) : Bool :=
  Property.isOf ([.nd, .pc] ++ Category.marks) n || Property.isAlphabetic n
    || Property.Table.joinControl.has n

end Folio.Unicode
