import Folio.Text.Blank

namespace Folio.Text

/-- Letters are compared without their case; the long s is a form of s. -/
def sameLetter (pattern c : Char) : Bool :=
  c.toLower == pattern || (pattern == 's' && c == 'ſ')

/-- Whether the text begins with this word in lower case, letter case aside. -/
def beginsWith : List Char → List Char → Bool
  | [], _ => true
  | _ :: _, [] => false
  | w :: word, c :: cs => sameLetter w c && beginsWith word cs

def isWebAddress (s : String) : Bool :=
  beginsWith "http://".toList s.toList || beginsWith "https://".toList s.toList

end Folio.Text
