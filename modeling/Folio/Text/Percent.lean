import Folio.Text.Numeral
import Folio.Text.Utf8

namespace Folio.Text

/-- Replaces the escapes of bytes; those of protected bytes are kept. -/
def unescape (isProtected : UInt8 → Bool) : List UInt8 → List UInt8
  | [] => []
  | 0x25 :: a :: b :: rest =>
    match hexValue (Char.ofNat a.toNat), hexValue (Char.ofNat b.toNat) with
    | some high, some low =>
      let byte := (high * 16 + low).toUInt8
      if isProtected byte then 0x25 :: a :: b :: unescape isProtected rest
      else byte :: unescape isProtected rest
    | _, _ => 0x25 :: unescape isProtected (a :: b :: rest)
  | byte :: rest => byte :: unescape isProtected rest

def unescaped (isProtected : UInt8 → Bool) (s : String) : String :=
  lossyText (unescape isProtected s.toUTF8.toList)

end Folio.Text
