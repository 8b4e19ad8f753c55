import Folio.Json.Number
import Folio.Json.Text

namespace Folio.Json

/-- Parts with commas between them. -/
def commaSeparated : List (List Char) → List Char
  | [] => []
  | [part] => part
  | part :: parts => part ++ ',' :: commaSeparated parts

def writeArray (parts : List (List Char)) : List Char :=
  '[' :: commaSeparated parts ++ [']']

def writeMember (member : String × List Char) : List Char :=
  writeString member.1 ++ ':' :: member.2

def writeObject (members : List (String × List Char)) : List Char :=
  '\x7b' :: commaSeparated (members.map writeMember) ++ ['\x7d']

def writeNull : List Char := "null".toList

def writeBool (b : Bool) : List Char :=
  if b then "true".toList else "false".toList

def writeOption (write : α → List Char) : Option α → List Char
  | none => writeNull
  | some a => write a

end Folio.Json
