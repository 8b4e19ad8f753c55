import Folio.Json.Shape
import Folio.Page

namespace Folio

structure Settings where
  databasePath : String := "reports.sqlite"
  outputDirectory : String := "./Reports"
  fontsDirectory : String := "./fonts"
  fontFamily : String := "Arial"
  fallbackFontFamily : String := "LiberationSans"
  host : String := "127.0.0.1"
  port : Nat := 8080
  logFilter : String := "info"
  sanitize : SanitizePolicy := .preserve
  seedSample : Bool := true
deriving DecidableEq

/-- What stands at the place of the settings file. -/
inductive SettingsFile where
  | absent
  /-- Something that cannot be read as text. -/
  | unreadable
  | text (content : String)

def SettingsFile.ofBytes (bytes : ByteArray) : SettingsFile :=
  match String.fromUTF8? bytes with
  | some content => .text content
  | none => .unreadable

inductive SettingsError where
  | unreadable
  | invalid (fault : Json.Fault)
  | badPort (value : String)
deriving DecidableEq

/-- The values of the variables that are set. -/
abbrev Environment := List (String × String)

namespace SanitizePolicy
open Json

def variants : Variants SanitizePolicy where
  alone
    | "preserve" => some .preserve
    | "escape" => some .escape
    | _ => none
  tagged
    | "preserve" => some (null *> pure .preserve)
    | "escape" => some (null *> pure .escape)
    | _ => none

end SanitizePolicy

namespace Settings
open Json

def fileName : String := "appsettings.json"

def shape : Shape Settings where
  start := {}
  members := [
    optionalMember "database_path" string fun s c => { c with databasePath := s },
    optionalMember "output_directory" string fun s c => { c with outputDirectory := s },
    optionalMember "fonts_directory" string fun s c => { c with fontsDirectory := s },
    optionalMember "font_family" string fun s c => { c with fontFamily := s },
    optionalMember "fallback_font_family" string fun s c => { c with fallbackFontFamily := s },
    optionalMember "host" string fun s c => { c with host := s },
    optionalMember "port" (intBetween 0 65535) fun n c => { c with port := n.toNat },
    optionalMember "log_filter" string fun s c => { c with logFilter := s },
    optionalMember "sanitize" SanitizePolicy.variants.read fun p c => { c with sanitize := p },
    optionalMember "seed_sample" bool fun b c => { c with seedSample := b }]
  openEnded := true

def ofFile : SettingsFile → Except SettingsError Settings
  | .absent => .ok {}
  | .unreadable => .error .unreadable
  | .text content =>
    match readAll shape.read content.toList with
    | .ok settings => .ok settings
    | .error fault => .error (.invalid fault)

/-- A port: digits, perhaps behind a plus sign, that denote at most 65535. -/
def port? (value : String) : Option Nat :=
  let ds := match value.toList with
    | '+' :: ds => ds
    | ds => ds
  if !ds.isEmpty && ds.all Char.isDigit && Text.digitsValue ds ≤ 65535 then
    some (Text.digitsValue ds)
  else none

def override (env : Environment) (c : Settings) : Except SettingsError Settings := do
  let port ← match env.lookup "REPORT_PORT" with
    | none => pure c.port
    | some value =>
      match port? value with
      | some port => pure port
      | none => throw (.badPort value)
  return { c with
    databasePath := (env.lookup "REPORT_DATABASE").getD c.databasePath
    outputDirectory := (env.lookup "REPORT_OUTPUT_DIR").getD c.outputDirectory
    fontsDirectory := (env.lookup "REPORT_FONTS_DIR").getD c.fontsDirectory
    host := (env.lookup "REPORT_HOST").getD c.host
    port }

def load (file : SettingsFile) (env : Environment) : Except SettingsError Settings := do
  (← ofFile file).override env

end Settings

namespace SettingsError

def message : SettingsError → String
  | unreadable => s!"Cannot read configuration file {Settings.fileName}: not a text file"
  | invalid .malformed => s!"Invalid configuration in {Settings.fileName}: malformed text"
  | invalid .mismatch => s!"Invalid configuration in {Settings.fileName}: wrong kind of value"
  | invalid .truncated => s!"Invalid configuration in {Settings.fileName}: unexpected end"
  | badPort value => s!"Invalid value for REPORT_PORT: {value}"

end SettingsError

end Folio
