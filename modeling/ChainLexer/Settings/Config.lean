import ChainLexer.Settings.Document
import ChainLexer.Settings.Marker
import ChainLexer.Text.Quoted

/-!
# Settings of a lexer

The settings hold the text of the comment marker. They are written in code, read from a document, or
loaded from a file, and are checked before a lexer uses them.

## Main definitions

* `Config`: the settings
* `ConfigError`: why settings are refused
* `Config.marker`: the comment marker of the settings
* `Config.ofDocument`, `Config.load`: settings from a document and from a file
-/

namespace ChainLexer.Settings

open ChainLexer.Text

/-- The settings of a lexer. -/
structure Config where
  /-- The text that starts a comment. -/
  lineComment : String := "--"
deriving DecidableEq, Repr

instance : Inhabited Config := ⟨{}⟩

/-- Why a file cannot be read as text. -/
inductive ReadError where
  /-- There is no such file. -/
  | missing
  /-- The path names a directory. -/
  | directory
  /-- The bytes are not UTF-8. -/
  | notText
deriving DecidableEq, Repr

/-- The wording of a read error. -/
def ReadError.message : ReadError → String
  | missing => "No such file or directory (os error 2)"
  | directory => "Is a directory (os error 21)"
  | notText => "stream did not contain valid UTF-8"

/-- Why settings are refused. -/
inductive ConfigError where
  /-- The marker is not two operator characters. -/
  | invalidMarker (marker : String)
  /-- The file cannot be read. -/
  | unreadable (cause : ReadError)
  /-- The document is not well formed, or does not fit the settings. -/
  | malformed
deriving DecidableEq, Repr

/-- The wording of a configuration error. -/
def ConfigError.message : ConfigError → String
  | invalidMarker marker =>
    "invalid line comment marker " ++ quoted marker ++
      ": expected two non-word, non-space characters"
  | unreadable cause => "IO error: " ++ cause.message
  | malformed => "malformed settings document"

/-- What stands at a path. -/
inductive File where
  /-- Nothing. -/
  | missing
  /-- A directory. -/
  | directory
  /-- A file with these bytes. -/
  | bytes (contents : ByteArray)

/-- The text of a file. -/
def File.text : File → Except ReadError String
  | missing => .error .missing
  | directory => .error .directory
  | bytes contents =>
    match String.fromUTF8? contents with
    | some text => .ok text
    | none => .error .notText

namespace Config

/-- The comment marker of the settings, when its text is two operator characters. -/
def marker (config : Config) : Except ConfigError Marker :=
  match Marker.ofString? config.lineComment with
  | some marker => .ok marker
  | none => .error (.invalidMarker config.lineComment)

/-- The settings, when they are valid. -/
def checked (config : Config) : Except ConfigError Config :=
  config.marker.map fun _ => config

/-- The valid settings that a document describes. -/
def ofDocument (text : String) : Except ConfigError Config :=
  match Document.parse? text with
  | none => .error .malformed
  | some none => checked {}
  | some (some marker) => checked { lineComment := marker }

/-- The valid settings that a file describes. -/
def load (file : File) : Except ConfigError Config :=
  match file.text with
  | .error cause => .error (.unreadable cause)
  | .ok text => ofDocument text

end Config

end ChainLexer.Settings
