import ConverterKit.Config.Override
import ConverterKit.Config.Read

/-!
# Loading a configuration

A configuration comes from a text, from a file, or from the environment alone. A file is read,
taken as a TOML document and overridden from the environment; only the result has to be one that a
converter can run with, so an override can repair what the file says, or break it.

## Main definitions

* `Config.LoadError`: why there is no configuration, and `Config.LoadError.message`
* `Config.parse`: from a text
* `Config.ofEnvironment`: from the environment alone
* `Config.load`: from a file
-/

namespace ConverterKit

namespace Config

/-- Why a file cannot be read. -/
inductive ReadFailure where
  /-- There is no such file. -/
  | notFound
  /-- It is a folder. -/
  | isDirectory
  /-- No file can have such a name. -/
  | invalidInput
  /-- What is in the file is not text in UTF-8. -/
  | invalidData
deriving DecidableEq

/-- Why there is no configuration. -/
inductive LoadError where
  /-- The file cannot be read. -/
  | unreadable (path : String) (failure : ReadFailure)
  /-- The text is not a document, or its settings are of the wrong kind. -/
  | malformed
  /-- A converter cannot run with the settings. -/
  | invalid (error : ConversionError)
deriving DecidableEq

/-- The error as it is shown to a user. -/
def LoadError.message : LoadError → String
  | .unreadable path _ => "Failed to read converter config " ++ Text.quoted path
  | .malformed => "Failed to parse converter configuration"
  | .invalid e => e.message

/-- Turn down a configuration that a converter cannot run with. -/
def checked (c : Config) : Except LoadError Config := c.validate.mapError .invalid

/-- The configuration of a text. -/
def parse (text : String) : Except LoadError Config :=
  match ofText? text with
  | some c => c.checked
  | none => .error .malformed

/-- Override the configuration so far from the environment and check the result. -/
def finish (lookup : String → Option String) : Work LoadError Config := do
  applyOverrides lookup
  Act.ofExcept (← Act.state).checked

/-- The default configuration, overridden from the environment. -/
def ofEnvironment (lookup : String → Option String) : Work LoadError Config := do
  Act.put {}
  finish lookup

/-- What loading a file begins with. -/
def loading (path : String) : Log.Event where
  level := .info
  message := "Loading converter config: " ++ Text.quoted path

/-- The text in the bytes of a file. -/
def decodeText (bytes : ByteArray) : Except ReadFailure String :=
  match String.fromUTF8? bytes with
  | some text => .ok text
  | none => .error .invalidData

/-- The configuration in a file, overridden from the environment. What is in a file, or why it
cannot be told, is up to `contents`. -/
def load (contents : String → Except ReadFailure ByteArray) (lookup : String → Option String)
    (path : String) : Work LoadError Config := do
  Act.note (.reported (loading path))
  let text ← Act.ofExcept (((contents path).bind decodeText).mapError (.unreadable path))
  match ofText? text with
  | none => Act.fail .malformed
  | some c =>
    Act.put c
    finish lookup

end Config

end ConverterKit
