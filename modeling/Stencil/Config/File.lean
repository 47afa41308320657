import Stencil.Toml.Reader
import Stencil.Toml.Table
import Stencil.Toml.Text

/-!
# Settings files

Settings are kept in TOML files. `load?` reads and validates them, `save` writes them, and
`documentOf` is the document that is written: fields at their place in the order of the settings, with
empty ones left out, and a section for each strategy of the key format.
-/

namespace Stencil.Config

/-- What can go wrong with a settings file. -/
inductive FileError where
  | readSettings
  | parseSettings
  | invalidSettings (cause : RenderError)
  | readDocument
  | parseDocument
  | createDirectory
  | write
  deriving DecidableEq

namespace FileError

/-- What went wrong; the path of the file comes behind it. -/
def message : FileError → String
  | .readSettings => "Failed to read render config"
  | .parseSettings => "Failed to parse render config"
  | .invalidSettings _ => "Invalid render config"
  | .readDocument => "Failed to read config file"
  | .parseDocument => "Failed to parse config file"
  | .createDirectory => "Failed to create config directory"
  | .write => "Failed to write render config"

def cause? : FileError → Option RenderError
  | .invalidSettings cause => some cause
  | _ => none

end FileError

/-! ### Reading -/

/-- What stands at the path of a file, if anything. -/
abbrev FileContent := Option ByteArray

/-- The text of a file that exists and holds UTF-8. -/
def FileContent.text? (content : FileContent) : Option String := do
  String.fromUTF8? (← content)

/-- What the text of a document says. -/
def settingOfText? (text : String) : Option Setting := do (← Toml.parse? text).setting?

def settingsOfText? (text : String) : Option Settings := do
  settingsOfSetting? true (← settingOfText? text)

def stepOfText? (text : String) : Option StrategyStep := do
  stepOfSetting? true (← settingOfText? text)

/-- Reads a file, without a look at whether what it says is of use. -/
def parseFile {α : Type} (read : String → Option α) (content : FileContent) : Except FileError α :=
  match content.text? with
  | none => .error .readDocument
  | some text =>
    match read text with
    | none => .error .parseDocument
    | some value => .ok value

/-- The settings of a text that pass validation. -/
def loadText (text : String) : Except FileError Settings :=
  match settingsOfText? text with
  | none => .error .parseSettings
  | some settings =>
    match settings.validate with
    | .ok () => .ok settings
    | .error cause => .error (.invalidSettings cause)

/-- The settings of a file that pass validation. -/
def load (content : FileContent) : Except FileError Settings :=
  match content.text? with
  | none => .error .readSettings
  | some text => loadText text

/-- The settings of a file, or the defaults if there is none. -/
def loadOrDefault : FileContent → Except FileError Settings
  | none => .ok {}
  | some bytes => load (some bytes)

/-! ### Writing -/

def fieldPath (name : String) : Toml.Path := ⟨[], name⟩

def sectionOf (step : StrategyStep) : Toml.Section :=
  { header := .element (fieldPath "key_format")
    pairs := (fieldPath "strategy", .text step.strategy) ::
      if step.arguments.isEmpty then []
      else [(fieldPath "args", .array (step.arguments.map .text))] }

/-- The document that says what settings there are. -/
def documentOf (settings : Settings) : Toml.Document :=
  { pairs := [(fieldPath "perform_caching", .flag settings.performCaching),
      (fieldPath "cache_namespace", .text settings.cacheNamespace),
      (fieldPath "ignore_nil", .flag settings.ignoreNil)] ++
      match settings.defaultLifetime with
      | some seconds => [(fieldPath "default_expires_in_secs", .integer seconds)]
      | none => []
    sections := settings.keyFormat.map sectionOf }

/-- The text that settings are written as. -/
def textOf (settings : Settings) : String := String.ofList (documentOf settings).text

/-- What stands in the way of a file. -/
inductive Obstacle where
  /-- The directory of the file cannot be made. -/
  | noDirectory
  | notWritable
  deriving DecidableEq

/-- Writes settings, unless something stands in the way. -/
def save (settings : Settings) : Option Obstacle → Except FileError String
  | some .noDirectory => .error .createDirectory
  | some .notWritable => .error .write
  | none => .ok (textOf settings)

end Stencil.Config
