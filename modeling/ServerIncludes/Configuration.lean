import ServerIncludes.Context
import ServerIncludes.Document.Directive
import ServerIncludes.Toml.Reader

/-!
Configurations: how documents are parsed and what the settings are at the start of a run, written as
TOML documents with a table `parse` and a table `directives`. Whatever is not given has its standard
value, and whatever has another name is left alone.
-/

namespace ServerIncludes

structure Configuration where
  policy : AttributePolicy
  settings : Settings
  deriving DecidableEq, Repr

/-- Why a text is no configuration. -/
inductive ConfigurationError where
  /-- It is no TOML document, or a key has a value of a kind that it does not take. -/
  | malformed
  | invalidTimeFormat (format : String)
  deriving DecidableEq, Repr

namespace Toml.Value

/-- The values of fields with given names: from a table by name, from an array in order. A point in
time counts as a table without these fields. -/
def fields? (names : List String) : Value → Option Entries
  | .table _ entries => some entries
  | .array items => some (names.zip items)
  | .tables last earlier =>
    some (names.zip ((last :: earlier).reverse.map (.table .headed)))
  | .scalar (.moment _) => some []
  | .scalar _ => none

def text? : Value → Option String
  | .scalar (.text content) => some content
  | _ => none

/-- True of tables and arrays that hold nothing. -/
def isEmpty : Value → Bool
  | .table _ entries => entries.isEmpty
  | .array items => items.isEmpty
  | _ => false

/-- One of several names: as a text, or as the only key of a table, with a value that holds
nothing. -/
def choice? (ofName? : String → Option α) : Value → Option α
  | .scalar (.text name) => ofName? name
  | .table _ [(name, value)] => if value.isEmpty then ofName? name else none
  | _ => none

end Toml.Value

/-- The value of a field, or its standard value if it is not given. -/
def Toml.Entries.field? (entries : Toml.Entries) (name : String)
    (read : Toml.Value → Option α) (standard : α) : Option α :=
  match entries.lookup name with
  | none => some standard
  | some value => read value

namespace Configuration

def standard : Configuration := ⟨.lenient, .standard⟩

/-- Reads the table that says how documents are parsed. -/
def policyOf? (value : Toml.Value) : Option AttributePolicy := do
  let fields ← value.fields? ["attributes"]
  fields.field? "attributes" (Toml.Value.choice? AttributePolicy.ofName?) .lenient

/-- Reads the table of settings. -/
def settingsOf? (value : Toml.Value) : Option Settings := do
  let fields ← value.fields? ["errmsg", "echomsg", "sizefmt", "timefmt", "encoding"]
  return {
    errorMessage := ← fields.field? "errmsg" Toml.Value.text? Settings.standard.errorMessage
    missingMessage := ← fields.field? "echomsg" Toml.Value.text? Settings.standard.missingMessage
    sizeFormat := ← fields.field? "sizefmt" (Toml.Value.choice? SizeFormat.ofName?)
      Settings.standard.sizeFormat
    timeFormat := ← fields.field? "timefmt" Toml.Value.text? Settings.standard.timeFormat
    encoding := ← fields.field? "encoding" (Toml.Value.choice? Encoding.ofName?)
      Settings.standard.encoding }

/-- Reads a configuration, with a time format that may be invalid. -/
def ofEntries? (entries : Toml.Entries) : Option Configuration :=
  return ⟨← entries.field? "parse" policyOf? standard.policy,
    ← entries.field? "directives" settingsOf? standard.settings⟩

/-- Reads a configuration. -/
def ofText (text : String) : Except ConfigurationError Configuration :=
  match (Toml.parse? text).bind ofEntries? with
  | none => .error .malformed
  | some configuration =>
    if TimeFormat.isValid configuration.settings.timeFormat then .ok configuration
    else .error (.invalidTimeFormat configuration.settings.timeFormat)

/-- A context that starts from the settings of a configuration. -/
def context (configuration : Configuration) : Context := .ofSettings configuration.settings

end Configuration

def ConfigurationError.message : ConfigurationError → String
  | malformed => "invalid engine configuration"
  | invalidTimeFormat format =>
    "invalid timefmt " ++ Quoted.quote format ++ " in engine configuration"

end ServerIncludes
