import SchemaBinding.Failure

/-!
# Configurations

The settings of a run, as they are read from a JSON record.  Values are taken as
they are: only where a setting is used does its value have to make sense.
Unknown keys are passed over, but a few keys are reserved for the configuration
itself and are no settings.
-/

namespace SchemaBinding

open Json

structure OutputSettings where
  /-- Whether a file is written beside its target and then moved to its place. -/
  atomicWrite : Value := .boolean true
  fileExtension : Value := .text "cs"
deriving Repr, Inhabited

namespace OutputSettings

def ofRecord (entries : List (Key × Value)) : OutputSettings where
  atomicWrite := (Value.entry? "atomic_write" entries).getD (.boolean true)
  fileExtension := (Value.entry? "file_extension" entries).getD (.text "cs")

def toRecord (settings : OutputSettings) : Value :=
  .record [("atomic_write", settings.atomicWrite), ("file_extension", settings.fileExtension)]

end OutputSettings

structure Configuration where
  /-- The namespace around every artifact. -/
  targetNamespace : Value := .text "Generated"
  /-- Whether subdirectories are searched for schemas. -/
  recurse : Value := .boolean false
  /-- Whether the files of the output directory are deleted first. -/
  cleanOutput : Value := .boolean false
  pascalCase : Value := .boolean false
  nullable : Value := .boolean false
  /-- Whether each file begins with a comment on its origin. -/
  addGenerationComment : Value := .boolean true
  /-- The namespaces used by every file besides those it needs. -/
  additionalUsings : Option Value := some (.list [])
  /-- The output settings; whatever is put there that is no record cannot be used. -/
  output : Option OutputSettings := some {}
  /-- Whether the configuration can be written as a record again. -/
  isListable : Bool := true
deriving Repr, Inhabited

namespace Configuration

/-- The configuration without settings, with the given ones in force. -/
def replace (entries : List (Key × Value)) : Configuration :=
  let setting (key : Key) (default : Value) := (Value.entry? key entries).getD default
  { targetNamespace := setting "target_namespace" (.text "Generated")
    recurse := setting "recurse" (.boolean false)
    cleanOutput := setting "clean_output" (.boolean false)
    pascalCase := setting "pascal_case" (.boolean false)
    nullable := setting "nullable" (.boolean false)
    addGenerationComment := setting "add_generation_comment" (.boolean true)
    additionalUsings := Value.entry? "csharp_additional_usings" entries
    output := none
    isListable := (Value.entry? "to_dict" entries).isNone }

def assign (configuration : Configuration) (key : String) (value : Value) :
    Except Failure Configuration :=
  match key with
  | "target_namespace" => .ok { configuration with targetNamespace := value }
  | "recurse" => .ok { configuration with recurse := value }
  | "clean_output" => .ok { configuration with cleanOutput := value }
  | "pascal_case" => .ok { configuration with pascalCase := value }
  | "nullable" => .ok { configuration with nullable := value }
  | "add_generation_comment" => .ok { configuration with addGenerationComment := value }
  | "csharp_additional_usings" => .ok { configuration with additionalUsings := some value }
  | "output" => .ok { configuration with output := none }
  | "to_dict" => .ok { configuration with isListable := false }
  | "__dict__" =>
      match value with
      | .record entries => .ok (replace entries)
      | _ => .error .wrongKind
  | "__class__" => .error .wrongKind
  | "__weakref__" => .error .missingSetting
  | _ => .ok configuration

def readEntry (configuration : Configuration) (entry : Key × Value) :
    Except Failure Configuration :=
  match entry with
  | (.plain "output", .record settings) =>
      .ok { configuration with output := some (.ofRecord settings) }
  | (.plain "csharp_additional_usings", value) =>
      if configuration.additionalUsings.isSome then
        configuration.assign "csharp_additional_usings" value
      else .ok configuration
  | (.plain key, value) => configuration.assign key value
  | (.broken _, _) => .ok configuration

/-- The configuration that a value describes, which must be a record. -/
def ofValue : Value → Except Failure Configuration
  | .record entries => entries.foldlM readEntry {}
  | _ => .error .missingSetting

def toRecord (configuration : Configuration) : Except Failure Value := do
  if !configuration.isListable then throw .wrongKind
  match configuration.additionalUsings, configuration.output with
  | some usings, some output =>
      return .record [
        ("target_namespace", configuration.targetNamespace),
        ("recurse", configuration.recurse),
        ("clean_output", configuration.cleanOutput),
        ("pascal_case", configuration.pascalCase),
        ("nullable", configuration.nullable),
        ("add_generation_comment", configuration.addGenerationComment),
        ("csharp_additional_usings", usings),
        ("output", output.toRecord)]
  | _, _ => throw .missingSetting

def outputSettings (configuration : Configuration) : Except Failure OutputSettings :=
  match configuration.output with
  | some settings => .ok settings
  | none => .error .missingSetting

def textsOf : List Value → Except Failure (List String)
  | [] => .ok []
  | .text value :: rest => (value :: ·) <$> textsOf rest
  | .brokenText codes :: rest => (replaced codes :: ·) <$> textsOf rest
  | _ => .error .wrongKind

/-- The namespaces that every file uses besides those it needs. -/
def usings (configuration : Configuration) : Except Failure (List String) :=
  match configuration.additionalUsings with
  | some (.list items) => textsOf items
  | some (.text value) => .ok (value.toList.map (fun c => String.ofList [c]))
  | some (.brokenText codes) => .ok (codes.map (fun code => replaced [code]))
  | some (.record entries) => .ok (entries.map (fun entry => entry.1.display))
  | some _ => .error .wrongKind
  | none => .error .missingSetting

/-- Whether a setting that sources show as it is holds a surrogate that stands alone. -/
def isUnpaired (configuration : Configuration) : Bool :=
  configuration.targetNamespace.isBroken ||
    match configuration.additionalUsings with
    | some (.list items) => items.any Value.isBroken
    | some (.record entries) => entries.any (fun entry => entry.1.isBroken)
    | some value => value.isBroken
    | none => false

/-- Where in the names of files something has no bytes. -/
inductive Misnaming where
  | inDirectory
  | inName
deriving DecidableEq, Repr

/-- Whether a name has no bytes: of the surrogates only U+DC80 to U+DCFF stand for a byte. -/
def isNameless (codes : List Nat) : Bool :=
  codes.any (fun code => !code.isValidChar && !(0xDC80 ≤ code && code ≤ 0xDCFF))

/-- Where the names of files have no bytes; their ending may hold the names of directories. -/
def misnaming? (configuration : Configuration) : Option Misnaming :=
  match configuration.output.map OutputSettings.fileExtension with
  | some (.brokenText codes) =>
      let parts := Text.splitAll '/'.toNat codes
      let below := parts.tail.filter (fun part => part ≠ [] ∧ part ≠ ['.'.toNat])
      let names := parts.take 1 ++ below
      if names.dropLast.any isNameless then some .inDirectory
      else if names.any isNameless then some .inName
      else none
  | _ => none

end Configuration

end SchemaBinding
