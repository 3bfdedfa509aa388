import SchemaBinding.Configuration
import SchemaBinding.Model.Definition

/-!
# Source files

Each artifact is written to a file of its own, line by line: the namespaces that
it uses, then the enumeration or class, with attributes that tell the names and
namespaces in documents.  In a literal each quotation mark or backslash follows a
backslash, and a name that is a reserved word follows an at sign.
-/

namespace SchemaBinding.CSharp

/-! ## Literals and reserved words -/

/-- The characters of a literal between its quotation marks. -/
def escape : List Char → List Char
  | [] => []
  | c :: rest => if c = '"' ∨ c = '\\' then '\\' :: c :: escape rest else c :: escape rest

def literal (text : String) : String :=
  "\"" ++ String.ofList (escape text.toList) ++ "\""

def keywords : List String := [
  "abstract", "as", "base", "bool", "break", "byte", "case", "catch", "char", "checked", "class",
  "const", "continue", "decimal", "default", "delegate", "do", "double", "else", "enum", "event",
  "explicit", "extern", "false", "finally", "fixed", "float", "for", "foreach", "goto", "if",
  "implicit", "in", "int", "interface", "internal", "is", "lock", "long", "namespace", "new",
  "null", "object", "operator", "out", "override", "params", "private", "protected", "public",
  "readonly", "ref", "return", "sbyte", "sealed", "short", "sizeof", "stackalloc", "static",
  "string", "struct", "switch", "this", "throw", "true", "try", "typeof", "uint", "ulong",
  "unchecked", "unsafe", "ushort", "using", "virtual", "void", "volatile", "while"]

/-- The name as it is written in a program. -/
def escapeName (name : String) : String :=
  if keywords.contains name then "@" ++ name else name

example : keywords.length = 77 := by decide

/-! ## Artifacts -/

def primitiveText : Primitive → String
  | .integer => "int"
  | .decimal => "decimal"
  | .boolean => "bool"
  | .timestamp => "DateTime"
  | .text => "string"

def targetText : Target → String
  | .primitive kind => primitiveText kind
  | .enumeration name | .structural name => name

def typeText (type : TypeRef) : String :=
  if type.isSequence then "List<" ++ targetText type.target ++ ">" else targetText type.target

/-- An attribute with a name in documents, and with a namespace that is not empty. -/
def nameAttribute (kind name : String) (uri : Option String) : String :=
  match uri with
  | none | some "" => kind ++ "(" ++ literal name ++ ")"
  | some uri => kind ++ "(" ++ literal name ++ ", Namespace = " ++ literal uri ++ ")"

/-- The attribute for what a field stands for. -/
def bindingText : Binding → String
  | .element name uri => nameAttribute "XmlElement" name uri
  | .attributeUse name => "XmlAttribute(" ++ literal name ++ ")"
  | .text => "XmlText"
  | .ignored => "XmlIgnore"

/-- What a field is set to at first. -/
def initialText (field : Field) : Option String :=
  if field.type.isSequence then some ("new " ++ typeText field.type ++ "()")
  else
    match field.role with
    | .flagOf _ initially => some (if initially then "true" else "false")
    | .plain | .flagged _ => none

def fieldLines (field : Field) : List String :=
  let initial :=
    match initialText field with
    | some value => " = " ++ value ++ ";"
    | none => ""
  [ "        [" ++ bindingText field.binding ++ "]",
    "        public " ++ typeText field.type ++ " " ++ escapeName field.name ++
      " \x7b get; set; \x7d" ++ initial ]

def memberLines (member : Member) : List String :=
  ["        [XmlEnum(" ++ literal member.literal ++ ")]", "        " ++ member.name ++ ","]

/-- Blocks of lines with an empty line between them. -/
def separated (blocks : List (List String)) : List String :=
  (blocks.intersperse [""]).flatten

def enumLines (model : EnumModel) : List String :=
  ["    [" ++ nameAttribute "XmlType" model.originalName model.uri ++ "]",
    "    public enum " ++ model.name, "    \x7b"] ++
    separated (model.members.map memberLines) ++ ["    \x7d"]

def rootLines : Option RootElement → List String
  | some root => ["    [" ++ nameAttribute "XmlRoot" root.name root.uri ++ "]"]
  | none => []

/-- What follows the name of a class. -/
def baseText : Option String → String
  | none | some "" => ""
  | some base => " : " ++ base

/-- The line that tells that a class has no content. -/
def emptyLine : String :=
  "        // No content: the schema type declares no elements or attributes."

def classLines (model : ClassModel) : List String :=
  rootLines model.root ++
    ["    [" ++ nameAttribute "XmlType" model.originalName model.uri ++ "]",
      "    public partial class " ++ model.name ++ baseText model.base, "    \x7b"] ++
    (if model.isEmpty then [emptyLine] else []) ++
    separated (model.fields.map fieldLines) ++ ["    \x7d"]

def artifactLines : Artifact → List String
  | .enumeration model => enumLines model
  | .structural model => classLines model

def neededUsings : Artifact → List String
  | .enumeration _ => ["System", "System.Xml.Serialization"]
  | .structural model =>
      ["System", "System.Xml.Serialization"] ++
        if model.fields.any (fun field => field.type.isSequence) then
          ["System.Collections.Generic"]
        else []

/-- The given names in order, each of them once. -/
def sortedNames (names : List String) : List String :=
  names.eraseDups.mergeSort (fun a b => decide (a ≤ b))

def version : String := "1.0.0"

/-- The comment on the origin of a file. -/
def commentLines (configuration : Configuration) (commandLine : String) : List String :=
  if configuration.addGenerationComment.isTrue then
    ["// Generated by xsd_to_code v" ++ version ++ " : " ++ commandLine]
  else []

/-- The lines of an artifact inside the namespace of the configuration. -/
def inNamespace (name : Json.Value) (lines : List String) : List String :=
  if name.isTrue then ["namespace " ++ name.display, "\x7b"] ++ lines ++ ["\x7d"] else lines

def sourceLines (configuration : Configuration) (commandLine : String) (usings : List String)
    (artifact : Artifact) : List String :=
  commentLines configuration commandLine ++
    (sortedNames (neededUsings artifact ++ usings)).map (fun name => "using " ++ name ++ ";") ++
    [""] ++ inNamespace configuration.targetNamespace (artifactLines artifact)

/-- The text of lines, each of them ended by a line break. -/
def textOf (lines : List String) : String :=
  String.join (lines.map (fun line => line ++ "\n"))

def source (configuration : Configuration) (commandLine : String) (artifact : Artifact) :
    Except Failure String := do
  let usings ← configuration.usings
  return textOf (sourceLines configuration commandLine usings artifact)

def fileName (configuration : Configuration) (artifact : Artifact) : Except Failure String := do
  let settings ← configuration.outputSettings
  let extension :=
    if settings.fileExtension.isTrue then settings.fileExtension.display else "cs"
  return artifact.name ++ "." ++ extension

end SchemaBinding.CSharp
