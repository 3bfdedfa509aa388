import SchemaBinding.CommandLine.Declaration

/-!
# Parameters of a command

A command takes arguments by their position and options by their names.  An
option has a value, is a flag, or counts how often it is given.
-/

namespace SchemaBinding.CommandLine

inductive ParameterKind where
  | argument
  | option
  | flag
  | count
deriving DecidableEq, Repr

structure Parameter where
  kind : ParameterKind
  name : String
  /-- The written forms of an option, the preferred one first. -/
  forms : List String := []
  default : Json.Value := .null
deriving Repr

namespace Parameter

/--
What texts declare, as its kind, its name and its forms.  An argument has a name and no
forms; an option, flag or counted option has a name and a form.  What has a form that turns
it off is a flag, and cannot be counted.
-/
def declared : ParameterKind → List String → Except Failure (ParameterKind × String × List String)
  | .argument, texts =>
      return (.argument, String.ofList (Declaration.asName (texts.headD "").toList), [])
  | kind, texts => do
      let declaration ← Declaration.ofTexts texts
      let name ← (declaration.name?.map String.ofList).elim (throw .wrongKind) pure
      let forms := declaration.forms.map String.ofList
      match kind, declaration.hasOff with
      | .count, true => throw .wrongKind
      | .option, true => return (.flag, name, forms)
      | _, false => if forms.isEmpty then throw .wrongKind else return (kind, name, forms)
      | _, true => return (kind, name, forms)

def declare (kind : ParameterKind) (texts : List String) (default : Json.Value) :
    Except Failure Parameter := do
  let (kind, name, forms) ← declared kind texts
  return ⟨kind, name, forms, default⟩

def ofDeclaration? : ParameterKind × List String × Json.Value → Option Parameter
  | (kind, texts, default) => (declare kind texts default).toOption

theorem ofDeclaration?_eq {kind kept : ParameterKind} {texts forms : List String} {name : String}
    (declares : (declared kind texts).toOption = some (kept, name, forms))
    (default : Json.Value) :
    ofDeclaration? (kind, texts, default) = some ⟨kept, name, forms, default⟩ := by
  unfold ofDeclaration? declare
  cases outcome : declared kind texts with
  | error _ =>
      rw [outcome] at declares
      cases declares
  | ok found =>
      rw [outcome] at declares
      obtain rfl : found = (kept, name, forms) := Option.some.inj declares
      dsimp only
      rw [outcome]
      rfl

def shownForm (parameter : Parameter) : String :=
  parameter.forms.headD ("--" ++ parameter.name)

end Parameter

def programName : String := "xsd_to_code"

def declarations : List (ParameterKind × List String × Json.Value) := [
  (.option, ["--namespace", "-n"], .null),
  (.flag, ["--recurse", "-r"], .boolean false),
  (.flag, ["--clean"], .boolean false),
  (.flag, ["--pascal-case"], .boolean false),
  (.flag, ["--nullable"], .boolean false),
  (.option, ["--config", "-c"], .null),
  (.count, ["--verbose", "-v"], .integer 0),
  (.argument, ["path"], .null),
  (.argument, ["output"], .null)]

def parameters : List Parameter :=
  declarations.filterMap Parameter.ofDeclaration?

/-- Each declaration declares a parameter, named after its longest form. -/
theorem parameters_eq : parameters = [
    { kind := .option, name := "namespace", forms := ["--namespace", "-n"] },
    { kind := .flag, name := "recurse", forms := ["--recurse", "-r"], default := .boolean false },
    { kind := .flag, name := "clean", forms := ["--clean"], default := .boolean false },
    { kind := .flag, name := "pascal_case", forms := ["--pascal-case"], default := .boolean false },
    { kind := .flag, name := "nullable", forms := ["--nullable"], default := .boolean false },
    { kind := .option, name := "config", forms := ["--config", "-c"] },
    { kind := .count, name := "verbose", forms := ["--verbose", "-v"], default := .integer 0 },
    { kind := .argument, name := "path" },
    { kind := .argument, name := "output" }] := by
  have isNamespace : (Parameter.declared .option ["--namespace", "-n"]).toOption =
      some (.option, "namespace", ["--namespace", "-n"]) := by decide
  have isRecurse : (Parameter.declared .flag ["--recurse", "-r"]).toOption =
      some (.flag, "recurse", ["--recurse", "-r"]) := by decide
  have isClean : (Parameter.declared .flag ["--clean"]).toOption =
      some (.flag, "clean", ["--clean"]) := by decide
  have isPascalCase : (Parameter.declared .flag ["--pascal-case"]).toOption =
      some (.flag, "pascal_case", ["--pascal-case"]) := by decide
  have isNullable : (Parameter.declared .flag ["--nullable"]).toOption =
      some (.flag, "nullable", ["--nullable"]) := by decide
  have isConfig : (Parameter.declared .option ["--config", "-c"]).toOption =
      some (.option, "config", ["--config", "-c"]) := by decide
  have isVerbose : (Parameter.declared .count ["--verbose", "-v"]).toOption =
      some (.count, "verbose", ["--verbose", "-v"]) := by decide
  have isPath : (Parameter.declared .argument ["path"]).toOption =
      some (.argument, "path", []) := by decide
  have isOutput : (Parameter.declared .argument ["output"]).toOption =
      some (.argument, "output", []) := by decide
  rw [parameters, declarations,
    List.filterMap_cons_some (Parameter.ofDeclaration?_eq isNamespace _),
    List.filterMap_cons_some (Parameter.ofDeclaration?_eq isRecurse _),
    List.filterMap_cons_some (Parameter.ofDeclaration?_eq isClean _),
    List.filterMap_cons_some (Parameter.ofDeclaration?_eq isPascalCase _),
    List.filterMap_cons_some (Parameter.ofDeclaration?_eq isNullable _),
    List.filterMap_cons_some (Parameter.ofDeclaration?_eq isConfig _),
    List.filterMap_cons_some (Parameter.ofDeclaration?_eq isVerbose _),
    List.filterMap_cons_some (Parameter.ofDeclaration?_eq isPath _),
    List.filterMap_cons_some (Parameter.ofDeclaration?_eq isOutput _), List.filterMap_nil]

def helpParameter : Parameter :=
  { kind := .flag, name := "help", forms := ["--help"] }

end SchemaBinding.CommandLine
