import SchemaBinding.CommandLine.Arguments
import SchemaBinding.FileTree

/-!
# Invocations

What the arguments of the program ask for.  Paths are resolved, which fails where
one is impossible: the schemas and the configuration must exist, and no file may
stand where the output goes.
-/

namespace SchemaBinding.CommandLine

/-- A valid use of the program. -/
structure Invocation where
  targetNamespace : Option String
  recurse : Bool
  clean : Bool
  pascalCase : Bool
  nullable : Bool
  configuration : Option FilePath
  verbosity : Nat
  path : FilePath
  output : FilePath
deriving DecidableEq, Repr

inductive Request where
  | invalid
  | help
  | failed (failure : Failure)
  | invoke (invocation : Invocation)
deriving DecidableEq, Repr

namespace Invocation

def resolved (tree : FileTree) (text : String) : Except Request FilePath :=
  (tree.resolve (.ofString text)).mapError (fun fault => .failed (.file fault))

/-- The resolved path of something that exists. -/
def existing (tree : FileTree) (text : String) : Except Request FilePath := do
  let path ← resolved tree text
  if (tree.lookup? path).isSome then return path else throw .invalid

def configuration? (tree : FileTree) : Option String → Except Request (Option FilePath)
  | none => .ok none
  | some text => some <$> existing tree text

/-- The resolved path of a directory that may not exist yet. -/
def outputPath (tree : FileTree) (text : String) : Except Request FilePath := do
  let path ← resolved tree text
  match tree.lookup? path with
  | some (.file _) => throw .invalid
  | _ => return path

def ofArguments (tree : FileTree) (arguments : Arguments) : Except Request Invocation := do
  let configuration ← configuration? tree (arguments.value? "config")
  match arguments.positional with
  | [] => throw .invalid
  | path :: rest =>
      let path ← existing tree path
      match rest with
      | [] => throw .invalid
      | output :: excess =>
          let output ← outputPath tree output
          if !excess.isEmpty then throw .invalid
          return {
            targetNamespace := arguments.value? "namespace"
            recurse := arguments.has "recurse"
            clean := arguments.has "clean"
            pascalCase := arguments.has "pascal_case"
            nullable := arguments.has "nullable"
            configuration
            verbosity := arguments.count "verbose"
            path
            output }

def values (invocation : Invocation) : List (Json.Key × Json.Value) :=
  let text : Option String → Json.Value := fun value => (value.map Json.Value.text).getD .null
  [ ("namespace", text invocation.targetNamespace),
    ("recurse", .boolean invocation.recurse),
    ("clean", .boolean invocation.clean),
    ("pascal_case", .boolean invocation.pascalCase),
    ("nullable", .boolean invocation.nullable),
    ("config", text (invocation.configuration.map FilePath.toString)),
    ("verbose", .integer invocation.verbosity),
    ("path", .text invocation.path.toString),
    ("output", .text invocation.output.toString)]

end Invocation

namespace Request

/-- What the words of a command line ask for; help is given whenever they can be read. -/
def ofWords (tree : FileTree) (words : List String) : Request :=
  match Arguments.read? (parameters ++ [helpParameter]) words with
  | none => .invalid
  | some arguments =>
      if arguments.has "help" then .help
      else
        match Invocation.ofArguments tree arguments with
        | .ok invocation => .invoke invocation
        | .error request => request

end Request

end SchemaBinding.CommandLine
