import SchemaBinding.CommandLine.Invocation
import SchemaBinding.CommandLine.Reconstruction
import SchemaBinding.Generator

/-!
# The program

One run of the program on a file tree: the configuration is read, what the
options say takes precedence over it, and the code is generated.
-/

namespace SchemaBinding.CommandLine

inductive Ending where
  /-- The arguments are not valid. -/
  | misuse
  | help
  | failed (failure : Failure)
  /-- The last line tells how many files were generated. -/
  | done (line : String)
deriving DecidableEq, Repr

namespace Ending

def status : Ending → Nat
  | .misuse => 2
  | .failed _ => 1
  | .help | .done _ => 0

end Ending

/-- What a run shows: the lines of the records, and its end. -/
structure Report where
  lines : List String
  ending : Ending
deriving DecidableEq, Repr

def readConfiguration (tree : FileTree) (path : FilePath) : Except Failure Configuration :=
  match tree.read path with
  | .error fault => .error (.file fault)
  | .ok bytes =>
      match Text.Utf8.decode? bytes with
      | none => .error .notUtf8
      | some text =>
          match Json.Value.ofText (String.ofList text) with
          | .error fault => .error (.json fault)
          | .ok value => Configuration.ofValue value

namespace Invocation

/-- A setting that a flag turns on. -/
def turnedOn (flag : Bool) (value : Json.Value) : Json.Value :=
  if flag then .boolean true else value

def override (invocation : Invocation) (configuration : Configuration) : Configuration :=
  { configuration with
    targetNamespace :=
      (invocation.targetNamespace.map Json.Value.text).getD configuration.targetNamespace
    recurse := turnedOn invocation.recurse configuration.recurse
    cleanOutput := turnedOn invocation.clean configuration.cleanOutput
    pascalCase := turnedOn invocation.pascalCase configuration.pascalCase
    nullable := turnedOn invocation.nullable configuration.nullable }

def configurationOf (tree : FileTree) (invocation : Invocation) :
    Except Failure Configuration := do
  let configuration ← (match invocation.configuration with
    | some path => readConfiguration tree path
    | none => return {})
  return invocation.override configuration

def generatorOf (tree : FileTree) (invocation : Invocation) : Except Failure Generator := do
  let configuration ← invocation.configurationOf tree
  let commandLine ← reconstruct tree parameters invocation.values
  return .new invocation.path configuration commandLine

/-- The code is generated; the last line of the program is returned. -/
def run (invocation : Invocation) : FileAction String :=
  fun tree =>
    match invocation.generatorOf tree with
    | .error failure => (Run.fail failure, tree)
    | .ok generator =>
        let output := invocation.output.toString
        let (run, _, tree) := Generator.generate output (generator, tree)
        let line (written : List FilePath) := s!"Generated {written.length} file(s) in {output}"
        (⟨run.records, run.outcome.map line⟩, tree)

/-- The lines of the records that are shown. -/
def shownLines (invocation : Invocation) (records : List Record) : List String :=
  let least := (Severity.ofVerbosity invocation.verbosity).level
  (records.filter (fun record => decide (least ≤ record.severity.level))).map Record.line

end Invocation

def execute (words : List String) (tree : FileTree) : Report × FileTree :=
  match Request.ofWords tree words with
  | .invalid => (⟨[], .misuse⟩, tree)
  | .help => (⟨[], .help⟩, tree)
  | .failed failure => (⟨[], .failed failure⟩, tree)
  | .invoke invocation =>
      let (run, tree) := invocation.run tree
      let ending :=
        match run.outcome with
        | .ok line => Ending.done line
        | .error failure => Ending.failed failure
      (⟨invocation.shownLines run.records, ending⟩, tree)

end SchemaBinding.CommandLine
