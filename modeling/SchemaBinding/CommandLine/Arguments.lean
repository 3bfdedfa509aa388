import SchemaBinding.CommandLine.Parameter
import SchemaBinding.Text.Division

/-!
# Reading arguments

Options may stand anywhere between the arguments, up to a pair of hyphens.  The
value of an option is the rest of its word or the next word, whatever that is.
Short options may be written together after one hyphen.
-/

namespace SchemaBinding.CommandLine

/-- An option that is given, with its value unless it is a flag or counted. -/
structure Given where
  name : String
  value : Option String
deriving DecidableEq, Repr

/-- What a word with options says: the options in it, and one whose value is the next word. -/
structure Word where
  given : List Given
  awaiting : Option String
deriving DecidableEq, Repr

def parameterOf? (options : List Parameter) (form : String) : Option Parameter :=
  options.find? (fun parameter => parameter.forms.contains form)

def isShort (form : String) : Bool :=
  form.length == 2

/-- The options of a word of letters after one hyphen. -/
def readLetters? (options : List Parameter) : List Char → Option Word
  | [] => some ⟨[], none⟩
  | letter :: rest => do
      let parameter ← parameterOf? options (String.ofList ['-', letter])
      if parameter.kind = .option then
        if rest.isEmpty then return ⟨[], some parameter.name⟩
        else return ⟨[⟨parameter.name, some (String.ofList rest)⟩], none⟩
      else
        let word ← readLetters? options rest
        return { word with given := ⟨parameter.name, none⟩ :: word.given }

/-- The option of a word that begins with a long name, perhaps followed by its value. -/
def readLong? (parameter : Parameter) (value : Option (List Char)) : Option Word :=
  match parameter.kind, value with
  | .option, some value => some ⟨[⟨parameter.name, some (String.ofList value)⟩], none⟩
  | .option, none => some ⟨[], some parameter.name⟩
  | _, some _ => none
  | _, none => some ⟨[⟨parameter.name, none⟩], none⟩

def readWord? (options : List Parameter) (word : String) : Option Word :=
  let (form, value) := Text.cutFirst '=' word.toList
  let form := String.ofList form
  match if isShort form then none else parameterOf? options form with
  | some parameter => readLong? parameter value
  | none => if word.startsWith "--" then none else readLetters? options (word.toList.drop 1)

def isOptionWord (word : String) : Bool :=
  word.startsWith "-" && word != "-"

structure Arguments where
  given : List Given
  positional : List String
deriving DecidableEq, Repr

namespace Arguments

def prepend (given : List Given) (arguments : Arguments) : Arguments :=
  { arguments with given := given ++ arguments.given }

def addFirst (text : String) (arguments : Arguments) : Arguments :=
  { arguments with positional := text :: arguments.positional }

/--
The options and arguments in a sequence of words, of which the first may be the
awaited value of an option; none if an option is not understood.
-/
def readFrom? (options : List Parameter) : Option String → List String → Option Arguments
  | none, [] => some ⟨[], []⟩
  | some _, [] => none
  | some name, value :: rest => prepend [⟨name, some value⟩] <$> readFrom? options none rest
  | none, first :: rest =>
      if first == "--" then some ⟨[], rest⟩
      else if isOptionWord first then
        match readWord? options first with
        | some word => prepend word.given <$> readFrom? options word.awaiting rest
        | none => none
      else addFirst first <$> readFrom? options none rest

def read? (options : List Parameter) (words : List String) : Option Arguments :=
  readFrom? options none words

def count (arguments : Arguments) (name : String) : Nat :=
  (arguments.given.filter (fun given => given.name == name)).length

def has (arguments : Arguments) (name : String) : Bool :=
  arguments.count name != 0

/-- The value of an option, the last one where it is given more than once. -/
def value? (arguments : Arguments) (name : String) : Option String :=
  (arguments.given.reverse.find? (fun given => given.name == name)).bind Given.value

end Arguments

example : (Arguments.read? parameters ["-rvn", "A", "in", "--config=c", "out"]).map
    (fun arguments => (arguments.value? "namespace", arguments.positional)) =
      some (some "A", ["in", "out"]) := by
  decide +kernel

end SchemaBinding.CommandLine
