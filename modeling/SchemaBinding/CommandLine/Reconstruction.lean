import SchemaBinding.CommandLine.Parameter
import SchemaBinding.Failure

/-!
# Reconstructing command lines

The command line that gives parameters the values they have: the arguments, and
the options whose values are not their defaults.  A value that is the path of
something that exists is shown by its name only, so that the line does not
depend on where the program runs.
-/

namespace SchemaBinding.CommandLine

open Json

def shownValue (tree : FileTree) : Value → Except Failure String
  | .text text => do
      let path := FilePath.ofString text
      if ← (tree.pathExists path).mapError .file then return path.name else return text
  | value => .ok value.display

/-- The numbers by which counts are limited lie below this one, and not below its opposite. -/
def countLimit : Int := Int.ofNat (Nat.pow 2 63)

def mostLetters : Int := Int.ofNat (Nat.pow 2 36)

/-- A hyphen and a letter as often as a number says, which is not at all for a negative one. -/
def repeatedLetter (letter : Char) (count : Int) : Except Failure String :=
  if count < -countLimit || countLimit ≤ count then .error .uncountable
  else if mostLetters < count then .error .unkeepable
  else .ok (String.ofList ('-' :: List.replicate count.toNat letter))

/-- A hyphen and the first letter of a form, as often as a value says. -/
def repeated (form : String) (value : Value) : Except Failure String :=
  match form.toList.dropWhile (· == '-'), value.integer? with
  | [], _ => .error .noLetter
  | letter :: _, some count => repeatedLetter letter count
  | _, none => .error .wrongKind

/-- The words for parameters: those of arguments come before those of options. -/
structure Words where
  arguments : List String
  options : List String
deriving DecidableEq, Repr

namespace Words

def none : Words := ⟨[], []⟩

def append (first second : Words) : Words :=
  ⟨first.arguments ++ second.arguments, first.options ++ second.options⟩

def toList (words : Words) : List String :=
  words.arguments ++ words.options

end Words

/-- The words that give a parameter a value, of which the shown text is known. -/
def wordsFor (parameter : Parameter) (value : Value) (shown : String) : Except Failure Words :=
  if parameter.kind = .argument then .ok ⟨[shown], []⟩
  else if value.equals parameter.default then .ok .none
  else
    match parameter.kind with
    | .flag => .ok ⟨[], [parameter.shownForm]⟩
    | .count => (fun word => ⟨[], [word]⟩) <$> repeated parameter.shownForm value
    | .option | .argument => .ok ⟨[], [parameter.shownForm, shown]⟩

/-- The value of a parameter; whatever is empty is none. -/
def valueOf? (values : List (Key × Value)) (parameter : Parameter) : Option Value :=
  (Value.entry? parameter.name values).filter Value.isTrue

def wordsOf (tree : FileTree) (values : List (Key × Value)) :
    List Parameter → Except Failure Words
  | [] => .ok .none
  | parameter :: rest => do
      let words ← (match valueOf? values parameter with
        | none => return Words.none
        | some value => do wordsFor parameter value (← shownValue tree value))
      let others ← wordsOf tree values rest
      return words.append others

def reconstruct (tree : FileTree) (parameters : List Parameter)
    (values : List (Key × Value)) : Except Failure String := do
  if values.isEmpty then return programName
  let words ← wordsOf tree values parameters
  return String.intercalate " " (programName :: words.toList)

end SchemaBinding.CommandLine
