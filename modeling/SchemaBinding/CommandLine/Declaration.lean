import SchemaBinding.Failure
import SchemaBinding.Text.Lowercase.Basic
import SchemaBinding.Text.Word.Basic

/-!
# Declarations of options

An option is declared by texts of which each is either its name or a form in
which it is written.  A declaration with a slash has two forms, of which the
second turns off what the first turns on; the parts of one that begins with a
slash are divided by a semicolon.  An option without a declared name is named
after its longest prefix.
-/

namespace SchemaBinding.CommandLine

structure Declaration where
  name : Option (List Char) := none
  /-- The forms, in the order in which they are declared. -/
  forms : List (List Char) := []
  /-- Whether a form turns the option off. -/
  hasOff : Bool := false
deriving DecidableEq, Repr

namespace Declaration

def addForm (declaration : Declaration) (form : List Char) : Declaration :=
  { declaration with forms := declaration.forms ++ [form] }

/-- The forms on both sides of a separator. -/
def addForms (declaration : Declaration) (text on off : List Char) :
    Except Failure Declaration :=
  let on := (on.reverse.dropWhile Text.isBlank).reverse
  let off := off.dropWhile Text.isBlank
  if on = off then .error (.sameForms (String.ofList text))
  else
    let declaration := if on.isEmpty then declaration else declaration.addForm on
    .ok { declaration with hasOff := declaration.hasOff || !off.isEmpty }

def separator (text : List Char) : Char :=
  if text.head? = some '/' then ';' else '/'

/-- The declaration with what one more text says: a word is the name, and there is one name. -/
def add (declaration : Declaration) (text : List Char) : Except Failure Declaration :=
  if Text.isWord text then
    if declaration.name.isSome then .error .wrongKind
    else .ok { declaration with name := some text }
  else
    match Text.cutFirst (separator text) text with
    | (_, none) => .ok (declaration.addForm text)
    | (on, some off) => declaration.addForms text on off

/-- How many characters a form has before what it spells: none, one, or one twice. -/
def prefixLength : List Char → Nat
  | [] => 0
  | [c] => if Text.isAlphanumeric c then 0 else 1
  | c :: d :: _ => if Text.isAlphanumeric c then 0 else if c = d then 2 else 1

/-- A text in small letters, with underscores in the place of hyphens. -/
def asName (text : List Char) : List Char :=
  Text.lowercase (text.map (fun c => if c = '-' then '_' else c))

def nameOf (form : List Char) : List Char :=
  asName (form.drop (prefixLength form))

/-- The first of the forms whose prefix is longest. -/
def longest? (forms : List (List Char)) : Option (List Char) :=
  [2, 1, 0].findSome? (fun length => forms.find? (fun form => prefixLength form = length))

/-- The name of an option: the declared one, or the one that a form spells if it is a word. -/
def name? (declaration : Declaration) : Option (List Char) :=
  match declaration.name with
  | some name => some name
  | none => ((longest? declaration.forms).map nameOf).filter Text.isWord

def ofTexts (texts : List String) : Except Failure Declaration :=
  texts.foldlM (fun declaration text => declaration.add text.toList) {}

example : (ofTexts ["-f", "--Foo-Bar"]).toOption.bind name? = some "foo_bar".toList := by
  decide

end Declaration

end SchemaBinding.CommandLine
