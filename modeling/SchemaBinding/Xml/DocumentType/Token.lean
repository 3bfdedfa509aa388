import SchemaBinding.Xml.Value

/-!
# Tokens of a document type

The words, marks and quoted texts of which the declarations of a document type
consist.  White space only separates them, and each token says which characters
may follow it directly.
-/

namespace SchemaBinding.Xml

variable (alphabet : Alphabet)

/-- Comments and processing instructions leave nothing behind. -/
def skipComment? (text : List Char) : Option (List Char) :=
  match splitAt? "--".toList text with
  | some (_, '>' :: rest) => some rest
  | _ => none

def skipInstruction? (text : List Char) : Option (List Char) := do
  let (target, rest) ← scanPlain? alphabet text
  if target.map Char.toLower = "xml".toList then none
  match rest with
  | '?' :: '>' :: rest => return rest
  | c :: rest => if isSpace c then (splitAt? "?>".toList rest).map Prod.snd else none
  | [] => none

namespace DocumentType

/-- How the text of a word is composed. -/
inductive WordKind where
  /-- A name without a colon. -/
  | plain
  /-- A name with one colon, which separates two names. -/
  | qualified
  /-- Any other sequence of name characters and colons. -/
  | loose
  /-- A name with a mark of occurrence behind it. -/
  | repeated
deriving DecidableEq, Repr

inductive Token where
  | openDeclaration (keyword : String)
  | closeDeclaration
  | word (kind : WordKind) (text : String)
  | pound (text : String)
  | literal (text : List Char)
  | openParen
  | closeParen (mark : Option Char)
  | bar
  | comma
  | percent
  | parameter (name : String)
  | openBracket
  | closeBracket
  | comment
deriving DecidableEq, Repr

namespace Token

def isMark (c : Char) : Bool :=
  c == '?' || c == '*' || c == '+'

/-- Whether the text begins with white space or one of the given characters. -/
def endsBefore (marks : List Char) (text : List Char) : Bool :=
  match text with
  | [] => false
  | c :: _ => isSpace c || marks.contains c

def wordKind (text : List Char) : WordKind :=
  match text with
  | [] => .loose
  | c :: _ =>
      if !alphabet.isStart c then .loose
      else
        match text.dropWhile (· != ':') with
        | [] => .plain
        | _ :: after => if after.isEmpty || after.contains ':' then .loose else .qualified

def scanWord? (text : List Char) : Option (Token × List Char) :=
  let spelled := text.takeWhile (fun c => alphabet.isPart c || c == ':')
  let rest := text.drop spelled.length
  let kind := wordKind alphabet spelled
  if spelled.isEmpty then none
  else
    match rest with
    | [] => none
    | c :: after =>
        if isMark c then
          if kind == .loose then none else some (.word .repeated (String.ofList spelled), after)
        else if endsBefore ['>', ')', ',', '|', '[', '%'] rest then
          some (.word kind (String.ofList spelled), rest)
        else none

def scanKeyword? (text : List Char) : Option (Token × List Char) :=
  let spelled := text.takeWhile Char.isAlpha
  let rest := text.drop spelled.length
  if spelled.isEmpty then none
  else
    match rest with
    | '%' :: after =>
        if after.isEmpty || endsBefore ['%'] after then none
        else some (.openDeclaration (String.ofList spelled), rest)
    | rest =>
        if endsBefore [] rest then some (.openDeclaration (String.ofList spelled), rest) else none

/-- A percent sign, or the parameter entity whose name follows it. -/
def scanPercent? (text : List Char) : Option (Token × List Char) :=
  match scanPlain? alphabet text with
  | some (name, ';' :: rest) => some (.parameter (String.ofList name), rest)
  | some _ => none
  | none => if endsBefore ['%'] text then some (.percent, text) else none

/-- The token at the beginning of a text that does not begin with white space. -/
def scan? (text : List Char) : Option (Token × List Char) :=
  match text with
  | '<' :: '!' :: '-' :: '-' :: rest => (skipComment? rest).map (Token.comment, ·)
  | '<' :: '!' :: rest => scanKeyword? rest
  | '<' :: '?' :: rest => (skipInstruction? alphabet rest).map (Token.comment, ·)
  | '>' :: rest => some (.closeDeclaration, rest)
  | '(' :: rest => some (.openParen, rest)
  | ')' :: rest =>
      match rest with
      | [] => none
      | c :: after =>
          if isMark c then some (.closeParen (some c), after)
          else if endsBefore ['>', ',', '|', ')'] rest then some (.closeParen none, rest)
          else none
  | '|' :: rest => some (.bar, rest)
  | ',' :: rest => some (.comma, rest)
  | '[' :: rest => some (.openBracket, rest)
  | ']' :: rest => some (.closeBracket, rest)
  | '%' :: rest => scanPercent? alphabet rest
  | '#' :: rest => do
      let (name, rest) ← scanPlain? alphabet rest
      if endsBefore [')', '>', '%', '|'] rest then return (.pound (String.ofList name), rest) else none
  | c :: rest =>
      if c = '"' || c = '\'' then do
        let (body, rest) ← splitAt? [c] rest
        if endsBefore ['>', '%', '['] rest then return (.literal body, rest) else none
      else scanWord? alphabet (c :: rest)
  | [] => none

/--
The tokens up to the end of a document type and the text after it.  The first
closing mark ends it, unless a bracket was opened: then the first closing mark
after the closing bracket does.
-/
def scanAllWith : Nat → Bool → List Char → Option (List Token × List Char)
  | 0, _, _ => none
  | fuel + 1, inside, text => do
      let (token, rest) ← scan? alphabet (skipSpace text)
      if token = .closeDeclaration && !inside then return ([token], rest)
      let inside := (inside || token == .openBracket) && token != .closeBracket
      let (tokens, remaining) ← scanAllWith fuel inside rest
      return (token :: tokens, remaining)

def scanAll? (text : List Char) : Option (List Token × List Char) :=
  scanAllWith alphabet text.length false text

end Token

end DocumentType

end SchemaBinding.Xml
