import SchemaBinding.Xml.NameTable

/-!
# Characters of a document

Which characters a document may hold, which of them are white space in markup,
and the single line feed that every line break is read as.
-/

namespace SchemaBinding.Xml

def isSpace (c : Char) : Bool :=
  c == ' ' || c == '\t' || c == '\n' || c == '\r'

def isCharCode (code : Nat) : Bool :=
  code == 0x09 || code == 0x0A || code == 0x0D || (0x20 ≤ code && code ≤ 0xD7FF) ||
    (0xE000 ≤ code && code ≤ 0xFFFD) || (0x10000 ≤ code && code ≤ 0x10FFFF)

def isChar (c : Char) : Bool :=
  isCharCode c.toNat

/-- Every line break is read as one line feed. -/
def normalizeLines : List Char → List Char
  | '\r' :: '\n' :: rest => '\n' :: normalizeLines rest
  | '\r' :: rest => '\n' :: normalizeLines rest
  | c :: rest => c :: normalizeLines rest
  | [] => []

def skipSpace (text : List Char) : List Char :=
  text.dropWhile isSpace
def after? : List Char → List Char → Option (List Char)
  | [], text => some text
  | _ :: _, [] => none
  | c :: start, d :: text => if c = d then after? start text else none

theorem after?_eq_some_iff (start text rest : List Char) :
    after? start text = some rest ↔ text = start ++ rest := by
  induction start generalizing text with
  | nil => simp [after?, eq_comm]
  | cons c start ih =>
      cases text with
      | nil => simp [after?]
      | cons d text =>
          by_cases same : c = d
          · subst same
            simp [after?, ih]
          · have other : d ≠ c := fun h => same h.symm
            simp [after?, same, other]

/-- What stands before the first occurrence of a mark, and what stands after it. -/
def splitAt? (mark : List Char) : List Char → Option (List Char × List Char)
  | [] => (after? mark []).map (([], ·))
  | c :: rest =>
      match after? mark (c :: rest) with
      | some remaining => some ([], remaining)
      | none => (splitAt? mark rest).map (fun (before, remaining) => (c :: before, remaining))

end SchemaBinding.Xml
