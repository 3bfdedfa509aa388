import SchemaBinding.CSharp.Source

/-!
# Reading literals

What the language takes for a string literal: between quotation marks, characters
stand for themselves and simple escapes for other ones, and no line ends inside.
The literal for a text is one exactly if the text is on one line.  It always ends
where it should, and what it spells is the text.
-/

namespace SchemaBinding.CSharp

def lineEnds : List Char := ['\n', '\r', '\u0085', '\u2028', '\u2029']

/-- The character that a simple escape stands for, by the one behind its backslash. -/
def simpleEscape? : Char → Option Char
  | '\'' => some '\''
  | '"' => some '"'
  | '\\' => some '\\'
  | '0' => some '\x00'
  | 'a' => some '\x07'
  | 'b' => some '\x08'
  | 'f' => some '\x0c'
  | 'n' => some '\n'
  | 'r' => some '\r'
  | 't' => some '\t'
  | 'v' => some '\x0b'
  | _ => none

/-- A character that neither ends a literal nor begins an escape. -/
def IsUnmarked (c : Char) : Prop :=
  c ≠ '"' ∧ c ≠ '\\'

/-- A character that may stand for itself in a literal. -/
def IsPlain (c : Char) : Prop :=
  IsUnmarked c ∧ c ∉ lineEnds

/-- Characters spell a text, where those of one kind stand for themselves. -/
inductive Spells (plain : Char → Prop) : List Char → List Char → Prop where
  | nil : Spells plain [] []
  | itself {c : Char} {written text : List Char} (isPlain : plain c)
      (more : Spells plain written text) : Spells plain (c :: written) (c :: text)
  | escaped {c d : Char} {written text : List Char} (denotes : simpleEscape? c = some d)
      (more : Spells plain written text) : Spells plain ('\\' :: c :: written) (d :: text)

def IsLiteralWith (plain : Char → Prop) (written text : List Char) : Prop :=
  ∃ inner, written = '"' :: (inner ++ ['"']) ∧ Spells plain inner text

def IsLiteral : List Char → List Char → Prop :=
  IsLiteralWith IsPlain

section Spelling

variable {plain other : Char → Prop} {text : List Char}

/-- Each character is escaped, or it stands for itself. -/
theorem spells_escape (each : ∀ c ∈ text, IsUnmarked c → plain c) :
    Spells plain (escape text) text := by
  induction text with
  | nil => exact .nil
  | cons c rest ih =>
      have later := ih fun d member => each d (List.mem_cons_of_mem c member)
      rw [escape]
      split
      · next marked =>
          apply Spells.escaped _ later
          rcases marked with rfl | rfl
          · rfl
          · rfl
      · next unmarked =>
          exact .itself (each c List.mem_cons_self (not_or.1 unmarked)) later

/-- What stands for itself in an escaped text is of the kind that may do so. -/
theorem plain_of_spells_escape (unmarked : ∀ c, plain c → IsUnmarked c) {value : List Char}
    (spelled : Spells plain (escape text) value) : ∀ c ∈ text, IsUnmarked c → plain c := by
  induction text generalizing value with
  | nil => exact fun c member => absurd member List.not_mem_nil
  | cons first rest ih =>
      rw [escape] at spelled
      generalize written : escape rest = inner at spelled ih
      intro c member apart
      split at spelled
      · next marked =>
          cases spelled with
          | itself isPlain _ => exact absurd rfl (unmarked _ isPlain).2
          | escaped _ more =>
              rcases List.mem_cons.1 member with rfl | below
              · exact absurd marked (not_or.2 apart)
              · exact ih more c below apart
      · next free =>
          cases spelled with
          | itself isPlain more =>
              rcases List.mem_cons.1 member with rfl | below
              · exact isPlain
              · exact ih more c below apart
          | escaped _ _ => exact absurd (.inr rfl) free

/--
Two spellings that are followed by a quotation mark are the same if they begin
the same text: neither can go on behind the mark that ends the other one.
-/
theorem Spells.append_inj (unmarked : ∀ c, plain c → IsUnmarked c)
    (otherUnmarked : ∀ c, other c → IsUnmarked c) {inner outer value rest more : List Char}
    (spelled : Spells plain inner text) (otherSpelled : Spells other outer value)
    (same : inner ++ '"' :: rest = outer ++ '"' :: more) :
    inner = outer ∧ text = value ∧ rest = more := by
  induction spelled generalizing outer value with
  | nil =>
      cases otherSpelled with
      | nil => exact ⟨rfl, rfl, (List.cons.inj same).2⟩
      | itself isPlain _ =>
          obtain ⟨rfl, _⟩ := List.cons.inj same
          exact absurd rfl (otherUnmarked _ isPlain).1
      | escaped _ _ => exact absurd (List.cons.inj same).1 (by decide)
  | @itself c written text isPlain _ ih =>
      cases otherSpelled with
      | nil =>
          obtain ⟨rfl, _⟩ := List.cons.inj same
          exact absurd rfl (unmarked _ isPlain).1
      | itself _ otherMore =>
          obtain ⟨rfl, tails⟩ := List.cons.inj same
          obtain ⟨rfl, rfl, ends⟩ := ih otherMore tails
          exact ⟨rfl, rfl, ends⟩
      | escaped _ _ =>
          obtain ⟨rfl, _⟩ := List.cons.inj same
          exact absurd rfl (unmarked _ isPlain).2
  | escaped denotes _ ih =>
      cases otherSpelled with
      | nil => exact absurd (List.cons.inj same).1 (by decide)
      | itself isPlain _ =>
          obtain ⟨rfl, _⟩ := List.cons.inj same
          exact absurd rfl (otherUnmarked _ isPlain).2
      | escaped otherDenotes otherMore =>
          obtain ⟨rfl, tails⟩ := List.cons.inj (List.cons.inj same).2
          obtain ⟨rfl, rfl, ends⟩ := ih otherMore tails
          rw [otherDenotes] at denotes
          exact ⟨rfl, by rw [Option.some.inj denotes], ends⟩

end Spelling

theorem toList_literal (text : String) :
    (literal text).toList = '"' :: (escape text.toList ++ ['"']) := by
  simp [literal]

/-- A literal for a text has no line end in the text. -/
theorem not_mem_lineEnds_of_isLiteral {text : String} {value : List Char}
    (isLiteral : IsLiteral (literal text).toList value) : ∀ c ∈ text.toList, c ∉ lineEnds := by
  obtain ⟨inner, same, spelled⟩ := isLiteral
  rw [toList_literal] at same
  obtain rfl : escape text.toList = inner := List.append_cancel_right (List.cons.inj same).2
  intro c member atEnd
  have unmarked : IsUnmarked c := by
    constructor
    · rintro rfl
      exact absurd atEnd (by decide)
    · rintro rfl
      exact absurd atEnd (by decide)
  exact (plain_of_spells_escape (fun _ => And.left) spelled c member unmarked).2 atEnd

/-- A source file that begins with the literal for a text begins with no other literal. -/
theorem eq_of_isLiteralWith {plain : Char → Prop} (unmarked : ∀ c, plain c → IsUnmarked c)
    {text : String} {rest written more value : List Char}
    (begins : (literal text).toList ++ rest = written ++ more)
    (isLiteral : IsLiteralWith plain written value) :
    written = (literal text).toList ∧ value = text.toList := by
  obtain ⟨inner, rfl, otherSpelled⟩ := isLiteral
  have spelled : Spells IsUnmarked (escape text.toList) text.toList :=
    spells_escape fun _ _ apart => apart
  rw [toList_literal] at begins ⊢
  simp only [List.cons_append, List.append_assoc, List.nil_append, List.cons.injEq,
    true_and] at begins
  obtain ⟨rfl, rfl, -⟩ := spelled.append_inj (fun _ => id) unmarked otherSpelled begins
  exact ⟨rfl, rfl⟩

/-- How what is written for a text is read at the beginning of a source file. -/
structure ReadsAsLiteral (text : String) : Prop where
  /-- If ends of lines stood for themselves, it would be the only literal there. -/
  spelled_iff : ∀ rest written more value, (literal text).toList ++ rest = written ++ more →
    (IsLiteralWith IsUnmarked written value ↔
      written = (literal text).toList ∧ value = text.toList)
  /-- It is the only literal there if no line ends in the text, and otherwise there is none. -/
  isLiteral_iff : ∀ rest written more value, (literal text).toList ++ rest = written ++ more →
    (IsLiteral written value ↔
      written = (literal text).toList ∧ value = text.toList ∧ ∀ c ∈ text.toList, c ∉ lineEnds)

/-- The literal for a text is read as the text, exactly if the text is on one line. -/
theorem literal_readsAsLiteral (text : String) : ReadsAsLiteral text where
  spelled_iff rest written more value begins := by
    constructor
    · exact eq_of_isLiteralWith (fun _ => id) begins
    · rintro ⟨rfl, rfl⟩
      exact ⟨_, toList_literal text, spells_escape fun _ _ unmarked => unmarked⟩
  isLiteral_iff rest written more value begins := by
    constructor
    · intro isLiteral
      obtain ⟨rfl, rfl⟩ := eq_of_isLiteralWith (fun _ => And.left) begins isLiteral
      exact ⟨rfl, rfl, not_mem_lineEnds_of_isLiteral isLiteral⟩
    · rintro ⟨rfl, rfl, oneLine⟩
      refine ⟨_, toList_literal text, spells_escape fun c member unmarked => ?_⟩
      exact ⟨unmarked, oneLine c member⟩

/-- What is written for a text with a line break is no literal. -/
theorem not_isLiteral_lineBreak : ¬ IsLiteral (literal "a\nb").toList "a\nb".toList := by
  intro isLiteral
  exact not_mem_lineEnds_of_isLiteral isLiteral '\n' (by decide) (by decide)

end SchemaBinding.CSharp
