import SchemaBinding.Proofs.FieldTypes

/-!
# Names made of texts

Every text becomes a name, and what is a name already stays as it is.  Two texts
become the same name exactly if they agree, once what a name needs at its
beginning is added, in all characters that a name may hold but the underscore.
-/

namespace SchemaBinding

namespace Text.Identifier

def replaced (c : Char) : Char :=
  if isPart c then c else '_'

/-- A character that becomes an underscore: it is one, or no identifier holds it. -/
def IsBlurred (c : Char) : Prop :=
  c = '_' ∨ isPart c = false

/-- Characters that an identifier does not tell apart. -/
def Coincide (c d : Char) : Prop :=
  c = d ∨ IsBlurred c ∧ IsBlurred d

theorem replaced_of_isPart {c : Char} (part : isPart c = true) : replaced c = c :=
  if_pos part

theorem replaced_eq_underscore_iff (c : Char) : replaced c = '_' ↔ IsBlurred c := by
  unfold replaced IsBlurred
  split
  · next part => simp [part]
  · next foreign => simp [foreign]

theorem isPart_of_not_isBlurred {c : Char} (clear : ¬ IsBlurred c) : isPart c = true := by
  by_contra foreign
  exact clear (.inr (by simpa using foreign))

theorem replaced_eq_iff (c d : Char) : replaced c = replaced d ↔ Coincide c d := by
  constructor
  · intro same
    have alike : IsBlurred c ↔ IsBlurred d := by
      rw [← replaced_eq_underscore_iff, same, replaced_eq_underscore_iff]
    by_cases blurred : IsBlurred c
    · exact .inr ⟨blurred, alike.1 blurred⟩
    · have part := isPart_of_not_isBlurred blurred
      have otherPart := isPart_of_not_isBlurred (mt alike.2 blurred)
      rw [replaced_of_isPart part, replaced_of_isPart otherPart] at same
      exact .inl same
  · rintro (rfl | ⟨first, second⟩)
    · rfl
    · rw [(replaced_eq_underscore_iff c).2 first, (replaced_eq_underscore_iff d).2 second]

/-- What may begin an identifier is no digit. -/
theorem isDigit_of_isStart {c : Char} (start : isStart c = true) : c.isDigit = false := by
  have letters : c.isAlpha = (decide (c.val ≥ 'A'.val ∧ c.val ≤ 'Z'.val) ||
      decide (c.val ≥ 'a'.val) && decide (c.val ≤ 'z'.val)) := rfl
  rw [Bool.eq_false_iff]
  intro digit
  rcases Bool.or_eq_true_iff.1 start with letter | underscore
  · rw [letters] at letter
    simp only [Char.isDigit, Bool.or_eq_true, Bool.and_eq_true, decide_eq_true_eq, ge_iff_le,
      UInt32.le_iff_toNat_le, Char.reduceVal, UInt32.toNat_ofNat] at letter digit
    omega
  · rw [beq_iff_eq.1 underscore] at digit
    cases digit

/-- Characters are replaced neither by digits nor instead of digits. -/
theorem isDigit_replaced (c : Char) : (replaced c).isDigit = c.isDigit := by
  unfold replaced
  split
  · rfl
  · next foreign =>
      have noDigit : c.isDigit = false := by
        by_contra digit
        exact foreign (by simp [isPart, Char.isAlphanum, digit])
      rw [noDigit]
      rfl

/-- A text with an underscore before it where a name cannot begin like the text. -/
def guarded : List Char → List Char
  | [] => ['_']
  | c :: rest => if c.isDigit then '_' :: c :: rest else c :: rest

theorem sanitizeChars_eq_map (text : List Char) :
    sanitizeChars text = (guarded text).map replaced := by
  cases text with
  | nil => rfl
  | cons c rest =>
      change (if (replaced c).isDigit then _ else _) = _
      rw [isDigit_replaced, guarded]
      split <;> rfl

/-- Texts become the same name if they coincide once each can begin a name. -/
theorem sanitize_eq_iff (first second : String) :
    sanitize first = sanitize second ↔
      List.Forall₂ Coincide (guarded first.toList) (guarded second.toList) := by
  rw [sanitize, sanitize, String.ofList_inj, sanitizeChars_eq_map, sanitizeChars_eq_map,
    ← List.forall₂_eq_eq_eq, List.forall₂_map_left_iff, List.forall₂_map_right_iff]
  simp only [replaced_eq_iff]

/-- A digit at the beginning and a foreign character make the same name. -/
example : sanitize "2D" = sanitize "-2D" := by decide

def BeginsPlainly (text : String) : Prop :=
  ∃ c rest, text.toList = c :: rest ∧ c.isDigit = false

theorem guarded_of_beginsPlainly {text : String} (plain : BeginsPlainly text) :
    guarded text.toList = text.toList := by
  obtain ⟨c, rest, chars, noDigit⟩ := plain
  rw [chars, guarded, noDigit]
  rfl

end Text.Identifier

open Text Identifier

/-- A name begins with a letter or an underscore. -/
theorem IsName.beginsPlainly {name : String} (isName : IsName name) : BeginsPlainly name := by
  unfold IsName at isName
  cases chars : name.toList with
  | nil =>
      rw [chars] at isName
      cases isName
  | cons c rest =>
      rw [chars, isIdentifier, Bool.and_eq_true] at isName
      exact ⟨c, rest, chars, isDigit_of_isStart isName.1⟩

theorem sanitize_of_isName {name : String} (isName : IsName name) : sanitize name = name := by
  have parts : ∀ c ∈ name.toList, replaced c = c := fun c member =>
    replaced_of_isPart (List.all_eq_true.1 isName.all_isPart c member)
  rw [sanitize, sanitizeChars_eq_map, guarded_of_beginsPlainly isName.beginsPlainly,
    List.map_congr_left parts, List.map_id', String.ofList_toList]

/--
A way of naming gives every text a name and leaves names as they are; texts that
begin plainly get the same name exactly if they coincide character by character.
-/
structure IsRetraction (nameOf : String → String) : Prop where
  isName : ∀ text, IsName (nameOf text)
  eq_self_iff : ∀ text, nameOf text = text ↔ IsName text
  again : ∀ text, nameOf (nameOf text) = nameOf text
  eq_iff : ∀ first second, BeginsPlainly first → BeginsPlainly second →
    (nameOf first = nameOf second ↔ List.Forall₂ Coincide first.toList second.toList)

/-- Sanitizing is a retraction of the texts onto the names. -/
theorem sanitize_isRetraction : IsRetraction sanitize where
  isName := isName_sanitize
  eq_self_iff text := by
    refine ⟨fun same => ?_, sanitize_of_isName⟩
    rw [← same]
    exact isName_sanitize text
  again text := sanitize_of_isName (isName_sanitize text)
  eq_iff first second plainFirst plainSecond := by
    rw [sanitize_eq_iff, guarded_of_beginsPlainly plainFirst,
      guarded_of_beginsPlainly plainSecond]

end SchemaBinding
