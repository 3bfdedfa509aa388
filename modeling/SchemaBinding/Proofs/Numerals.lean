import Mathlib.Data.List.Induction
import Mathlib.Data.List.TakeWhile
import Mathlib.Data.Nat.Digits.Defs
import SchemaBinding.Text.Blank
import SchemaBinding.Text.Numeral

/-!
# The language of numerals

A numeral is read exactly if it is one by its grammar, and the number that is read
is the one that its digits denote in base ten.  White space around a text is taken
off up to the first and the last character that is none.
-/

namespace SchemaBinding.Text

/-- A text has white space around a core that neither begins nor ends with any. -/
structure IsStripped (text core : List Char) : Prop where
  around : ∃ before after, text = before ++ core ++ after ∧
    (∀ c ∈ before, isBlank c = true) ∧ ∀ c ∈ after, isBlank c = true
  head_not_blank : ∀ c, core.head? = some c → isBlank c = false
  last_not_blank : ∀ c, core.getLast? = some c → isBlank c = false

section Stripping

variable {before core after text : List Char}

theorem dropWhile_isBlank_eq_self (begins : ∀ c, core.head? = some c → isBlank c = false) :
    core.dropWhile isBlank = core := by
  cases core with
  | nil => rfl
  | cons c rest => exact List.dropWhile_cons_of_neg (by simp [begins c rfl])

theorem dropWhile_isBlank_append (blank : ∀ c ∈ before, isBlank c = true) (rest : List Char) :
    (before ++ rest).dropWhile isBlank = rest.dropWhile isBlank := by
  rw [List.dropWhile_append, List.dropWhile_eq_nil_iff.2 blank]
  exact if_pos rfl

theorem strip_of_isStripped (stripped : IsStripped text core) : strip text = core := by
  obtain ⟨⟨before, after, rfl, blankBefore, blankAfter⟩, begins, ends⟩ := stripped
  have reversed : core.reverse.dropWhile isBlank = core.reverse := by
    apply dropWhile_isBlank_eq_self
    simpa [List.head?_reverse] using ends
  rw [strip, List.append_assoc, dropWhile_isBlank_append blankBefore]
  cases core with
  | nil =>
      rw [List.nil_append, List.dropWhile_eq_nil_iff.2 blankAfter]
      rfl
  | cons c rest =>
      have front : (c :: rest ++ after).dropWhile isBlank = c :: rest ++ after :=
        dropWhile_isBlank_eq_self (by simpa using begins)
      rw [front, List.reverse_append, dropWhile_isBlank_append (by simpa using blankAfter),
        reversed, List.reverse_reverse]

theorem isStripped_strip (text : List Char) : IsStripped text (strip text) := by
  have front := List.takeWhile_append_dropWhile (p := isBlank) (l := text)
  have back := List.takeWhile_append_dropWhile (p := isBlank)
    (l := (text.dropWhile isBlank).reverse)
  refine ⟨⟨text.takeWhile isBlank, ((text.dropWhile isBlank).reverse.takeWhile isBlank).reverse,
    ?_, ?_, ?_⟩, fun c => head?_strip_not_blank, ?_⟩
  · rw [strip, List.append_assoc, ← List.reverse_append, back, List.reverse_reverse, front]
  · exact fun c member => List.mem_takeWhile_imp member
  · intro c member
    exact List.mem_takeWhile_imp (List.mem_reverse.1 member)
  · intro c last
    rw [strip, List.getLast?_reverse] at last
    have found := List.head?_dropWhile_not isBlank (text.dropWhile isBlank).reverse
    rw [last] at found
    exact found

/-- Every text has one core. -/
theorem strip_eq_iff : strip text = core ↔ IsStripped text core := by
  constructor
  · rintro rfl
    exact isStripped_strip text
  · exact strip_of_isStripped

end Stripping

namespace Numeral

/-- Digits of any script with their values; single underscores may stand between digits. -/
inductive IsDigits : List Char → List Nat → Prop where
  | last {c : Char} {value : Nat} (digit : digitValue? c = some value) : IsDigits [c] [value]
  | next {c : Char} {value : Nat} {rest : List Char} {values : List Nat}
      (digit : digitValue? c = some value) (more : IsDigits rest values) :
      IsDigits (c :: rest) (value :: values)
  | apart {c : Char} {value : Nat} {rest : List Char} {values : List Nat}
      (digit : digitValue? c = some value) (more : IsDigits rest values) :
      IsDigits (c :: '_' :: rest) (value :: values)

inductive Writes : List Char → List Nat → Int → Prop where
  | unsigned {text : List Char} {values : List Nat} (digits : IsDigits text values) :
      Writes text values (Nat.ofDigits 10 values.reverse : Nat)
  | positive {text : List Char} {values : List Nat} (digits : IsDigits text values) :
      Writes ('+' :: text) values (Nat.ofDigits 10 values.reverse : Nat)
  | negative {text : List Char} {values : List Nat} (digits : IsDigits text values) :
      Writes ('-' :: text) values (-(Nat.ofDigits 10 values.reverse : Nat))

section Digits

variable {text : List Char} {values : List Nat}

/-- Neither an underscore nor a sign is a digit. -/
theorem ne_of_digitValue? {c : Char} {value : Nat} (digit : digitValue? c = some value) :
    c ≠ '_' ∧ c ≠ '+' ∧ c ≠ '-' := by
  refine ⟨?_, ?_, ?_⟩
  · rintro rfl
    exact Option.some_ne_none _ (digit.symm.trans (by decide))
  · rintro rfl
    exact Option.some_ne_none _ (digit.symm.trans (by decide))
  · rintro rfl
    exact Option.some_ne_none _ (digit.symm.trans (by decide))

theorem IsDigits.exists_digit (digits : IsDigits text values) :
    ∃ c rest value, text = c :: rest ∧ digitValue? c = some value := by
  cases digits with
  | last digit => exact ⟨_, _, _, rfl, digit⟩
  | next digit more => exact ⟨_, _, _, rfl, digit⟩
  | apart digit more => exact ⟨_, _, _, rfl, digit⟩

theorem digits?_of_isDigits (digits : IsDigits text values) : digits? text = some values := by
  induction digits with
  | last digit => simp [digits?, digit]
  | @next c value rest values digit more ih =>
      -- What follows begins with a digit, so the first digit is neither the last nor set apart.
      obtain ⟨d, others, other, rfl, digitOther⟩ := more.exists_digit
      rw [digits?.eq_4 c d others (ne_of_digitValue? digitOther).1, digit, ih]
      rfl
  | apart digit more ih => simp [digits?, digit, ih]

theorem isDigits_of_digits? (read : digits? text = some values) : IsDigits text values := by
  fun_induction digits? text generalizing values with
  | case1 => cases read
  | case2 c =>
      obtain ⟨value, digit, rfl⟩ := Option.map_eq_some_iff.1 read
      exact .last digit
  | case3 c rest ih =>
      obtain ⟨value, digit, read⟩ := Option.bind_eq_some_iff.1 read
      obtain ⟨others, more, same⟩ := Option.bind_eq_some_iff.1 read
      obtain rfl := Option.some.inj same
      exact .apart digit (ih more)
  | case4 c d rest not_apart ih =>
      obtain ⟨value, digit, read⟩ := Option.bind_eq_some_iff.1 read
      obtain ⟨others, more, same⟩ := Option.bind_eq_some_iff.1 read
      obtain rfl := Option.some.inj same
      exact .next digit (ih more)

theorem digits?_eq_some_iff : digits? text = some values ↔ IsDigits text values :=
  ⟨isDigits_of_digits?, digits?_of_isDigits⟩

theorem ofDigits_eq (values : List Nat) : ofDigits values = Nat.ofDigits 10 values.reverse := by
  induction values using List.reverseRecOn with
  | nil => rfl
  | append_singleton values last ih =>
      rw [ofDigits_append, ih, List.reverse_append, List.reverse_singleton, List.singleton_append,
        Nat.ofDigits_cons]
      omega

theorem ofDigits_eq_zero_iff :
    Nat.ofDigits 10 values.reverse = 0 ↔ ∀ value ∈ values, value = 0 := by
  constructor
  · intro zero value member
    exact Nat.digits_zero_of_eq_zero (by decide) zero value (List.mem_reverse.2 member)
  · intro zeros
    rw [List.eq_replicate_of_mem zeros, List.reverse_replicate, Nat.ofDigits_replicate_zero]

end Digits

section Reading

variable {text : List Char} {values : List Nat} {count : Int}

/-- The first digit is not taken for a sign. -/
theorem splitSign_of_isDigits (digits : IsDigits text values) : splitSign text = (false, text) := by
  obtain ⟨c, rest, value, rfl, digit⟩ := digits.exists_digit
  obtain ⟨_, not_plus, not_minus⟩ := ne_of_digitValue? digit
  simp [splitSign, not_plus, not_minus]

theorem read?_of_writes (written : Writes text values count)
    (short : values.length ≤ maxDigits) : read? text = some count := by
  cases written with
  | unsigned digits =>
      simp [read?, splitSign_of_isDigits digits, digits?_eq_some_iff.2 digits, short, ofDigits_eq]
  | positive digits =>
      simp [read?, splitSign, digits?_eq_some_iff.2 digits, short, ofDigits_eq]
  | negative digits =>
      simp [read?, splitSign, digits?_eq_some_iff.2 digits, short, ofDigits_eq]

theorem exists_writes_of_read? (read : read? text = some count) :
    ∃ values, Writes text values count ∧ values.length ≤ maxDigits := by
  rcases signed : splitSign text with ⟨negative, magnitude⟩
  rw [read?, signed] at read
  obtain ⟨values, digits, read⟩ := Option.bind_eq_some_iff.1 read
  have written := digits?_eq_some_iff.1 digits
  split at read
  · next short =>
      obtain rfl := Option.some.inj read
      refine ⟨values, ?_, short⟩
      rw [ofDigits_eq]
      unfold splitSign at signed
      split at signed
      · cases signed
        exact .negative written
      · cases signed
        exact .positive written
      · cases signed
        exact .unsigned written
  · cases read

/-- A text is read as a number exactly if it writes the number with few enough digits. -/
theorem read?_eq_some_iff :
    read? text = some count ↔ ∃ values, Writes text values count ∧ values.length ≤ maxDigits := by
  constructor
  · exact exists_writes_of_read?
  · rintro ⟨values, written, short⟩
    exact read?_of_writes written short

/-- The number is zero exactly if all digits are, whatever the sign and the script. -/
theorem Writes.eq_zero_iff (written : Writes text values count) :
    count = 0 ↔ ∀ value ∈ values, value = 0 := by
  rw [← ofDigits_eq_zero_iff]
  cases written with
  | unsigned => exact Int.natCast_eq_zero
  | positive => exact Int.natCast_eq_zero
  | negative => exact Int.neg_eq_zero.trans Int.natCast_eq_zero

end Reading

end Numeral

end SchemaBinding.Text
