/-!
# White space

The characters that Unicode counts as white space or as separators of lines,
paragraphs and records, and the removal of those at both ends of a text.
-/

namespace SchemaBinding.Text

/-- A white space character of any script, the separators of records included. -/
def isBlank (c : Char) : Bool :=
  let n := c.toNat
  (0x09 ≤ n && n ≤ 0x0D) || (0x1C ≤ n && n ≤ 0x20) || n == 0x85 || n == 0xA0 ||
    n == 0x1680 || (0x2000 ≤ n && n ≤ 0x200A) || n == 0x2028 || n == 0x2029 ||
    n == 0x202F || n == 0x205F || n == 0x3000

def strip (text : List Char) : List Char :=
  ((text.dropWhile isBlank).reverse.dropWhile isBlank).reverse

/-- What is left does not begin with white space. -/
theorem head?_strip_not_blank {text : List Char} {c : Char}
    (first : (strip text).head? = some c) : isBlank c = false := by
  have begins : ∀ (l : List Char) (d : Char),
      (l.dropWhile isBlank).head? = some d → isBlank d = false := by
    intro l
    induction l with
    | nil => simp
    | cons a rest ih =>
        intro d found
        by_cases blank : isBlank a
        · rw [List.dropWhile_cons_of_pos blank] at found
          exact ih d found
        · rw [List.dropWhile_cons_of_neg blank] at found
          simp only [List.head?_cons, Option.some.injEq] at found
          subst found
          simpa using blank
  have tail_suffix : ∀ l : List Char,
      (l.reverse.dropWhile isBlank).reverse <+: l := by
    intro l
    have suffix := List.dropWhile_suffix (l := l.reverse) isBlank
    have reversed := List.reverse_prefix.2 suffix
    simpa using reversed
  apply begins text c
  have part := tail_suffix (text.dropWhile isBlank)
  obtain ⟨rest, whole⟩ := part
  unfold strip at first
  rw [← whole, List.head?_append, first]
  rfl

end SchemaBinding.Text
