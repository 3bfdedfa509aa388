import SchemaBinding.Xml.Declaration

/-!
# Openings of documents

The declaration of a document consists of ASCII characters only.  Two texts that
begin with the same ASCII characters therefore have the same declaration, as far
as it names an encoding.
-/

namespace SchemaBinding

/-- A character of ASCII other than the null character. -/
def IsAscii (c : Char) : Prop :=
  0 < c.toNat ∧ c.toNat < 0x80

instance (c : Char) : Decidable (IsAscii c) :=
  inferInstanceAs (Decidable (_ ∧ _))

theorem isAscii_of_all {text : List Char} (all : text.all (fun c => decide (IsAscii c)) = true) :
    ∀ c ∈ text, IsAscii c :=
  fun c member => of_decide_eq_true (List.all_eq_true.mp all c member)

/-- Letters and digits are visible characters of ASCII. -/
theorem bounds_of_isAlphanum {c : Char} (alphanumeric : c.isAlphanum = true) :
    0x20 < c.toNat ∧ c.toNat < 0x80 := by
  have code : c.toNat = c.val.toNat := rfl
  have letter : c.isAlpha = (decide (c.val ≥ 'A'.val ∧ c.val ≤ 'Z'.val) ||
      decide (c.val ≥ 'a'.val) && decide (c.val ≤ 'z'.val)) := rfl
  simp only [Char.isAlphanum, letter, Char.isDigit, Bool.or_eq_true, decide_eq_true_eq,
    ge_iff_le, UInt32.le_iff_toNat_le, Bool.and_eq_true, Char.reduceVal,
    UInt32.toNat_ofNat] at alphanumeric
  omega

namespace Xml

theorem isAscii_of_isSpace {c : Char} (space : isSpace c) : IsAscii c := by
  simp only [isSpace, Bool.or_eq_true, beq_iff_eq] at space
  rcases space with ((rfl | rfl) | rfl) | rfl <;> decide

namespace Declaration

theorem isAscii_of_isValueChar {c : Char} (value : isValueChar c) : IsAscii c := by
  simp only [isValueChar, Bool.or_eq_true, beq_iff_eq] at value
  rcases value with ((alphanumeric | rfl) | rfl) | rfl
  · have bounds := bounds_of_isAlphanum alphanumeric
    exact ⟨by omega, bounds.2⟩
  · decide
  · decide
  · decide

end Declaration

/-- All characters of a text are ASCII, but for those that are still to be read. -/
def AsciiUpTo (text rest : List Char) : Prop :=
  ∀ c ∈ text, IsAscii c ∨ c ∈ rest

namespace AsciiUpTo

variable {text middle rest : List Char} {c : Char}

theorem refl (text : List Char) : AsciiUpTo text text :=
  fun _ member => .inr member

theorem trans (first : AsciiUpTo text middle) (second : AsciiUpTo middle rest) :
    AsciiUpTo text rest := by
  intro c member
  rcases first c member with ascii | later
  · exact .inl ascii
  · exact second c later

theorem cons (ascii : IsAscii c) (others : AsciiUpTo text rest) : AsciiUpTo (c :: text) rest := by
  intro d member
  rcases List.mem_cons.mp member with rfl | later
  · exact .inl ascii
  · exact others d later

theorem append (ascii : ∀ c ∈ text, IsAscii c) (rest : List Char) :
    AsciiUpTo (text ++ rest) rest := by
  intro c member
  rcases List.mem_append.mp member with before | after
  · exact .inl (ascii c before)
  · exact .inr after

theorem append_of_all (all : text.all (fun c => decide (IsAscii c)) = true) (rest : List Char) :
    AsciiUpTo (text ++ rest) rest :=
  append (isAscii_of_all all) rest

theorem takeWhile_append {p : Char → Bool} (ascii : ∀ c, p c → IsAscii c)
    (text rest : List Char) : AsciiUpTo (text.takeWhile p ++ rest) rest :=
  append (fun c member => ascii c (List.all_eq_true.mp List.all_takeWhile c member)) rest

theorem append_left (before : List Char) (others : AsciiUpTo text rest) :
    AsciiUpTo (before ++ text) (before ++ rest) := by
  intro c member
  rcases List.mem_append.mp member with first | later
  · exact .inr (List.mem_append_left rest first)
  · exact (others c later).imp_right (List.mem_append_right before)

theorem skipSpace (text : List Char) : AsciiUpTo text (skipSpace text) := by
  have parts := takeWhile_append (fun c => isAscii_of_isSpace) text (text.dropWhile isSpace)
  rwa [List.takeWhile_append_dropWhile] at parts

theorem of_skipSpace (skipped : Xml.skipSpace text = c :: rest) (ascii : IsAscii c) :
    AsciiUpTo text rest :=
  (skipSpace text).trans (skipped ▸ cons ascii (refl rest))

/-- A name that is not checked for its characters stays to be read. -/
theorem drop_takeWhile (p : Char → Bool) (text : List Char) :
    AsciiUpTo text (text.takeWhile p ++ text.drop (text.takeWhile p).length) := by
  rw [List.prefix_iff_eq_append.mp (List.takeWhile_prefix p)]
  exact refl text

theorem value (text : List Char) :
    AsciiUpTo text (text.drop (text.takeWhile Declaration.isValueChar).length) := by
  have parts := takeWhile_append (fun c => Declaration.isAscii_of_isValueChar) text
    (text.drop (text.takeWhile Declaration.isValueChar).length)
  rwa [List.prefix_iff_eq_append.mp (List.takeWhile_prefix _)] at parts

end AsciiUpTo

namespace Declaration

theorem isQuote {quote : Char} {isEmpty : Bool}
    (valid : ¬ (isEmpty || (quote != '"' && quote != '\'')) = true) :
    quote = '"' ∨ quote = '\'' := by
  by_cases double : quote = '"'
  · exact .inl double
  · by_cases single : quote = '\''
    · exact .inr single
    · exact absurd (by simp [double, single]) valid

/-- An item has white space before it, and no character beyond ASCII outside its name. -/
theorem item?_cases {text rest : List Char} {item : Option (List Char × List Char)}
    (read : item? text = some (item, rest)) :
    item = none ∧ AsciiUpTo text [] ∨
      ∃ name value first others, item = some (name, value) ∧ text = first :: others ∧
        isSpace first ∧ AsciiUpTo text (name ++ rest) := by
  unfold item? at read
  -- One split for each thing that is expected; where it is missing there is no item.
  split at read
  · obtain ⟨rfl, rfl⟩ := Prod.mk.inj (Option.some.inj read)
    exact .inl ⟨rfl, .refl []⟩
  · next first others =>
      split at read
      · cases read
      · next space =>
          have leads : isSpace first := by simpa using space
          have spaced : AsciiUpTo (first :: others) (skipSpace others) :=
            .cons (isAscii_of_isSpace leads) (.skipSpace others)
          split at read
          · next blank =>
              obtain ⟨rfl, rfl⟩ := Prod.mk.inj (Option.some.inj read)
              exact .inl ⟨rfl, blank ▸ spaced⟩
          · dsimp only at read
            split at read
            · next afterSign sign =>
                split at read
                · next quote body quoted =>
                    split at read
                    · cases read
                    · next valid =>
                        split at read
                        · next close remaining closed =>
                            split at read
                            · next same =>
                                obtain ⟨rfl, rfl⟩ := Prod.mk.inj (Option.some.inj read)
                                subst same
                                have quotes : IsAscii close := by
                                  rcases isQuote valid with rfl | rfl <;> decide
                                have inValue : AsciiUpTo body remaining :=
                                  (AsciiUpTo.value body).trans (closed ▸ .cons quotes (.refl _))
                                have afterName := (AsciiUpTo.of_skipSpace sign (by decide)).trans
                                  ((AsciiUpTo.of_skipSpace quoted quotes).trans inValue)
                                exact .inr ⟨_, _, first, others, rfl, rfl, leads, spaced.trans
                                  ((AsciiUpTo.drop_takeWhile _ _).trans (afterName.append_left _))⟩
                            · cases read
                        · cases read
                · cases read
            · cases read

theorem upTo_of_readStandalone {encoding : Option String} {text rest : List Char}
    {item : Option (List Char × List Char)} {declaration : Declaration}
    (first : item? text = some (item, rest))
    (read : readStandalone encoding item rest = some declaration) : AsciiUpTo text [] := by
  rcases item?_cases first with ⟨-, ascii⟩ | ⟨name, value, _, _, rfl, -, -, upTo⟩
  · exact ascii
  · simp only [readStandalone] at read
    split at read
    · next named =>
        simp only [Bool.and_eq_true, decide_eq_true_eq, List.isEmpty_iff] at named
        have blank := named.2 ▸ AsciiUpTo.skipSpace rest
        rw [named.1] at upTo
        exact upTo.trans (.trans (.append_of_all (by decide) rest) blank)
    · cases read

/-- A declaration consists of ASCII characters only, and the first one is white space. -/
theorem readBody?_ascii {text : List Char} {declaration : Declaration}
    (read : readBody? text = some declaration) :
    (∃ first others, text = first :: others ∧ isSpace first) ∧ AsciiUpTo text [] := by
  unfold readBody? at read
  simp only [Option.bind_eq_bind, Option.bind_eq_some_iff, Prod.exists] at read
  obtain ⟨item, rest, first, name, value, rfl, read⟩ := read
  split at read
  · cases read
  · next version =>
      obtain ⟨⟨item, after⟩, second, read⟩ := Option.bind_eq_some_iff.mp read
      have inRest : AsciiUpTo rest [] := by
        dsimp only at read
        split at read
        · next value =>
            split at read
            · obtain ⟨⟨item, remaining⟩, third, read⟩ := Option.bind_eq_some_iff.mp read
              rcases item?_cases second with ⟨absent, -⟩ | ⟨_, _, _, _, same, -, -, upTo⟩
              · cases absent
              · obtain ⟨rfl, rfl⟩ := Prod.mk.inj (Option.some.inj same)
                exact upTo.trans
                  (.trans (.append_of_all (by decide) after) (upTo_of_readStandalone third read))
            · cases read
        · exact upTo_of_readStandalone second read
      rcases item?_cases first with ⟨absent, -⟩ | ⟨_, _, c, others, same, rfl, leads, upTo⟩
      · cases absent
      · obtain ⟨rfl, rfl⟩ := Prod.mk.inj (Option.some.inj same)
        rw [Decidable.not_not.mp version] at upTo
        have inText := upTo.trans (.trans (.append_of_all (by decide) rest) inRest)
        exact ⟨⟨c, others, rfl, leads⟩, inText⟩

end Declaration

theorem splitAt?_eq_some {mark text before rest : List Char}
    (split : splitAt? mark text = some (before, rest)) : text = before ++ mark ++ rest := by
  induction text generalizing before with
  | nil =>
      obtain ⟨remaining, found, same⟩ := Option.map_eq_some_iff.mp split
      obtain ⟨rfl, rfl⟩ := Prod.mk.inj same
      exact (after?_eq_some_iff _ _ _).mp found
  | cons c text ih =>
      unfold splitAt? at split
      split at split
      · next remaining found =>
          obtain ⟨rfl, rfl⟩ := Prod.mk.inj (Option.some.inj split)
          exact (after?_eq_some_iff _ _ _).mp found
      · obtain ⟨⟨others, remaining⟩, found, same⟩ := Option.map_eq_some_iff.mp split
        obtain ⟨rfl, rfl⟩ := Prod.mk.inj same
        rw [ih found]
        rfl

theorem after?_eq_none_iff (start text : List Char) :
    after? start text = none ↔ ¬ start <+: text := by
  constructor
  · rintro absent ⟨rest, rfl⟩
    rw [(after?_eq_some_iff start _ rest).mpr rfl] at absent
    cases absent
  · intro absent
    cases found : after? start text with
    | none => rfl
    | some rest => exact absurd ⟨rest, ((after?_eq_some_iff start text rest).mp found).symm⟩ absent

theorem splitAt?_of_after? {mark text rest : List Char} (found : after? mark text = some rest) :
    splitAt? mark text = some ([], rest) := by
  cases text with
  | nil => rw [splitAt?, found, Option.map_some]
  | cons c text => rw [splitAt?, found]

/-- Where a mark first stands does not depend on what follows it. -/
theorem splitAt?_append {mark before rest : List Char}
    (split : splitAt? mark (before ++ mark ++ rest) = some (before, rest)) (other : List Char) :
    splitAt? mark (before ++ mark ++ other) = some (before, other) := by
  induction before with
  | nil => exact splitAt?_of_after? ((after?_eq_some_iff _ _ _).mpr rfl)
  | cons c before ih =>
      have absent : after? mark (c :: before ++ mark ++ rest) = none := by
        cases found : after? mark (c :: before ++ mark ++ rest) with
        | none => rfl
        | some remaining =>
            rw [splitAt?_of_after? found] at split
            cases split
      -- A mark that stood earlier would end before the rest begins, so that `rest` had it too.
      have missing : after? mark (c :: before ++ mark ++ other) = none := by
        rw [after?_eq_none_iff] at absent ⊢
        intro starts
        have within : mark <+: c :: before ++ mark :=
          List.prefix_of_prefix_length_le starts (List.prefix_append _ other) (by simp; omega)
        exact absent (within.trans (List.prefix_append _ rest))
      have later : splitAt? mark (before ++ mark ++ rest) = some (before, rest) := by
        simp only [List.cons_append] at split absent
        rw [splitAt?, absent] at split
        obtain ⟨⟨others, remaining⟩, found, same⟩ := Option.map_eq_some_iff.mp split
        obtain ⟨first, rfl⟩ := Prod.mk.inj same
        rw [found, (List.cons.inj first).2]
      simp only [List.cons_append] at missing ⊢
      rw [splitAt?, missing, ih later]
      rfl

/-- White space is no character of a name. -/
theorem isPart_of_isSpace {c : Char} (space : isSpace c) (alphabet : Alphabet) :
    (alphabet.isPart c || c == ':') = false := by
  simp only [isSpace, Bool.or_eq_true, beq_iff_eq] at space
  rcases space with ((rfl | rfl) | rfl) | rfl <;> cases alphabet <;> decide +kernel

def SharesOpening (shown text : List Char) : Prop :=
  ∀ opening more, (∀ c ∈ opening, IsAscii c) → shown = opening ++ more →
    ∃ others, text = opening ++ others

namespace Declaration

theorem read?_of_readBody? (alphabet : Alphabet) {first : Char} {others more : List Char}
    {declaration : Declaration} (leads : isSpace first)
    (divided : splitAt? "?>".toList (first :: others ++ "?>".toList ++ more) =
      some (first :: others, more)) (known : readBody? (first :: others) = some declaration) :
    read? alphabet ("<?xml".toList ++ (first :: others ++ "?>".toList) ++ more) =
      some (declaration, more) := by
  have target : after? "<?xml".toList
      ("<?xml".toList ++ (first :: others ++ "?>".toList) ++ more) =
        some (first :: others ++ "?>".toList ++ more) :=
    (after?_eq_some_iff _ _ _).mpr (List.append_assoc _ _ _)
  have ends : ((first :: others ++ "?>".toList ++ more).head?.map
      (fun c => alphabet.isPart c || c == ':')).getD false = false :=
    isPart_of_isSpace leads alphabet
  unfold read?
  rw [target]
  dsimp only
  rw [if_neg (Bool.eq_false_iff.mp ends), divided, Option.bind_eq_bind, Option.bind_some, known]
  rfl

/-- A declaration that names an encoding stands in every text with the same opening. -/
theorem read?_of_sharesOpening {alphabet : Alphabet} {shown text rest : List Char} {name : String}
    {standalone : Bool} (shares : SharesOpening shown text)
    (read : read? alphabet shown = some (⟨some name, standalone⟩, rest)) :
    ∃ others, read? .standard text = some (⟨some name, standalone⟩, others) := by
  unfold read? at read
  split at read
  · cases read
  · next behind target =>
      split at read
      · cases read
      · simp only [Option.bind_eq_bind, Option.bind_eq_some_iff, Prod.exists] at read
        obtain ⟨body, remaining, divided, declaration, known, same⟩ := read
        obtain ⟨rfl, rfl⟩ := Prod.mk.inj (Option.some.inj same)
        obtain ⟨⟨first, others, rfl, leads⟩, ascii⟩ := readBody?_ascii known
        have parts := splitAt?_eq_some divided
        have whole := (after?_eq_some_iff _ _ _).mp target
        rw [parts] at whole divided
        have inOpening : ∀ c ∈ "<?xml".toList ++ (first :: others ++ "?>".toList), IsAscii c := by
          intro c member
          simp only [List.mem_append] at member
          rcases member with mark | inside | mark
          · exact isAscii_of_all (by decide) c mark
          · exact (ascii c inside).resolve_right (List.not_mem_nil)
          · exact isAscii_of_all (by decide) c mark
        have same : shown = "<?xml".toList ++ (first :: others ++ "?>".toList) ++ remaining :=
          whole.trans (List.append_assoc _ _ _).symm
        obtain ⟨more, rfl⟩ := shares _ remaining inOpening same
        exact ⟨more, read?_of_readBody? .standard leads (splitAt?_append divided more) known⟩

end Declaration

end Xml

end SchemaBinding
