import SchemaBinding.Xml.Value
import SchemaBinding.Xml.DocumentType.Token
import SchemaBinding.Proofs.Opening

/-!
# Readers with and without the extra letters

The extended alphabet has three letters more than the standard one.  A reader
that knows only the standard alphabet finds in a text what the other one finds,
or it stops at one of these letters, where nothing that it expects can stand.
-/

namespace SchemaBinding.Xml

namespace Alphabet

theorem isStart_extended {c : Char} :
    extended.isStart c ↔ standard.isStart c ∨ c ∈ extraLetters := by
  simp [isStart, isExtra]

theorem isPart_extended {c : Char} :
    extended.isPart c ↔ standard.isPart c ∨ c ∈ extraLetters := by
  simp [isPart, isExtra]

/-- The extra letters one by one. -/
theorem eq_of_extra {c : Char} (extra : c ∈ extraLetters) : c = 'ª' ∨ c = 'µ' ∨ c = 'º' := by
  simpa only [extraLetters, List.mem_cons, List.not_mem_nil, or_false] using extra

theorem not_isStart_extra {c : Char} (extra : c ∈ extraLetters) : standard.isStart c = false := by
  rcases eq_of_extra extra with rfl | rfl | rfl <;> decide

theorem not_isPart_extra {c : Char} (extra : c ∈ extraLetters) : standard.isPart c = false := by
  rcases eq_of_extra extra with rfl | rfl | rfl <;> decide +kernel

end Alphabet

open Alphabet

/--
What a reader of the standard alphabet and one of the extended alphabet find in a
text: related results, nothing, or nothing for the former only, given that the
text has extra letters.
-/
inductive Agree {α β : Type} (letters : Prop) (related : α → β → Prop) :
    Option α → Option β → Prop
  | both {found : α} {other : β} (same : related found other) :
      Agree letters related (some found) (some other)
  | neither : Agree letters related none none
  | lost (given : letters) (wide : Option β) : Agree letters related none wide

/-- All extra letters in a text are accounted for. -/
def Clear (letters : Prop) (text : List Char) : Prop :=
  ∀ c ∈ text, c ∈ extraLetters → letters

def AtLetter (text : List Char) : Prop :=
  ∃ c rest, text = c :: rest ∧ c ∈ extraLetters

theorem AtLetter.eq_cons {text : List Char} (reached : AtLetter text) :
    ∃ rest, text = 'ª' :: rest ∨ text = 'µ' :: rest ∨ text = 'º' :: rest := by
  obtain ⟨c, rest, rfl, extra⟩ := reached
  rcases eq_of_extra extra with rfl | rfl | rfl
  · exact ⟨rest, .inl rfl⟩
  · exact ⟨rest, .inr (.inl rfl)⟩
  · exact ⟨rest, .inr (.inr rfl)⟩

/-- The same thing and the same text after it. -/
def SameScan {α : Type} (letters : Prop) (found other : α × List Char) : Prop :=
  found = other ∧ Clear letters found.2

def SameText (letters : Prop) (found other : List Char) : Prop :=
  found = other ∧ Clear letters found

/-- As `Agree`, or what one of them finds stands before an extra letter. -/
inductive AgreeUpTo {α : Type} (letters : Prop) :
    Option (α × List Char) → Option (α × List Char) → Prop
  | same {narrow : Option (α × List Char)} (clear : ∀ found ∈ narrow, Clear letters found.2) :
      AgreeUpTo letters narrow narrow
  | stopped {narrow : Option (α × List Char)} (given : letters)
      (stops : ∀ found ∈ narrow, AtLetter found.2) (wide : Option (α × List Char)) :
      AgreeUpTo letters narrow wide

section Calculus

variable {α β γ δ : Type} {letters : Prop} {related : α → β → Prop} {derived : γ → δ → Prop}
  {narrow : Option α} {wide : Option β}

namespace Agree

theorem bind {f : α → Option γ} {g : β → Option δ} (first : Agree letters related narrow wide)
    (next : ∀ found other, related found other → Agree letters derived (f found) (g other)) :
    Agree letters derived (narrow >>= f) (wide >>= g) := by
  cases first with
  | both same => exact next _ _ same
  | neither => exact .neither
  | lost given wide => exact .lost given _

theorem map {f : α → γ} {g : β → δ} (first : Agree letters related narrow wide)
    (next : ∀ found other, related found other → derived (f found) (g other)) :
    Agree letters derived (narrow.map f) (wide.map g) := by
  cases first with
  | both same => exact .both (next _ _ same)
  | neither => exact .neither
  | lost given wide => exact .lost given _

/-- A first step that reads no names is the same in either alphabet. -/
theorem bind_same {f : α → Option γ} {g : α → Option δ}
    (next : ∀ found, narrow = some found → Agree letters derived (f found) (g found)) :
    Agree letters derived (narrow >>= f) (narrow >>= g) := by
  cases narrow with
  | none => exact .neither
  | some found => exact next found rfl

/-- A reader of no names finds the same thing in either alphabet. -/
theorem of_related {related : α → α → Prop} (kept : ∀ found ∈ narrow, related found found) :
    Agree letters related narrow narrow := by
  cases narrow with
  | none => exact .neither
  | some found => exact .both (kept found rfl)

theorem related_of_some {found : α} (agree : Agree letters related (some found) wide) :
    ∃ other, wide = some other ∧ related found other := by
  cases agree with
  | both same => exact ⟨_, rfl, same⟩

/-- Without extra letters neither reader finds anything that the other one does not find. -/
theorem eq_or {narrow wide : Option α} (agree : Agree letters Eq narrow wide) :
    narrow = wide ∨ letters ∧ narrow = none := by
  cases agree with
  | both same => exact .inl (congrArg some same)
  | neither => exact .inl rfl
  | lost given wide => exact .inr ⟨given, rfl⟩

end Agree

namespace Clear

theorem mono {text part : List Char} (clear : Clear letters text) (within : part ⊆ text) :
    Clear letters part :=
  fun c member => clear c (within member)

theorem of_suffix {text part : List Char} (clear : Clear letters text) (within : part <:+ text) :
    Clear letters part :=
  clear.mono within.subset

theorem tail {c : Char} {text : List Char} (clear : Clear letters (c :: text)) :
    Clear letters text :=
  clear.mono (List.subset_cons_self c text)

theorem given {text : List Char} (clear : Clear letters text) (reached : AtLetter text) :
    letters := by
  obtain ⟨c, rest, rfl, extra⟩ := reached
  exact clear c List.mem_cons_self extra

theorem of_skipSpace {text rest : List Char} (clear : Clear letters text)
    (skipped : skipSpace text = rest) : Clear letters rest :=
  clear.of_suffix (skipped ▸ List.dropWhile_suffix isSpace)

end Clear

namespace AgreeUpTo

variable {narrow wide : Option (α × List Char)}

/-- Where nothing goes on before any of the extra letters, the next step agrees. -/
theorem bind {f : α × List Char → Option γ} {g : α × List Char → Option δ}
    (first : AgreeUpTo letters narrow wide)
    (stuck : ∀ found rest, f (found, 'ª' :: rest) = none ∧ f (found, 'µ' :: rest) = none ∧
      f (found, 'º' :: rest) = none)
    (next : ∀ found rest, Clear letters rest →
      Agree letters derived (f (found, rest)) (g (found, rest))) :
    Agree letters derived (narrow >>= f) (wide >>= g) := by
  cases first with
  | same clear =>
      cases narrow with
      | none => exact .neither
      | some found => exact next found.1 found.2 (clear found rfl)
  | stopped given stops wide =>
      cases narrow with
      | none => exact .lost given _
      | some found =>
          have nothing : f (found.1, found.2) = none := by
            obtain ⟨rest, same | same | same⟩ := (stops found rfl).eq_cons
            · exact same ▸ (stuck found.1 rest).1
            · exact same ▸ (stuck found.1 rest).2.1
            · exact same ▸ (stuck found.1 rest).2.2
          have lost : (some found >>= f) = none := nothing
          rw [lost]
          exact .lost given _

theorem bindUpTo {f g : α × List Char → Option (γ × List Char)}
    (first : AgreeUpTo letters narrow wide)
    (stuck : ∀ found rest, AtLetter rest → ∀ result ∈ f (found, rest), AtLetter result.2)
    (next : ∀ found rest, Clear letters rest →
      AgreeUpTo letters (f (found, rest)) (g (found, rest))) :
    AgreeUpTo letters (narrow >>= f) (wide >>= g) := by
  cases first with
  | same clear =>
      cases narrow with
      | none => exact .same fun _ read => absurd read (Option.not_mem_none _)
      | some found => exact next found.1 found.2 (clear found rfl)
  | stopped given stops wide =>
      cases narrow with
      | none => exact .stopped given (fun _ read => absurd read (Option.not_mem_none _)) _
      | some found => exact .stopped given (stuck found.1 found.2 (stops found rfl)) _

end AgreeUpTo

end Calculus

/-- Taking more characters changes nothing, or the first ones end before an extra letter. -/
theorem takeWhile_eq_or_atLetter {narrow wide : Char → Bool}
    (widens : ∀ c, wide c ↔ narrow c ∨ c ∈ extraLetters) (text : List Char) :
    text.takeWhile wide = text.takeWhile narrow ∨
      AtLetter (text.drop (text.takeWhile narrow).length) := by
  induction text with
  | nil => exact .inl rfl
  | cons c rest ih =>
      by_cases known : narrow c
      · rw [List.takeWhile_cons_of_pos ((widens c).mpr (.inl known)),
          List.takeWhile_cons_of_pos known]
        exact ih.imp (congrArg (c :: ·)) id
      · by_cases extra : c ∈ extraLetters
        · rw [List.takeWhile_cons_of_neg known]
          exact .inr ⟨c, rest, rfl, extra⟩
        · have unknown : ¬ wide c := fun yes => ((widens c).mp yes).elim known extra
          rw [List.takeWhile_cons_of_neg known, List.takeWhile_cons_of_neg unknown]
          exact .inl rfl

variable {letters : Prop} {text : List Char}

theorem scanPlain?_pos {alphabet : Alphabet} {c : Char} (starts : alphabet.isStart c)
    (rest : List Char) : scanPlain? alphabet (c :: rest) =
      some (c :: rest.takeWhile alphabet.isPart,
        rest.drop (rest.takeWhile alphabet.isPart).length) :=
  if_pos starts

theorem scanPlain?_neg {alphabet : Alphabet} {c : Char} (starts : ¬ alphabet.isStart c)
    (rest : List Char) : scanPlain? alphabet (c :: rest) = none :=
  if_neg starts

theorem scanPlain?_atLetter (reached : AtLetter text) : scanPlain? .standard text = none := by
  obtain ⟨c, rest, rfl, extra⟩ := reached
  exact scanPlain?_neg (Bool.eq_false_iff.mp (not_isStart_extra extra)) rest

theorem scanPlain?_rest {alphabet : Alphabet} {name rest : List Char}
    (read : scanPlain? alphabet text = some (name, rest)) : rest <:+ text := by
  cases text with
  | nil => cases read
  | cons c others =>
      by_cases starts : alphabet.isStart c
      · rw [scanPlain?_pos starts] at read
        obtain ⟨-, rfl⟩ := Prod.mk.inj (Option.some.inj read)
        exact (List.drop_suffix _ others).trans (List.suffix_cons c others)
      · rw [scanPlain?_neg starts] at read
        cases read

/-- A name is the same, or ends before an extra letter, or begins with one. -/
theorem scanPlain?_eq_or (text : List Char) :
    scanPlain? .extended text = scanPlain? .standard text ∨ AtLetter text ∨
      ∃ name rest, scanPlain? .standard text = some (name, rest) ∧ AtLetter rest := by
  cases text with
  | nil => exact .inl rfl
  | cons c others =>
      by_cases extra : c ∈ extraLetters
      · exact .inr (.inl ⟨c, others, rfl, extra⟩)
      · by_cases starts : standard.isStart c
        · have startsWide : extended.isStart c := isStart_extended.mpr (.inl starts)
          rw [scanPlain?_pos starts, scanPlain?_pos startsWide]
          rcases takeWhile_eq_or_atLetter (fun _ => isPart_extended) others with same | stops
          · rw [same]
            exact .inl rfl
          · exact .inr (.inr ⟨_, _, rfl, stops⟩)
        · have startsNot : ¬ extended.isStart c := fun yes =>
            (isStart_extended.mp yes).elim starts extra
          rw [scanPlain?_neg starts, scanPlain?_neg startsNot]
          exact .inl rfl

theorem scanPlain?_agree (clear : Clear letters text) :
    AgreeUpTo letters (scanPlain? .standard text) (scanPlain? .extended text) := by
  rcases scanPlain?_eq_or text with same | reached | ⟨name, rest, found, stops⟩
  · rw [same]
    exact .same fun found read => clear.of_suffix (scanPlain?_rest read)
  · rw [scanPlain?_atLetter reached]
    exact .stopped (clear.given reached) (fun _ read => absurd read (Option.not_mem_none _)) _
  · have given : letters := (clear.of_suffix (scanPlain?_rest found)).given stops
    rw [found]
    refine .stopped given (fun other read => ?_) _
    cases read
    exact stops

/-- A name with a qualifier is a name, a colon and another name. -/
theorem scanName?_agree (clear : Clear letters text) :
    AgreeUpTo letters (scanName? .standard text) (scanName? .extended text) := by
  unfold scanName?
  refine (scanPlain?_agree clear).bindUpTo ?_ fun first rest clear => ?_
  · rintro first rest reached result read
    obtain ⟨others, rfl | rfl | rfl⟩ := reached.eq_cons <;> cases read <;> exact reached
  · dsimp only
    split
    · next others =>
        refine (scanPlain?_agree clear.tail).bindUpTo ?_ fun second rest clear => ?_
        · rintro second rest reached result read
          cases read
          exact reached
        · exact .same fun _ read => by cases read; exact clear
    · exact .same fun _ read => by cases read; exact clear

theorem splitAt?_rest {mark before rest : List Char}
    (split : splitAt? mark text = some (before, rest)) : rest <:+ text :=
  splitAt?_eq_some split ▸ List.suffix_append _ _

theorem after?_rest {start rest : List Char} (found : after? start text = some rest) :
    rest <:+ text :=
  (after?_eq_some_iff start text rest).mp found ▸ List.suffix_append start rest

theorem splitAt?_before {mark before rest : List Char}
    (split : splitAt? mark text = some (before, rest)) : before ⊆ text := by
  rw [splitAt?_eq_some split, List.append_assoc]
  exact List.subset_append_left before _

theorem scanNumber?_rest {reference : Reference} {rest : List Char}
    (read : Reference.scanNumber? text = some (reference, rest)) : rest <:+ text := by
  unfold Reference.scanNumber? at read
  simp only [Option.bind_eq_bind, Option.bind_eq_some_iff, Prod.exists] at read
  obtain ⟨digits, remaining, split, code, -, read⟩ := read
  split at read
  · cases read
    split at split
    · exact (splitAt?_rest split).trans (List.suffix_cons _ _)
    · exact splitAt?_rest split
  · cases read

theorem scan?_reference_agree (clear : Clear letters text) :
    Agree letters (SameScan letters) (Reference.scan? .standard text)
      (Reference.scan? .extended text) := by
  unfold Reference.scan?
  split
  · next rest =>
      exact .of_related fun found read => ⟨rfl, clear.tail.of_suffix (scanNumber?_rest read)⟩
  · next notNumber =>
      refine (scanPlain?_agree clear).bind (fun _ _ => ⟨rfl, rfl, rfl⟩)
        fun name rest clear => ?_
      dsimp only
      split
      · exact .both ⟨rfl, clear.tail⟩
      · exact .neither

theorem Piece.scanWith_agree (fuel : Nat) (clear : Clear letters text) :
    Agree letters Eq (Piece.scanWith .standard fuel text) (Piece.scanWith .extended fuel text) := by
  induction fuel generalizing text with
  | zero => cases text with
    | nil => exact .both rfl
    | cons c rest => exact .neither
  | succ fuel ih =>
      unfold Piece.scanWith
      split
      · exact .both rfl
      · exact .neither
      · next rest same =>
          obtain rfl := Nat.succ.inj same
          refine (scan?_reference_agree clear.tail).bind fun found _ same => ?_
          obtain ⟨rfl, clear⟩ := same
          refine (ih clear).bind fun pieces _ same => ?_
          subst same
          exact .of_related fun _ _ => rfl
      · next c rest _ same =>
          obtain rfl := Nat.succ.inj same
          split
          · exact .neither
          · split
            · exact (ih clear.tail).map fun _ _ same => congrArg _ same
            · exact (ih clear.tail).map fun _ _ same => congrArg _ same

theorem Piece.scan?_agree (clear : Clear letters text) :
    Agree letters Eq (Piece.scan? .standard text) (Piece.scan? .extended text) :=
  Piece.scanWith_agree text.length clear

theorem entityTextWith_agree (fuel : Nat) (clear : Clear letters text) :
    Agree letters Eq (entityTextWith .standard fuel text) (entityTextWith .extended fuel text) := by
  induction fuel generalizing text with
  | zero => cases text with
    | nil => exact .both rfl
    | cons c rest => exact .neither
  | succ fuel ih =>
      unfold entityTextWith
      split
      · exact .both rfl
      · exact .neither
      · next rest same =>
          obtain rfl := Nat.succ.inj same
          refine (scan?_reference_agree clear.tail).bind fun found _ same => ?_
          obtain ⟨rfl, clear⟩ := same
          refine (ih clear).bind fun text _ same => ?_
          subst same
          exact .of_related fun _ _ => rfl
      · next c rest _ same =>
          obtain rfl := Nat.succ.inj same
          split
          · exact .neither
          · exact (ih clear.tail).map fun _ _ same => congrArg _ same

theorem entityText?_agree (clear : Clear letters text) :
    Agree letters Eq (entityText? .standard text) (entityText? .extended text) :=
  entityTextWith_agree text.length clear

theorem skipComment?_rest {rest : List Char} (read : skipComment? text = some rest) :
    rest <:+ text := by
  unfold skipComment? at read
  split at read
  · next before remaining split =>
      cases read
      exact (List.suffix_cons _ _).trans (splitAt?_rest split)
  · cases read

theorem skipInstruction?_agree (clear : Clear letters text) :
    Agree letters (SameText letters) (skipInstruction? .standard text)
      (skipInstruction? .extended text) := by
  unfold skipInstruction?
  refine (scanPlain?_agree clear).bind (fun _ _ => ⟨ite_self _, ite_self _, ite_self _⟩)
    fun target rest clear => ?_
  dsimp only
  split
  · exact .neither
  · split
    · exact .both ⟨rfl, clear.tail.tail⟩
    · next c rest _ =>
        split
        · refine .of_related fun found read => ⟨rfl, ?_⟩
          obtain ⟨⟨before, after⟩, split, rfl⟩ := Option.map_eq_some_iff.mp read
          exact clear.tail.of_suffix (splitAt?_rest split)
        · exact .neither
    · exact .neither

end SchemaBinding.Xml
