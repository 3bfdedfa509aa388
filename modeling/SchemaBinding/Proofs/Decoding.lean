import SchemaBinding.Xml.Encoding

/-!
# Decoding undoes encoding

The bytes of a text in UTF-8, and in UTF-16 of either byte order, decode to the
text.  Its UTF-8 form shows by its first bytes that it is UTF-8, unless the text
begins with a byte order mark or has a null character among its first two.
-/

namespace SchemaBinding

/-- A character is no surrogate and not beyond the last code point. -/
theorem toNat_char_valid (c : Char) :
    c.toNat < 0xD800 ∨ 0xDFFF < c.toNat ∧ c.toNat < 0x110000 :=
  c.valid

theorem toNat_byte {n : Nat} (small : n < 256) : (UInt8.ofNat n).toNat = n :=
  UInt8.toNat_ofNat_of_lt' small

namespace Text.Utf8

theorem continuation?_ofNat (n : Nat) :
    continuation? (UInt8.ofNat (n % 64 + 128)) = some (n % 64) := by
  have value : (UInt8.ofNat (n % 64 + 128)).toNat = n % 64 + 128 := toNat_byte (by omega)
  unfold continuation?
  rw [value, if_pos (by simp; omega), Nat.add_sub_cancel]

section Equations

variable {a b c d : UInt8} {char : Char}

theorem decode?_one (small : a.toNat < 0x80) (rest : List UInt8) :
    decode? (a :: rest) = (decode? rest).map (Char.ofNat a.toNat :: ·) := by
  rw [decode?.eq_def]
  dsimp only
  rw [if_pos small]

theorem decode?_two (large : ¬ a.toNat < 0x80) (two : char2? a b = some char)
    (rest : List UInt8) : decode? (a :: b :: rest) = (decode? rest).map (char :: ·) := by
  rw [decode?.eq_def]
  dsimp only
  rw [if_neg large, two]

theorem decode?_three (large : ¬ a.toNat < 0x80) (notTwo : char2? a b = none)
    (three : char3? a b c = some char) (rest : List UInt8) :
    decode? (a :: b :: c :: rest) = (decode? rest).map (char :: ·) := by
  rw [decode?.eq_def]
  dsimp only
  rw [if_neg large, notTwo]
  dsimp only
  rw [three]

theorem decode?_four (large : ¬ a.toNat < 0x80) (notTwo : char2? a b = none)
    (notThree : char3? a b c = none) (four : char4? a b c d = some char) (rest : List UInt8) :
    decode? (a :: b :: c :: d :: rest) = (decode? rest).map (char :: ·) := by
  rw [decode?.eq_def]
  dsimp only
  rw [if_neg large, notTwo]
  dsimp only
  rw [notThree]
  dsimp only
  rw [four]

end Equations

/-- No first byte of a longer form is one of a form of two bytes. -/
theorem char2?_eq_none {a : UInt8} (beyond : 0xE0 ≤ a.toNat) (b : UInt8) : char2? a b = none := by
  unfold char2?
  cases continuation? b with
  | none => rfl
  | some low =>
      simp only [Option.bind_eq_bind, Option.bind_some]
      rw [if_neg (by simp; omega)]

theorem char3?_eq_none {a : UInt8} (beyond : 0xF0 ≤ a.toNat) (b c : UInt8) :
    char3? a b c = none := by
  unfold char3?
  cases continuation? b with
  | none => rfl
  | some middle =>
      cases continuation? c with
      | none => rfl
      | some low =>
          simp only [Option.bind_eq_bind, Option.bind_some]
          rw [if_neg (by simp; omega)]

section Forms

variable (c : Char)

/-- The first byte of a form holds the highest bits of a code point. -/
theorem toNat_first {high mark : Nat} (size : Nat) (fits : high < size) (small : size + mark ≤ 256) :
    (UInt8.ofNat (high % size + mark)).toNat = high + mark := by
  rw [Nat.mod_eq_of_lt fits, toNat_byte (by omega)]

theorem char2?_ofNat (many : ¬ c.toNat < 0x80) (few : c.toNat < 0x800) :
    char2? (UInt8.ofNat (c.toNat / 64 % 32 + 192)) (UInt8.ofNat (c.toNat % 64 + 128)) = some c := by
  have whole : (c.toNat / 64 + 192 - 192) * 64 + c.toNat % 64 = c.toNat := by omega
  unfold char2?
  rw [continuation?_ofNat, toNat_first 32 (by omega) (by omega)]
  simp only [Option.bind_eq_bind, Option.bind_some, whole]
  rw [if_pos (by simp; omega), Char.ofNat_toNat]

theorem char3?_ofNat (many : ¬ c.toNat < 0x800) (few : c.toNat < 0x10000) :
    char3? (UInt8.ofNat (c.toNat / 4096 % 16 + 224)) (UInt8.ofNat (c.toNat / 64 % 64 + 128))
      (UInt8.ofNat (c.toNat % 64 + 128)) = some c := by
  have valid := toNat_char_valid c
  have whole : (c.toNat / 4096 + 224 - 224) * 4096 + c.toNat / 64 % 64 * 64 + c.toNat % 64 =
      c.toNat := by omega
  unfold char3?
  rw [continuation?_ofNat, continuation?_ofNat, toNat_first 16 (by omega) (by omega)]
  simp only [Option.bind_eq_bind, Option.bind_some, whole]
  rw [if_pos (by simp; omega), Char.ofNat_toNat]

theorem char4?_ofNat (many : ¬ c.toNat < 0x10000) :
    char4? (UInt8.ofNat (c.toNat / 262144 % 8 + 240)) (UInt8.ofNat (c.toNat / 4096 % 64 + 128))
      (UInt8.ofNat (c.toNat / 64 % 64 + 128)) (UInt8.ofNat (c.toNat % 64 + 128)) = some c := by
  have valid := toNat_char_valid c
  have whole : (c.toNat / 262144 + 240 - 240) * 262144 + c.toNat / 4096 % 64 * 4096 +
      c.toNat / 64 % 64 * 64 + c.toNat % 64 = c.toNat := by omega
  unfold char4?
  rw [continuation?_ofNat, continuation?_ofNat, continuation?_ofNat,
    toNat_first 8 (by omega) (by omega)]
  simp only [Option.bind_eq_bind, Option.bind_some, whole]
  rw [if_pos (by simp; omega), Char.ofNat_toNat]

/-- The first character is decoded from its own bytes, whatever follows them. -/
theorem decode?_utf8EncodeChar_append (rest : List UInt8) :
    decode? (String.utf8EncodeChar c ++ rest) = (decode? rest).map (c :: ·) := by
  have valid := toNat_char_valid c
  have code : c.val.toNat = c.toNat := rfl
  unfold String.utf8EncodeChar
  dsimp only
  rw [code]
  split
  · next one =>
      have first : (UInt8.ofNat c.toNat).toNat = c.toNat := toNat_byte (by omega)
      rw [List.singleton_append, decode?_one (by omega), first, Char.ofNat_toNat]
  · split
    · next many two =>
        have first := @toNat_first (c.toNat / 64) 192 32 (by omega) (by omega)
        exact decode?_two (by omega) (char2?_ofNat c (by omega) (by omega)) rest
    · split
      · next many three =>
          have first := @toNat_first (c.toNat / 4096) 224 16 (by omega) (by omega)
          exact decode?_three (by omega) (char2?_eq_none (by omega) _)
            (char3?_ofNat c (by omega) (by omega)) rest
      · next many =>
          have first := @toNat_first (c.toNat / 262144) 240 8 (by omega) (by omega)
          exact decode?_four (by omega) (char2?_eq_none (by omega) _)
            (char3?_eq_none (by omega) _ _) (char4?_ofNat c (by omega)) rest

end Forms

theorem decode?_encode (text : List Char) : decode? (encode text) = some text := by
  induction text with
  | nil => rfl
  | cons c rest ih =>
      rw [encode, List.flatMap_cons, decode?_utf8EncodeChar_append, ← encode, ih, Option.map_some]

/-- No character has a first byte of a longer form with no byte of its own behind it. -/
theorem decode?_eq_none {a b : UInt8} (large : ¬ a.toNat < 0x80)
    (alone : continuation? b = none) (rest : List UInt8) : decode? (a :: b :: rest) = none := by
  have notTwo : char2? a b = none := by
    unfold char2?
    rw [alone]
    rfl
  have notThree (c : UInt8) : char3? a b c = none := by
    unfold char3?
    rw [alone]
    rfl
  have notFour (c d : UInt8) : char4? a b c d = none := by
    unfold char4?
    rw [alone]
    rfl
  rw [decode?.eq_def]
  dsimp only
  rw [if_neg large, notTwo]
  cases rest with
  | nil => rfl
  | cons c rest =>
      dsimp only
      rw [notThree]
      cases rest with
      | nil => rfl
      | cons d rest =>
          dsimp only
          rw [notFour]

end Text.Utf8

namespace Xml.Encoding

open Text

/-- The units of a character in UTF-16: two surrogates where one unit does not suffice. -/
def unitsOf (c : Char) : List Nat :=
  if c.toNat < 0x10000 then [c.toNat]
  else [0xD800 + (c.toNat - 0x10000) / 1024, 0xDC00 + (c.toNat - 0x10000) % 1024]

def bytesOf (bigEndian : Bool) (unit : Nat) : List UInt8 :=
  if bigEndian then [UInt8.ofNat (unit / 256), UInt8.ofNat (unit % 256)]
  else [UInt8.ofNat (unit % 256), UInt8.ofNat (unit / 256)]

def utf16Bytes (bigEndian : Bool) (text : List Char) : List UInt8 :=
  (text.flatMap unitsOf).flatMap (bytesOf bigEndian)

theorem lt_of_mem_unitsOf {c : Char} {unit : Nat} (member : unit ∈ unitsOf c) :
    unit < 0x10000 := by
  have valid := toNat_char_valid c
  unfold unitsOf at member
  split at member
  · simp only [List.mem_singleton] at member
    omega
  · simp only [List.mem_cons, List.not_mem_nil, or_false] at member
    omega

theorem units?_bytesOf_append (bigEndian : Bool) {unit : Nat} (small : unit < 0x10000)
    (rest : List UInt8) :
    units? bigEndian (bytesOf bigEndian unit ++ rest) =
      (units? bigEndian rest).map (unit :: ·) := by
  have high : (UInt8.ofNat (unit / 256)).toNat = unit / 256 := toNat_byte (by omega)
  have low : (UInt8.ofNat (unit % 256)).toNat = unit % 256 := toNat_byte (by omega)
  have whole : unit / 256 * 256 + unit % 256 = unit := by omega
  have step : units? bigEndian (bytesOf bigEndian unit ++ rest) = (units? bigEndian rest).map
      (((UInt8.ofNat (unit / 256)).toNat * 256 + (UInt8.ofNat (unit % 256)).toNat) :: ·) := by
    cases bigEndian <;> rfl
  rw [step, high, low, whole]

theorem units?_flatMap_bytesOf (bigEndian : Bool) (units : List Nat)
    (small : ∀ unit ∈ units, unit < 0x10000) :
    units? bigEndian (units.flatMap (bytesOf bigEndian)) = some units := by
  induction units with
  | nil => rfl
  | cons unit rest ih =>
      have others := ih (fun other member => small other (List.mem_cons_of_mem unit member))
      rw [List.flatMap_cons, units?_bytesOf_append bigEndian (small unit List.mem_cons_self),
        others, Option.map_some]

theorem ofUnits?_unitsOf_append (c : Char) (rest : List Nat) :
    ofUnits? (unitsOf c ++ rest) = (ofUnits? rest).map (c :: ·) := by
  have valid := toNat_char_valid c
  unfold unitsOf
  split
  · next one =>
      rw [List.singleton_append, ofUnits?.eq_def]
      dsimp only
      rw [if_neg (by simp; omega), if_neg (by simp; omega), Char.ofNat_toNat]
  · next two =>
      have whole : 0x10000 + (0xD800 + (c.toNat - 0x10000) / 1024 - 0xD800) * 1024 +
          (0xDC00 + (c.toNat - 0x10000) % 1024) % 1024 = c.toNat := by omega
      rw [List.cons_append, List.singleton_append, ofUnits?.eq_def]
      dsimp only
      rw [if_pos (by simp; omega), whole, Char.ofNat_toNat]

theorem ofUnits?_flatMap_unitsOf (text : List Char) :
    ofUnits? (text.flatMap unitsOf) = some text := by
  induction text with
  | nil => rfl
  | cons c rest ih => rw [List.flatMap_cons, ofUnits?_unitsOf_append, ih, Option.map_some]

theorem units?_utf16Bytes (bigEndian : Bool) (text : List Char) :
    units? bigEndian (utf16Bytes bigEndian text) = some (text.flatMap unitsOf) := by
  refine units?_flatMap_bytesOf bigEndian _ fun unit member => ?_
  obtain ⟨c, -, ofChar⟩ := List.mem_flatMap.mp member
  exact lt_of_mem_unitsOf ofChar

theorem length_utf16Bytes (bigEndian : Bool) (text : List Char) :
    (utf16Bytes bigEndian text).length = (text.flatMap unitsOf).length * 2 := by
  have two (unit : Nat) : (bytesOf bigEndian unit).length = 2 := by
    cases bigEndian <;> rfl
  simp only [utf16Bytes, List.length_flatMap, two, List.map_const', List.sum_replicate_nat]

theorem bind_units?_utf16Bytes (bigEndian : Bool) (text : List Char) :
    (units? bigEndian (utf16Bytes bigEndian text)).bind ofUnits? = some text := by
  rw [units?_utf16Bytes, Option.bind_some, ofUnits?_flatMap_unitsOf]

/--
The UTF-8 form of a text shows that it is one, unless the text begins with a byte
order mark or has a null character where the bytes of a wide unit would have one.
-/
theorem sniff_encode {text : List Char} (unmarked : text.head? ≠ some '\ufeff')
    (noNull : '\x00' ∉ text.take 2) :
    sniff (Utf8.encode text) = (.utf8, Utf8.encode text) := by
  have decoded := Utf8.decode?_encode text
  unfold sniff
  split
  · next rest bytes =>
      rw [bytes, Utf8.decode?_eq_none (by decide) (by decide)] at decoded
      cases decoded
  · next rest bytes =>
      rw [bytes, Utf8.decode?_eq_none (by decide) (by decide)] at decoded
      cases decoded
  · next rest bytes =>
      rw [bytes, Utf8.decode?_three (by decide) (by decide) (by decide : _ = some '\ufeff')]
        at decoded
      obtain ⟨others, -, same⟩ := Option.map_eq_some_iff.mp decoded
      exact absurd (same ▸ rfl) unmarked
  · next second rest bytes =>
      rw [bytes, Utf8.decode?_one (by decide)] at decoded
      obtain ⟨others, -, same⟩ := Option.map_eq_some_iff.mp decoded
      exact absurd (same ▸ List.mem_cons_self) noNull
  · next first rest notNull bytes =>
      rw [bytes] at decoded
      by_cases small : first.toNat < 0x80
      · rw [Utf8.decode?_one small, Utf8.decode?_one (by decide), Option.map_map] at decoded
        obtain ⟨others, -, same⟩ := Option.map_eq_some_iff.mp decoded
        exact absurd (same ▸ List.mem_cons_of_mem _ List.mem_cons_self) noNull
      · rw [Utf8.decode?_eq_none small (by decide)] at decoded
        cases decoded
  · rfl

end Xml.Encoding

end SchemaBinding
