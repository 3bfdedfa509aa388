import SchemaBinding.Proofs.Decoding
import SchemaBinding.Proofs.Opening

/-!
# Texts stored in files

A text can stand in a file in UTF-8, with or without a byte order mark, or in
marked UTF-16.  Unless it declares an encoding, its characters are read back as
they are.  A declaration consists of ASCII characters only, which every one of
these encodings shows unit by unit, so that none is seen where the text has none.
-/

namespace SchemaBinding

open Text Xml

/-- How a file holds a text. -/
inductive Storage where
  | utf8 (marked : Bool)
  | utf16 (bigEndian : Bool)
deriving DecidableEq, Repr

/-- A text that begins with no byte order mark and declares no encoding. -/
structure IsBare (text : List Char) : Prop where
  unmarked : text.head? ≠ some '\ufeff'
  undeclared : ∀ found ∈ Declaration.read? .standard text, found.1.encoding = none

instance (text : List Char) : Decidable (IsBare text) :=
  decidable_of_iff (text.head? ≠ some '\ufeff' ∧
      ∀ found ∈ Declaration.read? .standard text, found.1.encoding = none)
    ⟨fun both => ⟨both.1, both.2⟩, fun bare => ⟨bare.unmarked, bare.undeclared⟩⟩

/-- A number that is no code point is read as the null character. -/
theorem toNat_ofNat_or (n : Nat) : (Char.ofNat n).toNat = n ∨ Char.ofNat n = '\x00' := by
  by_cases valid : n.isValidChar
  · exact .inl (congrArg Char.toNat (dif_pos valid))
  · exact .inr (dif_neg valid)

theorem toNat_eq_of_ofNat_eq {n : Nat} {c : Char} (ascii : IsAscii c) (same : Char.ofNat n = c) :
    n = c.toNat := by
  rcases toNat_ofNat_or n with value | null
  · rw [← value, same]
  · rw [← same, null] at ascii
    exact absurd ascii.1 (by decide)

namespace Storage

def encoding : Storage → Encoding
  | .utf8 _ => .utf8
  | .utf16 true => .utf16Big
  | .utf16 false => .utf16Little

def mark : Storage → List UInt8
  | .utf8 true => [0xEF, 0xBB, 0xBF]
  | .utf8 false => []
  | .utf16 true => [0xFE, 0xFF]
  | .utf16 false => [0xFF, 0xFE]

def content (storage : Storage) (text : List Char) : List UInt8 :=
  match storage with
  | .utf8 _ => Utf8.encode text
  | .utf16 bigEndian => Encoding.utf16Bytes bigEndian text

def bytes (storage : Storage) (text : List Char) : List UInt8 :=
  storage.mark ++ storage.content text

theorem decode?_content (storage : Storage) (text : List Char) :
    storage.encoding.decode? (storage.content text) = some text := by
  match storage with
  | .utf8 _ => exact Utf8.decode?_encode text
  | .utf16 true => exact Encoding.bind_units?_utf16Bytes true text
  | .utf16 false => exact Encoding.bind_units?_utf16Bytes false text

/-- The first bytes tell how the text is stored. -/
theorem sniff_bytes (storage : Storage) {text : List Char} (unmarked : text.head? ≠ some '\ufeff')
    (noNull : '\x00' ∉ text.take 2) :
    Encoding.sniff (storage.bytes text) = (storage.encoding, storage.content text) := by
  match storage with
  | .utf8 false => exact Encoding.sniff_encode unmarked noNull
  | .utf8 true => rfl
  | .utf16 true => rfl
  | .utf16 false => rfl

/-- The characters that are seen before the encoding is settled. -/
def preview (storage : Storage) (text : List Char) : List Char :=
  storage.encoding.preview (storage.content text)

theorem preview_utf8 (marked : Bool) (text : List Char) :
    preview (.utf8 marked) text = Encoding.ofLatin1 (Utf8.encode text) :=
  rfl

theorem preview_utf16 (bigEndian : Bool) (text : List Char) :
    preview (.utf16 bigEndian) text = (text.flatMap Encoding.unitsOf).map Char.ofNat := by
  have even : (Encoding.utf16Bytes bigEndian text).length % 2 = 0 := by
    rw [Encoding.length_utf16Bytes]
    omega
  have shown : preview (.utf16 bigEndian) text = ((Encoding.units? bigEndian
      ((Encoding.utf16Bytes bigEndian text).take ((Encoding.utf16Bytes bigEndian text).length -
        (Encoding.utf16Bytes bigEndian text).length % 2))).getD []).map Char.ofNat := by
    cases bigEndian <;> rfl
  rw [shown, even, Nat.sub_zero, List.take_length, Encoding.units?_utf16Bytes, Option.getD_some]

/-- An ASCII character is shown as itself. -/
theorem preview_cons (storage : Storage) {c : Char} (ascii : IsAscii c) (text : List Char) :
    storage.preview (c :: text) = c :: storage.preview text := by
  have small : c.toNat < 0x80 := ascii.2
  match storage with
  | .utf8 marked =>
      have byte : (UInt8.ofNat c.toNat).toNat = c.toNat := toNat_byte (by omega)
      have first : String.utf8EncodeChar c = [UInt8.ofNat c.toNat] := by
        have code : c.val.toNat = c.toNat := rfl
        unfold String.utf8EncodeChar
        dsimp only
        rw [code, if_pos (by omega)]
      rw [preview_utf8, preview_utf8, Utf8.encode, List.flatMap_cons, first, List.singleton_append,
        Encoding.ofLatin1, List.map_cons, byte, Char.ofNat_toNat]
      rfl
  | .utf16 bigEndian =>
      have first : Encoding.unitsOf c = [c.toNat] := if_pos (by omega)
      rw [preview_utf16, preview_utf16, List.flatMap_cons, first, List.singleton_append,
        List.map_cons, Char.ofNat_toNat]

/-- What is shown as an ASCII character is that character. -/
theorem eq_of_preview_cons (storage : Storage) {c shown : Char} {text more : List Char}
    (ascii : IsAscii shown) (same : storage.preview (c :: text) = shown :: more) : c = shown := by
  match storage with
  | .utf8 marked =>
      have decoded := Utf8.decode?_encode (c :: text)
      rw [preview_utf8] at same
      cases stored : Utf8.encode (c :: text) with
      | nil =>
          rw [stored] at same
          cases same
      | cons byte rest =>
          rw [stored] at same decoded
          have first : Char.ofNat byte.toNat = shown := (List.cons.inj same).1
          have small : byte.toNat < 0x80 := toNat_eq_of_ofNat_eq ascii first ▸ ascii.2
          rw [Utf8.decode?_one small, first] at decoded
          obtain ⟨others, -, whole⟩ := Option.map_eq_some_iff.mp decoded
          exact (List.cons.inj whole).1.symm
  | .utf16 bigEndian =>
      rw [preview_utf16, List.flatMap_cons] at same
      unfold Encoding.unitsOf at same
      split at same
      · rw [← (List.cons.inj same).1, Char.ofNat_toNat]
      · -- A surrogate is no code point, so that it is shown as the null character.
        have first := toNat_eq_of_ofNat_eq ascii (List.cons.inj same).1
        have small := ascii.2
        omega

theorem preview_nil (storage : Storage) : storage.preview [] = [] := by
  match storage with
  | .utf8 _ => rfl
  | .utf16 true => rfl
  | .utf16 false => rfl

/-- The opening of a text is shown as it is. -/
theorem sharesOpening_preview (storage : Storage) (text : List Char) :
    SharesOpening (storage.preview text) text := by
  intro opening
  induction opening generalizing text with
  | nil => exact fun more _ _ => ⟨text, rfl⟩
  | cons first opening ih =>
      intro more ascii same
      have asciiFirst := ascii first List.mem_cons_self
      cases text with
      | nil =>
          rw [preview_nil] at same
          cases same
      | cons c text =>
          obtain rfl := eq_of_preview_cons storage asciiFirst same
          rw [preview_cons storage asciiFirst] at same
          have asciiRest : ∀ d ∈ opening, IsAscii d := fun d member =>
            ascii d (List.mem_cons_of_mem c member)
          obtain ⟨others, rfl⟩ := ih text more asciiRest (List.cons.inj same).2
          exact ⟨others, rfl⟩

/-- The encoding that the first bytes show is the one in which the text is read. -/
theorem settle_content (storage : Storage) {text : List Char}
    (undeclared : ∀ found ∈ Declaration.read? .standard text, found.1.encoding = none) :
    Transcript.settle .file storage.encoding (storage.content text) =
      .ok ⟨[], storage.encoding, storage.content text⟩ := by
  unfold Transcript.settle
  dsimp only
  split
  · next name standalone rest read =>
      -- A declaration that is seen in the bytes stands in the text, which has none.
      obtain ⟨others, again⟩ :=
        Declaration.read?_of_sharesOpening (storage.sharesOpening_preview text) read
      cases undeclared _ again
  · rfl

/-- What is read in the encoding that the first bytes show has the characters of the text. -/
theorem charactersOf_bytes_of_settle (storage : Storage) (origin : Origin) {text : List Char}
    (unmarked : text.head? ≠ some '\ufeff') (noNull : '\x00' ∉ text.take 2)
    (settled : Transcript.settle origin storage.encoding (storage.content text) =
      .ok ⟨[], storage.encoding, storage.content text⟩) :
    charactersOf origin (storage.bytes text) =
      if text.all isChar then .ok (storage.encoding.alphabet, normalizeLines text)
      else .error .notWellFormed := by
  have characters :
      Transcript.characters? ⟨[], storage.encoding, storage.content text⟩ = some text := by
    unfold Transcript.characters?
    rw [decode?_content]
    rfl
  unfold charactersOf
  rw [sniff_bytes storage unmarked noNull]
  dsimp only
  rw [settled]
  simp only [bind, Except.bind, characters]
  rfl

/-- The characters of a file are those of the text that it holds. -/
theorem charactersOf_file (storage : Storage) {text : List Char} (bare : IsBare text)
    (noNull : '\x00' ∉ text.take 2) :
    charactersOf .file (storage.bytes text) =
      if text.all isChar then .ok (storage.encoding.alphabet, normalizeLines text)
      else .error .notWellFormed :=
  storage.charactersOf_bytes_of_settle .file bare.unmarked noNull
    (storage.settle_content bare.undeclared)

end Storage

/-- The characters of a text that is handed over are its own. -/
theorem charactersOf_text {text : List Char} (unmarked : text.head? ≠ some '\ufeff')
    (noNull : '\x00' ∉ text.take 2) :
    charactersOf .text (Utf8.encode text) =
      if text.all isChar then .ok (.standard, normalizeLines text) else .error .notWellFormed :=
  Storage.charactersOf_bytes_of_settle (.utf8 false) .text unmarked noNull rfl

end SchemaBinding
