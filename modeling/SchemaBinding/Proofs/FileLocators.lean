import Mathlib.Data.List.TakeWhile
import SchemaBinding.Proofs.Decoding
import SchemaBinding.Proofs.FileNames
import SchemaBinding.Proofs.Locations
import SchemaBinding.Proofs.Opening

/-!
# Locators of files

The locator of a file shows the bytes of its absolute path: letters, digits and a
few marks as they are, and all others by their numbers.  Looking for a document
takes the path of a locator as it is written, so that the locator of a file leads
to it exactly if all characters of the path are shown as they are.
-/

namespace SchemaBinding

theorem toNat_char_of_byte (byte : UInt8) : (Char.ofNat byte.toNat).toNat = byte.toNat := by
  have bound := byte.toNat_lt
  rw [Char.ofNat, dif_pos (.inl (by omega))]
  rfl

namespace Text.Utf8

/-- An ASCII character is one byte, and the bytes of another character are large. -/
theorem bytes_of_char (c : Char) :
    (c.toNat < 0x80 ∧ String.utf8EncodeChar c = [UInt8.ofNat c.toNat]) ∨
      (0x80 ≤ c.toNat ∧ String.utf8EncodeChar c ≠ [] ∧
        ∀ byte ∈ String.utf8EncodeChar c, 0x80 ≤ byte.toNat) := by
  have valid := toNat_char_valid c
  have code : c.val.toNat = c.toNat := rfl
  unfold String.utf8EncodeChar
  dsimp only
  rw [code]
  split
  · exact .inl ⟨by omega, rfl⟩
  · refine .inr ⟨by omega, ?_⟩
    split
    · simp
      omega
    · split
      · simp
        omega
      · simp
        omega

end Text.Utf8

namespace Text

/-- Parts are replaced one by one, as is the separator. -/
theorem flatMap_intercalate {α β : Type} (shown : α → List β) (separator : List α)
    (parts : List (List α)) :
    (separator.intercalate parts).flatMap shown =
      (separator.flatMap shown).intercalate (parts.map (·.flatMap shown)) := by
  induction parts with
  | nil => rfl
  | cons first rest ih =>
      cases rest with
      | nil => simp [List.intercalate, List.intersperse]
      | cons second others =>
          simp only [List.intercalate, List.intersperse, List.map_cons, List.flatten_cons,
            List.flatMap_append] at ih ⊢
          rw [ih]

end Text

namespace Locator

/-- The characters that the locator of a file shows as they are. -/
def isShown (c : Char) : Bool :=
  c.isAlphanum || "_.-~/".toList.contains c

def hexDigit (value : Nat) : Char :=
  value.digitChar.toUpper

/-- A byte in a locator: its character, or its number behind a percent sign. -/
def escapeByte (byte : UInt8) : List Char :=
  let c := Char.ofNat byte.toNat
  if isShown c then [c] else ['%', hexDigit (byte.toNat / 16), hexDigit (byte.toNat % 16)]

def escape (text : String) : String :=
  .ofList ((Text.Utf8.encode text.toList).flatMap escapeByte)

def ofPath (path : FilePath) : String :=
  "file://" ++ escape path.toString

section Characters

theorem bounds_of_isShown {c : Char} (shown : isShown c = true) :
    0x20 < c.toNat ∧ c.toNat < 0x80 := by
  rcases Bool.or_eq_true _ _ ▸ shown with alphanumeric | mark
  · exact bounds_of_isAlphanum alphanumeric
  · simp at mark
    rcases mark with rfl | rfl | rfl | rfl | rfl <;> decide

theorem isShown_hexDigit :
    ∀ value < 16, isShown (hexDigit value) = true ∧ hexDigit value ≠ '/' := by
  decide

/-- What a byte is shown by holds no slash but its own. -/
theorem mem_escapeByte {byte : UInt8} {c : Char} (member : c ∈ escapeByte byte) :
    (isShown c = true ∨ c = '%') ∧ (c = '/' → byte.toNat = '/'.toNat) := by
  have bound := byte.toNat_lt
  unfold escapeByte at member
  dsimp only at member
  split at member
  · next shown =>
      obtain rfl := List.mem_singleton.1 member
      refine ⟨.inl shown, fun slash => ?_⟩
      rw [← slash, toNat_char_of_byte]
  · have high := isShown_hexDigit (byte.toNat / 16) (by omega)
    have low := isShown_hexDigit (byte.toNat % 16) (by omega)
    simp only [List.mem_cons, List.not_mem_nil, or_false] at member
    rcases member with rfl | rfl | rfl
    · exact ⟨.inr rfl, fun slash => absurd slash (by decide)⟩
    · exact ⟨.inl high.1, fun slash => absurd slash high.2⟩
    · exact ⟨.inl low.1, fun slash => absurd slash low.2⟩

def escapeChar (c : Char) : List Char :=
  (String.utf8EncodeChar c).flatMap escapeByte

theorem escapeChar_of_isShown {c : Char} (shown : isShown c = true) : escapeChar c = [c] := by
  have small := (bounds_of_isShown shown).2
  rcases Text.Utf8.bytes_of_char c with ⟨_, bytes⟩ | ⟨large, _⟩
  · rw [escapeChar, bytes, List.flatMap_singleton, escapeByte, toNat_byte (by omega),
      Char.ofNat_toNat, if_pos shown]
  · omega

/-- A character that is not shown as it is begins with a percent sign and is longer. -/
theorem escapeChar_of_not_isShown {c : Char} (hidden : ¬ isShown c = true) :
    ∃ first second rest, escapeChar c = '%' :: first :: second :: rest := by
  have begins : ∃ byte bytes, String.utf8EncodeChar c = byte :: bytes ∧
      ¬ isShown (Char.ofNat byte.toNat) = true := by
    rcases Text.Utf8.bytes_of_char c with ⟨small, bytes⟩ | ⟨_, nonempty, large⟩
    · refine ⟨_, [], bytes, ?_⟩
      rwa [toNat_byte (by omega), Char.ofNat_toNat]
    · obtain ⟨byte, bytes, given⟩ := List.exists_cons_of_ne_nil nonempty
      refine ⟨byte, bytes, given, fun shown => ?_⟩
      have bound := (bounds_of_isShown shown).2
      rw [toNat_char_of_byte] at bound
      have := large byte (given ▸ List.mem_cons_self)
      omega
  obtain ⟨byte, bytes, given, hidden⟩ := begins
  exact ⟨_, _, bytes.flatMap escapeByte, by
    rw [escapeChar, given, List.flatMap_cons, escapeByte, if_neg hidden]
    rfl⟩

theorem mem_escapeChar {c shown : Char} (member : shown ∈ escapeChar c) :
    (isShown shown = true ∨ shown = '%') ∧ (shown = '/' → c = '/') := by
  obtain ⟨byte, inside, member⟩ := List.mem_flatMap.1 member
  obtain ⟨written, slash⟩ := mem_escapeByte member
  refine ⟨written, fun same => ?_⟩
  have code : byte.toNat = '/'.toNat := slash same
  rcases Text.Utf8.bytes_of_char c with ⟨small, bytes⟩ | ⟨_, _, large⟩
  · obtain rfl := List.mem_singleton.1 (bytes ▸ inside)
    rw [toNat_byte (by omega)] at code
    exact Char.toNat_inj.1 code
  · have := large byte inside
    rw [code] at this
    exact absurd this (by decide)

/-- A character in the locator of a file is neither dropped nor a delimiter. -/
def IsWritten (c : Char) : Prop :=
  isShown c = true ∨ c = '%'

theorem IsWritten.plain {c : Char} (written : IsWritten c) :
    isLeading c = false ∧ isDropped c = false ∧ c ≠ ':' ∧ c ≠ '?' ∧ c ≠ '#' := by
  rcases written with shown | rfl
  · have different {other : Char} (hidden : isShown other = false) : c ≠ other := by
      rintro rfl
      rw [hidden] at shown
      cases shown
    have visible := (bounds_of_isShown shown).1
    refine ⟨by simpa [isLeading] using visible, ?_, different (by decide), different (by decide),
      different (by decide)⟩
    simp only [isDropped, Bool.or_eq_false_iff, beq_eq_false_iff_ne]
    exact ⟨⟨different (by decide), different (by decide)⟩, different (by decide)⟩
  · decide

end Characters

section Texts

theorem toList_escape (text : String) :
    (escape text).toList = text.toList.flatMap escapeChar := by
  rw [escape, String.toList_ofList, Text.Utf8.encode, List.flatMap_assoc]
  rfl

/-- A text is shown as it is exactly if each of its characters is. -/
theorem escape_eq_self_iff (text : String) :
    escape text = text ↔ ∀ c ∈ text.toList, isShown c = true := by
  have longer (text : List Char) : text.length ≤ (text.flatMap escapeChar).length := by
    rw [List.length_flatMap]
    induction text with
    | nil => exact Nat.le_refl _
    | cons c rest ih =>
        rw [List.map_cons, List.sum_cons, List.length_cons]
        by_cases shown : isShown c = true
        · rw [escapeChar_of_isShown shown, List.length_singleton]
          omega
        · obtain ⟨first, second, more, given⟩ := escapeChar_of_not_isShown shown
          simp only [given, List.length_cons]
          omega
  rw [← String.toList_inj, toList_escape]
  induction text.toList with
  | nil => simp
  | cons c rest ih =>
      rw [List.flatMap_cons, List.forall_mem_cons]
      by_cases shown : isShown c = true
      · rw [escapeChar_of_isShown shown, List.singleton_append, List.cons_inj_right]
        exact ih.trans (and_iff_right shown).symm
      · obtain ⟨first, second, more, given⟩ := escapeChar_of_not_isShown shown
        refine iff_of_false (fun same => ?_) (fun all => shown all.1)
        have lengths := congrArg List.length same
        have bound := longer rest
        rw [given] at lengths
        simp only [List.length_append, List.length_cons] at lengths
        omega

theorem isFileName_escape {name : String} (plain : FilePath.IsFileName name) :
    FilePath.IsFileName (escape name) := by
  -- A name that is changed is no dots, and one that is not changed was none.
  have kept {dots : String} (given : escape name = dots)
      (shown : ∀ c ∈ dots.toList, c ≠ '%') : name = dots := by
    rw [← given]
    refine ((escape_eq_self_iff name).2 fun c member => ?_).symm
    by_contra hidden
    obtain ⟨first, second, more, begins⟩ := escapeChar_of_not_isShown hidden
    refine shown '%' ?_ rfl
    rw [← given, toList_escape]
    exact List.mem_flatMap.2 ⟨c, member, begins ▸ List.mem_cons_self⟩
  refine ⟨fun none => plain.nonempty (kept none (by simp)),
    fun dot => plain.not_here (kept dot (by simp)),
    fun dots => plain.not_above (kept dots (by simp)), fun slash => ?_⟩
  rw [toList_escape] at slash
  obtain ⟨c, member, inside⟩ := List.mem_flatMap.1 slash
  exact plain.unbroken ((mem_escapeChar inside).2 rfl ▸ member)

theorem isWritten_of_mem_escape {text : String} {c : Char}
    (member : c ∈ (escape text).toList) : IsWritten c := by
  rw [toList_escape] at member
  obtain ⟨shown, _, inside⟩ := List.mem_flatMap.1 member
  exact (mem_escapeChar inside).1

/-- The names in a path are shown one by one. -/
theorem escape_toString_ofLocation (place : Location) :
    escape (FilePath.ofLocation place).toString =
      (FilePath.ofLocation (place.map escape)).toString := by
  have slash : ['/'].flatMap escapeChar = ['/'] := by decide
  have written (names : List String) : (FilePath.ofLocation names).toString.toList =
      '/' :: ['/'].intercalate (names.map String.toList) := by
    simp [FilePath.toString, FilePath.ofLocation, String.toList_intercalate]
  have names : (fun name => name.flatMap escapeChar) ∘ String.toList = String.toList ∘ escape :=
    funext fun name => (toList_escape name).symm
  rw [← String.toList_inj, toList_escape, written, written, ← List.singleton_append,
    List.flatMap_append, Text.flatMap_intercalate, slash, List.map_map, List.map_map, names]
  rfl

end Texts

section Division

theorem cleaned_of_kept {text : List Char}
    (kept : ∀ c ∈ text, isLeading c = false ∧ isDropped c = false) :
    (text.dropWhile isLeading).filter (fun c => !isDropped c) = text := by
  have started : text.dropWhile isLeading = text := by
    cases text with
    | nil => rfl
    | cons c rest =>
        rw [List.dropWhile_cons_of_neg (by simp [(kept c List.mem_cons_self).1])]
  rw [started, List.filter_eq_self]
  intro c member
  simp [(kept c member).2]

/-- What stands behind an empty authority is the path, if it has no query and no fragment. -/
theorem path_of_isWritten {text : List Char} (written : ∀ c ∈ text, IsWritten c) :
    text.takeWhile (fun c => c != '?' && c != '#') = text := by
  rw [List.takeWhile_eq_self_iff]
  intro c member
  simp [(written c member).plain.2.2.2]

theorem splitScheme_of_not_mem {text : List Char} (absent : ':' ∉ text) :
    splitScheme text = ([], text) := by
  rw [splitScheme, Text.cutFirst_of_not_mem absent]

/-- A locator with the scheme of files and an empty authority has the path behind them. -/
theorem ofString_file {path : String} {rest : List Char} (starts : path.toList = '/' :: rest)
    (written : ∀ c ∈ path.toList, IsWritten c) :
    ofString ("file://" ++ path) = .ok ⟨"file", "", path⟩ := by
  have spelled : ("file://" ++ path).toList = "file://".toList ++ path.toList :=
    String.toList_append
  have front : "file://".toList.all (fun c => !isLeading c && !isDropped c) = true := by decide
  have kept : ∀ c ∈ ("file://" ++ path).toList, isLeading c = false ∧ isDropped c = false := by
    intro c member
    rcases List.mem_append.1 (spelled ▸ member) with before | behind
    · simpa using List.all_eq_true.1 front c before
    · exact ⟨(written c behind).plain.1, (written c behind).plain.2.1⟩
  have divided : splitScheme ("file://" ++ path).toList =
      ("file".toList, '/' :: '/' :: path.toList) := by
    rw [spelled]
    rfl
  have authority : path.toList.takeWhile (fun c => c != '/' && c != '?' && c != '#') = [] := by
    rw [starts]
    rfl
  unfold ofString
  simp only [cleaned_of_kept kept, divided, authority, List.length_nil, List.drop_zero,
    path_of_isWritten written]
  simp [checkBrackets, checkCharacters, pure, Except.pure, bind, Except.bind]

/-- An absolute path without delimiters is a locator without a scheme. -/
theorem ofString_path {path : String} {rest : List Char} (starts : path.toList = '/' :: rest)
    (single : '/' ∉ rest.head?) (written : ∀ c ∈ path.toList, IsWritten c) :
    ofString path = .ok ⟨"", "", path⟩ := by
  have kept : ∀ c ∈ path.toList, isLeading c = false ∧ isDropped c = false :=
    fun c member => ⟨(written c member).plain.1, (written c member).plain.2.1⟩
  have divided : splitScheme path.toList = ([], path.toList) :=
    splitScheme_of_not_mem (fun colon => (written _ colon).plain.2.2.1 rfl)
  unfold ofString
  dsimp only
  rw [cleaned_of_kept kept, divided]
  dsimp only
  split
  · next begins =>
      rw [starts] at begins
      obtain ⟨_, rfl⟩ := List.cons.inj begins
      exact absurd rfl single
  · dsimp only
    rw [path_of_isWritten written]
    simp [checkBrackets, checkCharacters, pure, Except.pure, bind, Except.bind]

/-- The locator of an absolute path has no scheme. -/
theorem scheme_of_absolute {path : String} {rest : List Char} (starts : path.toList = '/' :: rest)
    {locator : Locator} (given : ofString path = .ok locator) : locator.scheme = "" := by
  have cleaned : (path.toList.dropWhile isLeading).filter (fun c => !isDropped c) =
      '/' :: rest.filter (fun c => !isDropped c) := by
    rw [starts, List.dropWhile_cons_of_neg (by decide), List.filter_cons_of_pos (by decide)]
  have divided (text : List Char) : splitScheme ('/' :: text) = ([], '/' :: text) := by
    unfold splitScheme Text.cutFirst
    rw [List.takeWhile_cons_of_pos (by decide)]
    dsimp only
    split
    · next scheme behind given =>
        split at given
        · cases given
        · cases given
          rw [if_neg (by simp [show Char.isAlpha '/' = false by decide])]
    · rfl
  unfold ofString at given
  simp only [cleaned, divided, bind, Except.bind, pure, Except.pure] at given
  split at given
  · cases given
  · split at given
    · cases given
    · exact (congrArg Locator.scheme (Except.ok.inj given)).symm

end Division

end Locator

namespace FilePath

variable {location : Location}

theorem toList_ofLocation (plain : ∀ name ∈ location, IsFileName name) (below : location ≠ []) :
    ∃ rest, (ofLocation location).toString.toList = '/' :: rest ∧ '/' ∉ rest.head? := by
  refine ⟨['/'].intercalate (location.map String.toList), ?_, fun slash => ?_⟩
  · simp [toString, ofLocation, String.toList_intercalate]
  · obtain ⟨first, others, rfl⟩ := List.exists_cons_of_ne_nil below
    rw [List.map_cons] at slash
    exact (plain first List.mem_cons_self).unbroken
      (Text.mem_of_mem_head?_intercalate (plain first List.mem_cons_self).kept.1 slash)

end FilePath

namespace Loader

variable {tree : FileTree} {place : Location}

/-- The place of a file, by the names of the directories above it and its own name. -/
structure IsFilePlace (tree : FileTree) (place : Location) : Prop where
  names : ∀ name ∈ place, FilePath.IsFileName name
  file : tree.isFile (.ofLocation place) = .ok true

def IsShownPlace (place : Location) : Prop :=
  ∀ name ∈ place, ∀ c ∈ name.toList, Locator.isShown c = true

/-- What looking for the document at an absolute path comes to. -/
def endingAt (tree : FileTree) (place : Location) (missing : Failure) : Except Failure FilePath :=
  match tree.isFile (.ofLocation place) with
  | .ok true => .ok (.ofLocation place)
  | .ok false => .error missing
  | .error fault => .error (.file fault)

theorem resolve_of_isFile (names : ∀ name ∈ place, FilePath.IsFileName name)
    (file : tree.isFile (.ofLocation place) = .ok true) :
    tree.resolve (.ofLocation place) = .ok (.ofLocation place) ∧ place ≠ [] := by
  obtain ⟨found, bytes, located, entry⟩ := FileTree.isFile_eq_true file
  have same : found = place := by
    rw [(FileTree.locate_eq_ok located).2, FilePath.resolveFrom]
    exact FilePath.foldl_enter_plain [] fun up => (names _ up).not_above rfl
  subst same
  refine ⟨FileTree.resolve_of_locate located, ?_⟩
  rintro rfl
  cases entry

/-- The document at a local location with the path of a place is looked for at the place. -/
theorem resolveLocation_of_place {location : String} {locator : Locator} {source : FilePath}
    (names : ∀ name ∈ place, FilePath.IsFileName name)
    (given : Locator.ofString location = .ok locator)
    (scheme : locator.scheme = "" ∨ locator.scheme = "file")
    (target : targetPath location locator = .ofLocation place) :
    resolveLocation tree location source =
      endingAt tree place (.missingDocument location source) := by
  have near : ¬ (locator.scheme ≠ "" && locator.scheme ≠ "file") = true := by
    rcases scheme with plain | file
    · simp [plain]
    · simp [file]
  rw [resolveLocation_of_locator given, if_neg near, target,
    FilePath.join_of_absolute (FilePath.isAbsolute_ofLocation place), endingAt]
  cases isFile : tree.isFile (.ofLocation place) with
  | error fault => rfl
  | ok found =>
      cases found with
      | false => rfl
      | true =>
          dsimp only
          rw [(resolve_of_isFile names isFile).1]
          rfl

/-- The locator of a place is taken as it is written. -/
theorem resolveLocation_ofPath (names : ∀ name ∈ place, FilePath.IsFileName name)
    (below : place ≠ []) (source : FilePath) :
    resolveLocation tree (Locator.ofPath (.ofLocation place)) source =
      endingAt tree (place.map Locator.escape)
        (.missingDocument (Locator.ofPath (.ofLocation place)) source) := by
  have escaped : ∀ name ∈ place.map Locator.escape, FilePath.IsFileName name := by
    intro name member
    obtain ⟨original, inside, rfl⟩ := List.mem_map.1 member
    exact Locator.isFileName_escape (names original inside)
  obtain ⟨rest, starts, _⟩ := FilePath.toList_ofLocation escaped (by simpa using below)
  have written : ∀ c ∈ (FilePath.ofLocation (place.map Locator.escape)).toString.toList,
      Locator.IsWritten c := by
    intro c member
    rw [← Locator.escape_toString_ofLocation] at member
    exact Locator.isWritten_of_mem_escape member
  have given := Locator.ofString_file starts written
  rw [← Locator.escape_toString_ofLocation, ← Locator.ofPath] at given
  refine resolveLocation_of_place escaped given (.inr rfl) ?_
  have marked : (Locator.ofPath (.ofLocation place)).startsWith "file:" = true := by
    have front : "file://".toList = "file:".toList ++ "//".toList := by decide
    rw [Locator.ofPath, String.startsWith_string_iff, String.toList_append, front,
      List.append_assoc]
    exact List.prefix_append _ _
  rw [targetPath, if_pos marked, Locator.escape_toString_ofLocation,
    FilePath.ofString_toString_ofLocation escaped]

/-- An absolute path that is a locator is taken as the path of the place. -/
theorem resolveLocation_toString (names : ∀ name ∈ place, FilePath.IsFileName name)
    (below : place ≠ []) {locator : Locator}
    (given : Locator.ofString (FilePath.ofLocation place).toString = .ok locator)
    (source : FilePath) :
    resolveLocation tree (FilePath.ofLocation place).toString source =
      endingAt tree place (.missingDocument (FilePath.ofLocation place).toString source) := by
  obtain ⟨rest, starts, _⟩ := FilePath.toList_ofLocation names below
  refine resolveLocation_of_place names given (.inl (Locator.scheme_of_absolute starts given)) ?_
  have unmarked : ¬ (FilePath.ofLocation place).toString.startsWith "file:" = true := by
    rw [String.startsWith_string_iff, starts]
    rintro ⟨behind, same⟩
    exact absurd (List.cons.inj same).1 (by decide)
  rw [targetPath, if_neg unmarked, FilePath.ofString_toString_ofLocation names]

/-- What the locator of a file and its absolute path lead to, seen from any document. -/
structure LeadsBack (tree : FileTree) (place : Location) (source : FilePath) : Prop where
  /-- The document is looked for under the names that the locator shows. -/
  literal : resolveLocation tree (Locator.ofPath (.ofLocation place)) source =
    endingAt tree (place.map Locator.escape)
      (.missingDocument (Locator.ofPath (.ofLocation place)) source)
  /-- The file is found exactly if all characters of its path are shown as they are. -/
  found_iff : resolveLocation tree (Locator.ofPath (.ofLocation place)) source =
    .ok (.ofLocation place) ↔ IsShownPlace place
  /-- By its path the file is found exactly if the path is a locator. -/
  path_iff : resolveLocation tree (FilePath.ofLocation place).toString source =
    .ok (.ofLocation place) ↔
      ∃ locator, Locator.ofString (FilePath.ofLocation place).toString = .ok locator
  /-- A path of shown characters is a locator. -/
  shown : IsShownPlace place →
    ∃ locator, Locator.ofString (FilePath.ofLocation place).toString = .ok locator

/--
The locator of a file leads back to the file exactly if all characters of the path
are shown as they are; then the path itself leads there, too.
-/
theorem leadsBack (given : IsFilePlace tree place) (source : FilePath) :
    LeadsBack tree place source := by
  obtain ⟨names, file⟩ := given
  have below := (resolve_of_isFile names file).2
  have literal : resolveLocation tree (Locator.ofPath (.ofLocation place)) source = _ :=
    resolveLocation_ofPath names below source
  have found (missing : Failure) : endingAt tree place missing = .ok (.ofLocation place) := by
    rw [endingAt, file]
  have unchanged_iff : place.map Locator.escape = place ↔ IsShownPlace place := by
    unfold IsShownPlace
    simp only [← Locator.escape_eq_self_iff]
    simpa using List.map_inj_left (f := Locator.escape) (g := id) (l := place)
  refine ⟨literal, ?_, ?_, ?_⟩
  · rw [literal, ← unchanged_iff]
    constructor
    · intro found
      unfold endingAt at found
      split at found
      · exact congrArg FilePath.parts (Except.ok.inj found)
      · cases found
      · cases found
    · intro unchanged
      rw [unchanged]
      exact found _
  · constructor
    · intro found
      obtain ⟨locator, _, _, given, _⟩ := resolveLocation_eq_ok found
      exact ⟨locator, given⟩
    · rintro ⟨locator, given⟩
      rw [resolveLocation_toString names below given, found]
  · intro shown
    obtain ⟨rest, starts, single⟩ := FilePath.toList_ofLocation names below
    refine ⟨_, Locator.ofString_path starts single fun c member => ?_⟩
    rw [← unchanged_iff.2 shown, ← Locator.escape_toString_ofLocation] at member
    exact Locator.isWritten_of_mem_escape member

/-- A file whose name the locator shows as it is, and one with a space in its name. -/
def spacedTree : FileTree where
  entries := [(["lamp-1.xsd"], .file []), (["lamp 2.xsd"], .file [])]
  workingDirectory := []

theorem leadsBack_spacedTree :
    IsFilePlace spacedTree ["lamp-1.xsd"] ∧
      LeadsBack spacedTree ["lamp-1.xsd"] (.ofLocation ["a.xsd"]) ∧
      IsShownPlace ["lamp-1.xsd"] := by
  have given : IsFilePlace spacedTree ["lamp-1.xsd"] := ⟨by decide, by decide⟩
  have shown : "lamp-1.xsd".toList.all Locator.isShown = true := by decide
  refine ⟨given, leadsBack given _, fun name member => ?_⟩
  rw [List.mem_singleton.1 member]
  exact List.all_eq_true.1 shown

/-- The escape for a space is not taken back: the file is reported as missing. -/
theorem not_found_spacedTree :
    (¬ ∀ (tree : FileTree) (place : Location) (source : FilePath), IsFilePlace tree place →
      resolveLocation tree (Locator.ofPath (.ofLocation place)) source = .ok (.ofLocation place)) ∧
    Locator.ofPath (.ofLocation ["lamp 2.xsd"]) = "file:///lamp%202.xsd" ∧
    resolveLocation spacedTree "file:///lamp%202.xsd" (.ofLocation ["a.xsd"]) =
      .error (.missingDocument "file:///lamp%202.xsd" (.ofLocation ["a.xsd"])) := by
  have given : IsFilePlace spacedTree ["lamp 2.xsd"] := ⟨by decide, by decide⟩
  have shown : Locator.ofPath (.ofLocation ["lamp 2.xsd"]) = "file:///lamp%202.xsd" := by
    decide
  have missing : resolveLocation spacedTree "file:///lamp%202.xsd" (.ofLocation ["a.xsd"]) =
      .error (.missingDocument "file:///lamp%202.xsd" (.ofLocation ["a.xsd"])) := by
    have literal : resolveLocation spacedTree (Locator.ofPath (.ofLocation ["lamp 2.xsd"]))
        (.ofLocation ["a.xsd"]) = _ := resolveLocation_ofPath given.names (by decide) _
    have away : spacedTree.isFile (.ofLocation (["lamp 2.xsd"].map Locator.escape)) =
        .ok false := by
      decide
    rw [shown, endingAt, away] at literal
    exact literal
  refine ⟨fun always => ?_, shown, missing⟩
  have found := always spacedTree ["lamp 2.xsd"] (.ofLocation ["a.xsd"]) given
  rw [shown, missing] at found
  cases found

end Loader

end SchemaBinding
