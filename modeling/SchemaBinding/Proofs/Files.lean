import SchemaBinding.Proofs.Alphabets
import SchemaBinding.Proofs.Declaring
import SchemaBinding.Proofs.Storage

/-!
# Schemas in files and in texts

A schema is read from a file as from the text that the file holds, where the
text is bare and its first bytes do not pass for UTF-16.  The one exception are
the extra letters: in UTF-16 they may stand in names, so that a file can hold a
schema whose text, handed over as such, is not well formed.
-/

namespace SchemaBinding

open Text Xml

namespace Xml

theorem mem_of_mem_normalizeLines {text : List Char} {c : Char} (member : c ∈ normalizeLines text) :
    c ∈ text ∨ c = '\n' := by
  fun_induction normalizeLines text with
  | case1 rest ih =>
      rcases List.mem_cons.mp member with same | later
      · exact .inr same
      · exact (ih later).imp_left fun inRest =>
          List.mem_cons_of_mem _ (List.mem_cons_of_mem _ inRest)
  | case2 rest _ ih =>
      rcases List.mem_cons.mp member with same | later
      · exact .inr same
      · exact (ih later).imp_left (List.mem_cons_of_mem _)
  | case3 d rest _ other ih =>
      rcases List.mem_cons.mp member with rfl | later
      · exact .inl List.mem_cons_self
      · exact (ih later).imp_left (List.mem_cons_of_mem d)
  | case4 => cases member

def HasExtraLetter (text : List Char) : Prop :=
  ∃ c ∈ text, c ∈ Alphabet.extraLetters

theorem clear_normalizeLines (text : List Char) :
    Clear (HasExtraLetter text) (normalizeLines text) := by
  intro c member extra
  rcases mem_of_mem_normalizeLines member with inText | rfl
  · exact ⟨c, inText, extra⟩
  · exact absurd extra (by decide)

namespace Document

theorem ofBytes_of_charactersOf {origin : Origin} {bytes : List UInt8} {alphabet : Alphabet}
    {text : List Char} (read : charactersOf origin bytes = .ok (alphabet, text)) :
    ofBytes origin bytes =
      match (nodeOf? alphabet text).bind ofNode? with
      | some document => .ok document
      | none => .error .notWellFormed := by
  unfold ofBytes
  rw [read]
  rfl

theorem ofBytes_of_error {origin : Origin} {bytes : List UInt8} {fault : Malformed}
    (read : charactersOf origin bytes = .error fault) : ofBytes origin bytes = .error fault := by
  unfold ofBytes
  rw [read]
  rfl

/-- A document in a file is the one in its text, or the text has an extra letter in a name. -/
theorem ofBytes_file (storage : Storage) {text : List Char} (bare : IsBare text)
    (noNull : '\x00' ∉ text.take 2) :
    ofBytes .file (storage.bytes text) = ofBytes .text (Utf8.encode text) ∨
      storage.encoding.isWide ∧ HasExtraLetter text ∧
        ofBytes .text (Utf8.encode text) = .error .notWellFormed := by
  have file := storage.charactersOf_file bare noNull
  have handed := charactersOf_text bare.unmarked noNull
  by_cases valid : text.all isChar
  · rw [if_pos valid] at file handed
    rw [ofBytes_of_charactersOf file, ofBytes_of_charactersOf handed]
    match storage with
    | .utf8 _ => exact .inl rfl
    | .utf16 bigEndian =>
        have wide : (Storage.utf16 bigEndian).encoding.isWide := by cases bigEndian <;> rfl
        have alphabet : (Storage.utf16 bigEndian).encoding.alphabet = .extended := by
          cases bigEndian <;> rfl
        rw [alphabet]
        -- Only here do the alphabets differ: the text is read in the standard one.
        rcases (nodeOf?_agree (clear_normalizeLines text)).eq_or with same | ⟨letters, nothing⟩
        · rw [same]
          exact .inl rfl
        · rw [nothing]
          exact .inr ⟨wide, letters, rfl⟩
  · rw [if_neg valid] at file handed
    rw [ofBytes_of_error file, ofBytes_of_error handed]
    exact .inl rfl

end Document

/-- No encoding that is named in a text is looked up. -/
theorem charactersOf_text_error {bytes : List UInt8} {fault : Malformed}
    (failed : charactersOf .text bytes = .error fault) : fault = .notWellFormed := by
  have settled (sniffed : Encoding) (body : List UInt8) :
      Transcript.settle .text sniffed body = .ok ⟨[], sniffed, body⟩ := rfl
  unfold charactersOf at failed
  simp only [settled, bind, Except.bind] at failed
  split at failed
  · split at failed
    · cases failed
    · cases failed
      rfl
  · cases failed
    rfl

theorem charactersOf_file_error (storage : Storage) {text : List Char} {fault : Malformed}
    (bare : IsBare text) (noNull : '\x00' ∉ text.take 2)
    (failed : charactersOf .file (storage.bytes text) = .error fault) : fault = .notWellFormed := by
  rw [storage.charactersOf_file bare noNull] at failed
  split at failed
  · cases failed
  · cases failed
    rfl

theorem Document.ofBytes_error {origin : Origin} {bytes : List UInt8}
    (unnamed : ∀ fault, charactersOf origin bytes = .error fault → fault = .notWellFormed)
    {fault : Malformed} (failed : ofBytes origin bytes = .error fault) :
    fault = .notWellFormed := by
  cases read : charactersOf origin bytes with
  | error cause =>
      rw [ofBytes_of_error read] at failed
      cases failed
      exact unnamed _ read
  | ok found =>
      rw [ofBytes_of_charactersOf read] at failed
      split at failed
      · cases failed
      · cases failed
        rfl

end Xml

namespace Schema

/-- Where no code page is looked up, every failure is a fault of the document. -/
theorem isFault_of_ofBytes {origin : Origin} {bytes : List UInt8} {path : FilePath}
    (unnamed : ∀ fault, charactersOf origin bytes = .error fault → fault = .notWellFormed)
    {failure : Failure} (failed : (ofBytes origin path bytes).outcome = .error failure) :
    IsFault path failure := by
  unfold ofBytes at failed
  split at failed
  · next document _ => exact (ends_ofDocument path document).failure failure failed
  · cases failed
    exact ⟨_, rfl⟩
  · next label fault read => cases Document.ofBytes_error unnamed read

def lampPath : FilePath := ⟨"/", ["lamp.xsd"]⟩

def lampTree (storage : Storage) (text : String) : FileTree where
  entries := [(["lamp.xsd"], .file (storage.bytes text.toList))]
  workingDirectory := []

theorem read_lampTree (storage : Storage) (text : String) :
    (lampTree storage text).read lampPath = .ok (storage.bytes text.toList) :=
  rfl

def lampText : String :=
  "<?xml version='1.0'?><xs:schema id='lámpa' xmlns:xs='http://www.w3.org/2001/XMLSchema'/>"

def failureOf? (run : Run Schema) : Option Failure :=
  match run.outcome with
  | .ok _ => none
  | .error failure => some failure

/-- A schema with an extra letter for the name of an attribute. -/
def ordinalText : String :=
  "<xs:schema xmlns:xs=\"http://www.w3.org/2001/XMLSchema\" ª=\"1\"/>"

/-- The bytes of a document in UTF-16, each as a character, with a declaration of UTF-8. -/
def nullText : String :=
  String.ofList ("<?xml version=\"1.0\" encoding=\"UTF-8\"?><a/>".toList.flatMap (['\x00', ·]))

theorem toList_nullText : nullText.toList =
    "<?xml version=\"1.0\" encoding=\"UTF-8\"?><a/>".toList.flatMap (['\x00', ·]) :=
  String.toList_ofList

end Schema

end SchemaBinding
