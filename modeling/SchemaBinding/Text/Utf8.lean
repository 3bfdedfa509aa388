/-!
# UTF-8

Texts are stored as UTF-8.  Decoding refuses overlong forms, surrogates, code
points past the last one and truncated sequences, so a sequence of bytes is
the encoding of at most one text.
-/

namespace SchemaBinding.Text.Utf8

def encode (text : List Char) : List UInt8 :=
  text.flatMap String.utf8EncodeChar
/-- The low six bits of a continuation byte, if the byte is one. -/
def continuation? (byte : UInt8) : Option Nat :=
  if 0x80 ≤ byte.toNat && byte.toNat < 0xC0 then some (byte.toNat - 0x80) else none

def char2? (a b : UInt8) : Option Char := do
  let low ← continuation? b
  let code := (a.toNat - 0xC0) * 64 + low
  if 0xC0 ≤ a.toNat && a.toNat < 0xE0 && 0x80 ≤ code then some (Char.ofNat code) else none

def char3? (a b c : UInt8) : Option Char := do
  let middle ← continuation? b
  let low ← continuation? c
  let code := (a.toNat - 0xE0) * 4096 + middle * 64 + low
  if 0xE0 ≤ a.toNat && a.toNat < 0xF0 && 0x800 ≤ code && (code < 0xD800 || 0xE000 ≤ code) then
    some (Char.ofNat code)
  else none

def char4? (a b c d : UInt8) : Option Char := do
  let high ← continuation? b
  let middle ← continuation? c
  let low ← continuation? d
  let code := (a.toNat - 0xF0) * 262144 + high * 4096 + middle * 64 + low
  if 0xF0 ≤ a.toNat && a.toNat < 0xF8 && 0x10000 ≤ code && code < 0x110000 then
    some (Char.ofNat code)
  else none

def decode? : List UInt8 → Option (List Char)
  | [] => some []
  | a :: rest =>
      if a.toNat < 0x80 then (decode? rest).map (Char.ofNat a.toNat :: ·)
      else
        match rest with
        | [] => none
        | b :: rest =>
            match char2? a b with
            | some char => (decode? rest).map (char :: ·)
            | none =>
                match rest with
                | [] => none
                | c :: rest =>
                    match char3? a b c with
                    | some char => (decode? rest).map (char :: ·)
                    | none =>
                        match rest with
                        | [] => none
                        | d :: rest =>
                            match char4? a b c d with
                            | some char => (decode? rest).map (char :: ·)
                            | none => none

/-- The character with which a list of bytes begins, and how many bytes follow its first one. -/
def head? (byte : UInt8) (rest : List UInt8) : Option (Char × Nat) :=
  if byte.toNat < 0x80 then some (Char.ofNat byte.toNat, 0)
  else
    match rest with
    | [] => none
    | [b] => (char2? byte b).map (·, 1)
    | [b, c] => (char2? byte b).map (·, 1) <|> (char3? byte b c).map (·, 2)
    | b :: c :: d :: _ =>
        (char2? byte b).map (·, 1) <|> (char3? byte b c).map (·, 2) <|>
          (char4? byte b c d).map (·, 3)

/-- The text of bytes, where a byte that belongs to no character is shown by its number. -/
def shown (bytes : List UInt8) : List Char :=
  match bytes with
  | [] => []
  | byte :: rest =>
      match head? byte rest with
      | some (char, size) => char :: shown (rest.drop size)
      | none => '\\' :: 'x' :: (Nat.toDigits 16 byte.toNat ++ shown rest)
termination_by bytes.length
decreasing_by
  · exact Nat.lt_succ_of_le (List.length_drop ▸ Nat.sub_le rest.length size)
  · exact Nat.lt_succ_self rest.length

example : decode? (encode "aé€😀".toList) = some "aé€😀".toList := by decide +kernel

example : decode? [0xC0, 0x80] = none := by decide

example : shown [0x41, 0xC3, 0xA9, 0xE2, 0x82, 0x41] = "Aé\\xe2\\x82A".toList := by
  cbv

end SchemaBinding.Text.Utf8
