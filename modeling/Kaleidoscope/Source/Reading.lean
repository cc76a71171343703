/-!
# Reading a source

A source is a file of characters in the eight-bit encoding of variable length. Reading it fails if
the file cannot be opened, if its bytes are no characters, or if it ends within a character. A
character takes one to four bytes: a leading byte that says how many follow, and so many
continuation bytes; it must be written with as few bytes as possible.
-/
namespace Kaleidoscope

/-- Why a source cannot be read. -/
inductive ReadError where
  /-- There is no such file. -/
  | notFound
  /-- The file is a directory. -/
  | isDirectory
  /-- The path leads through a file as if it were a directory. -/
  | notDirectory
  /-- The path, or a name on it, is longer than the file system allows. -/
  | nameTooLong
  /-- Some bytes are no character. -/
  | invalidData
  /-- The file ends within a character. -/
  | unexpectedEnd
deriving DecidableEq

namespace ReadError

/-- The error in words. -/
def message : ReadError → String
  | notFound => "entity not found"
  | isDirectory => "is a directory"
  | notDirectory => "not a directory"
  | nameTooLong => "invalid filename"
  | invalidData => "invalid data"
  | unexpectedEnd => "unexpected end of file"

end ReadError

namespace Reading

/-- The beginning of a character. -/
structure Beginning where
  /-- How many continuation bytes are still to come. -/
  missing : Nat
  /-- The code as far as it is known. -/
  code : Nat
  /-- The least code that takes so many bytes. -/
  least : Nat

/-- What a leading byte of a longer character begins. -/
def begin? (byte : UInt8) : Option Beginning :=
  let value := byte.toNat
  if value < 0xc0 then none
  else if value < 0xe0 then some ⟨1, value - 0xc0, 0x80⟩
  else if value < 0xf0 then some ⟨2, value - 0xe0, 0x800⟩
  else if value < 0xf8 then some ⟨3, value - 0xf0, 0x10000⟩
  else none

/-- The character with a code, if the code takes as many bytes as were used. -/
def character? (least code : Nat) : Option Char :=
  if code < least then none
  else if code.isValidChar then some (Char.ofNat code)
  else none

/-- The characters of some bytes that follow the beginning of a character, if there is one. -/
def decodeAfter : Option Beginning → List UInt8 → Except ReadError (List Char)
  | none, [] => .ok []
  | some _, [] => .error .unexpectedEnd
  | none, byte :: rest =>
    if byte < 0x80 then (decodeAfter none rest).map (Char.ofNat byte.toNat :: ·)
    else match begin? byte with
      | some beginning => decodeAfter (some beginning) rest
      | none => .error .invalidData
  | some beginning, byte :: rest =>
    if byte < 0x80 || 0xc0 ≤ byte then .error .invalidData
    else
      let code := beginning.code * 64 + (byte.toNat - 0x80)
      if 1 < beginning.missing then
        decodeAfter (some { beginning with missing := beginning.missing - 1, code := code }) rest
      else match character? beginning.least code with
        | some c => (decodeAfter none rest).map (c :: ·)
        | none => .error .invalidData

/-- The text of some bytes. -/
def decode (bytes : List UInt8) : Except ReadError String :=
  (decodeAfter none bytes).map String.ofList

end Reading

end Kaleidoscope
