/-!
# UTF-8

Encoding is the standard library's, character by character.  Decoding accepts every list of
bytes: each maximal part that can begin no character is replaced by U+FFFD, so nothing is lost
silently and the decoder never fails.
-/

namespace Custody.Text.Utf8

/-- The UTF-8 bytes of a text. -/
def encode (text : List Char) : List UInt8 :=
  text.flatMap String.utf8EncodeChar

/-- The character that stands for bytes which are no UTF-8. -/
def replacement : Char := '�'

/-- A character of which some bytes have been read: the bits so far, how many bytes are still
missing, and the bounds of the next one. -/
structure Pending where
  code : Nat
  missing : Nat
  low : UInt8
  high : UInt8
  deriving DecidableEq, Repr

/-- What the first byte of a character tells. -/
inductive Lead
  | scalar (c : Char)
  | sequence (pending : Pending)
  | invalid
  deriving DecidableEq, Repr

/-- Classify a first byte.  The bounds of the second byte exclude overlong forms, surrogates and
code points past U+10FFFF. -/
def lead (byte : UInt8) : Lead :=
  let bits (count : Nat) := byte.toNat % count
  if byte < 0x80 then .scalar (Char.ofNat byte.toNat)
  else if byte < 0xC2 then .invalid
  else if byte < 0xE0 then .sequence ⟨bits 0x20, 1, 0x80, 0xBF⟩
  else if byte = 0xE0 then .sequence ⟨bits 0x10, 2, 0xA0, 0xBF⟩
  else if byte = 0xED then .sequence ⟨bits 0x10, 2, 0x80, 0x9F⟩
  else if byte < 0xF0 then .sequence ⟨bits 0x10, 2, 0x80, 0xBF⟩
  else if byte = 0xF0 then .sequence ⟨bits 0x08, 3, 0x90, 0xBF⟩
  else if byte < 0xF4 then .sequence ⟨bits 0x08, 3, 0x80, 0xBF⟩
  else if byte = 0xF4 then .sequence ⟨bits 0x08, 3, 0x80, 0x8F⟩
  else .invalid

/-- Read a byte at the beginning of a character: what it yields, and what it leaves pending. -/
def start (byte : UInt8) : List Char × Option Pending :=
  match lead byte with
  | .scalar c => ([c], none)
  | .sequence pending => ([], some pending)
  | .invalid => ([replacement], none)

/-- Read a byte inside a character.  A byte that cannot continue it closes the part read so far
with a replacement and begins anew. -/
def proceed (pending : Pending) (byte : UInt8) : List Char × Option Pending :=
  if pending.low ≤ byte ∧ byte ≤ pending.high then
    let code := pending.code * 0x40 + byte.toNat % 0x40
    if pending.missing ≤ 1 then ([Char.ofNat code], none)
    else ([], some ⟨code, pending.missing - 1, 0x80, 0xBF⟩)
  else
    let (chars, next) := start byte
    (replacement :: chars, next)

/-- Decode bytes after a part that may still be pending. -/
def decodeFrom : Option Pending → List UInt8 → List Char
  | none, [] => []
  | some _, [] => [replacement]
  | none, byte :: rest => (start byte).1 ++ decodeFrom (start byte).2 rest
  | some pending, byte :: rest =>
    (proceed pending byte).1 ++ decodeFrom (proceed pending byte).2 rest

/-- The text of a list of bytes, with a replacement for each maximal part that is no UTF-8. -/
def decode (bytes : List UInt8) : List Char :=
  decodeFrom none bytes

/-- The number of bytes of a text. -/
def width : List Char → Nat
  | [] => 0
  | c :: text => c.utf8Size + width text

@[simp] theorem width_nil : width [] = 0 := rfl

@[simp] theorem width_cons (c : Char) (text : List Char) :
    width (c :: text) = c.utf8Size + width text := rfl

@[simp] theorem width_append (left right : List Char) :
    width (left ++ right) = width left + width right := by
  induction left with
  | nil => simp
  | cons c left ih => simp [ih, Nat.add_assoc]

end Custody.Text.Utf8
