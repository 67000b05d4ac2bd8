import Mathlib.Data.List.Forall2
import Custody.Conversion

/-!
# Texts and their bytes

Which lists of bytes are UTF-8 is said by the Unicode standard's table of well-formed byte
sequences, apart from the encoder and the decoder.  The decoder reads the sequence of a character
as the character, whatever follows it, and the sequences of the table are those of the characters.
So encoding a text and decoding it gives the text back, and decoding bytes loses nothing exactly
when they are UTF-8.
-/

namespace Custody.Text.Utf8

section WellFormed

/-- The well-formed byte sequences of one character, each as the ranges of its bytes. -/
def sequences : List (List (UInt8 × UInt8)) := [
  [(0x00, 0x7F)],
  [(0xC2, 0xDF), (0x80, 0xBF)],
  [(0xE0, 0xE0), (0xA0, 0xBF), (0x80, 0xBF)],
  [(0xE1, 0xEC), (0x80, 0xBF), (0x80, 0xBF)],
  [(0xED, 0xED), (0x80, 0x9F), (0x80, 0xBF)],
  [(0xEE, 0xEF), (0x80, 0xBF), (0x80, 0xBF)],
  [(0xF0, 0xF0), (0x90, 0xBF), (0x80, 0xBF), (0x80, 0xBF)],
  [(0xF1, 0xF3), (0x80, 0xBF), (0x80, 0xBF), (0x80, 0xBF)],
  [(0xF4, 0xF4), (0x80, 0x8F), (0x80, 0xBF), (0x80, 0xBF)]]

/-- The bytes lie in the ranges of a row of the table. -/
def IsSequence (bytes : List UInt8) : Prop :=
  ∃ ranges ∈ sequences,
    List.Forall₂ (fun byte range => range.1 ≤ byte ∧ byte ≤ range.2) bytes ranges

/-- The bytes are UTF-8: one well-formed sequence after another. -/
def WellFormed (bytes : List UInt8) : Prop :=
  ∃ parts : List (List UInt8), bytes = parts.flatten ∧ ∀ part ∈ parts, IsSequence part

/-- A byte that can stand after the first one of a character. -/
abbrev Continues (byte : UInt8) : Prop :=
  0x80 ≤ byte.toNat ∧ byte.toNat ≤ 0xBF

/-- The rows of the table by length.  Four first bytes narrow the second one: two against overlong
forms, one against surrogates, one against code points past U+10FFFF. -/
inductive Framed : List UInt8 → Prop
  | one {a} (ascii : a.toNat ≤ 0x7F) : Framed [a]
  | two {a b} (least : 0xC2 ≤ a.toNat) (most : a.toNat ≤ 0xDF) (second : Continues b) :
      Framed [a, b]
  | three {a b c} (least : 0xE0 ≤ a.toNat) (most : a.toNat ≤ 0xEF)
      (second : Continues b) (third : Continues c)
      (shortest : a.toNat = 0xE0 → 0xA0 ≤ b.toNat) (scalar : a.toNat = 0xED → b.toNat ≤ 0x9F) :
      Framed [a, b, c]
  | four {a b c d} (least : 0xF0 ≤ a.toNat) (most : a.toNat ≤ 0xF4)
      (second : Continues b) (third : Continues c) (fourth : Continues d)
      (shortest : a.toNat = 0xF0 → 0x90 ≤ b.toNat) (bounded : a.toNat = 0xF4 → b.toNat ≤ 0x8F) :
      Framed [a, b, c, d]

theorem IsSequence.framed {bytes : List UInt8} (sequence : IsSequence bytes) : Framed bytes := by
  -- Only lists of one to four bytes are left: no row is empty or longer.
  rcases bytes with _ | ⟨a, _ | ⟨b, _ | ⟨c, _ | ⟨d, _ | ⟨e, more⟩⟩⟩⟩⟩ <;>
    simp [IsSequence, sequences, UInt8.le_iff_toNat_le] at sequence
  · exact .one sequence
  · exact .two sequence.1.1 sequence.1.2 sequence.2
  · apply Framed.three <;> omega
  · apply Framed.four <;> omega

theorem Framed.isSequence {bytes : List UInt8} (framed : Framed bytes) : IsSequence bytes := by
  cases framed <;> simp [IsSequence, sequences, UInt8.le_iff_toNat_le] <;> omega

end WellFormed

section Characters

/-- The code point that the bytes of one character spell: the bits of the first byte below its
length mark, then six bits from each other byte. -/
def codePoint : List UInt8 → Nat
  | [a] => a.toNat
  | [a, b] => a.toNat % 0x20 * 0x40 + b.toNat % 0x40
  | [a, b, c] => (a.toNat % 0x10 * 0x40 + b.toNat % 0x40) * 0x40 + c.toNat % 0x40
  | [a, b, c, d] =>
    ((a.toNat % 0x08 * 0x40 + b.toNat % 0x40) * 0x40 + c.toNat % 0x40) * 0x40 + d.toNat % 0x40
  | _ => 0

/-- The encoder writes well-formed sequences. -/
theorem framed_encodeChar (c : Char) : Framed (String.utf8EncodeChar c) := by
  have valid : c.val.toNat.isValidChar := c.valid
  simp only [String.utf8EncodeChar]
  generalize c.val.toNat = code at valid
  split
  · apply Framed.one
    simp only [UInt8.toNat_ofNat']
    omega
  split
  · apply Framed.two <;> simp only [UInt8.toNat_ofNat', Continues] <;> omega
  split
  · apply Framed.three <;> simp only [UInt8.toNat_ofNat', Continues] <;> omega
  · apply Framed.four <;> simp only [UInt8.toNat_ofNat', Continues] <;> omega

/-- The bytes that the encoder writes spell the character. -/
theorem codePoint_encodeChar (c : Char) : codePoint (String.utf8EncodeChar c) = c.toNat := by
  have valid : c.val.toNat.isValidChar := c.valid
  simp only [String.utf8EncodeChar, Char.toNat]
  generalize c.val.toNat = code at valid
  split
  · simp only [codePoint, UInt8.toNat_ofNat']
    omega
  split
  · simp only [codePoint, UInt8.toNat_ofNat']
    omega
  split
  · simp only [codePoint, UInt8.toNat_ofNat']
    omega
  · simp only [codePoint, UInt8.toNat_ofNat']
    omega

theorem Framed.isValidChar {bytes : List UInt8} (framed : Framed bytes) :
    (codePoint bytes).isValidChar := by
  cases framed <;> simp only [codePoint] <;> omega

/-- The encoder writes a character as the sequence that spells its code point. -/
theorem Framed.encodeChar_eq {bytes : List UInt8} {c : Char} (framed : Framed bytes)
    (spelled : codePoint bytes = c.toNat) : String.utf8EncodeChar c = bytes := by
  simp only [String.utf8EncodeChar]
  rw [Char.toNat] at spelled
  generalize c.val.toNat = code at spelled
  cases framed with
  | one ascii =>
    simp only [codePoint] at spelled
    rw [if_pos (by omega), ← spelled, UInt8.ofNat_toNat]
  | @two a b least most second =>
    simp only [codePoint] at spelled
    have first : code / 0x40 % 0x20 + 0xC0 = a.toNat := by omega
    have last : code % 0x40 + 0x80 = b.toNat := by omega
    rw [if_neg (by omega), if_pos (by omega), first, last]
    simp only [UInt8.ofNat_toNat]
  | @three a b c least most second third shortest scalar =>
    simp only [codePoint] at spelled
    have first : code / 0x1000 % 0x10 + 0xE0 = a.toNat := by omega
    have middle : code / 0x40 % 0x40 + 0x80 = b.toNat := by omega
    have last : code % 0x40 + 0x80 = c.toNat := by omega
    rw [if_neg (by omega), if_neg (by omega), if_pos (by omega), first, middle, last]
    simp only [UInt8.ofNat_toNat]
  | @four a b c d least most second third fourth shortest bounded =>
    simp only [codePoint] at spelled
    have first : code / 0x40000 % 0x08 + 0xF0 = a.toNat := by omega
    have middle : code / 0x1000 % 0x40 + 0x80 = b.toNat := by omega
    have later : code / 0x40 % 0x40 + 0x80 = c.toNat := by omega
    have last : code % 0x40 + 0x80 = d.toNat := by omega
    rw [if_neg (by omega), if_neg (by omega), if_neg (by omega), first, middle, later, last]
    simp only [UInt8.ofNat_toNat]

end Characters

section Reading

variable {byte low high : UInt8}

theorem lead_ascii (ascii : byte ≤ 0x7F) : lead byte = .scalar (Char.ofNat byte.toNat) := by
  grind [lead]

theorem lead_two (least : 0xC2 ≤ byte) (most : byte ≤ 0xDF) :
    lead byte = .sequence ⟨byte.toNat % 0x20, 1, 0x80, 0xBF⟩ := by
  grind [lead]

theorem lead_three (least : 0xE0 ≤ byte) (most : byte ≤ 0xEF) :
    lead byte = .sequence ⟨byte.toNat % 0x10, 2,
      if byte = 0xE0 then 0xA0 else 0x80, if byte = 0xED then 0x9F else 0xBF⟩ := by
  grind [lead]

theorem lead_four (least : 0xF0 ≤ byte) (most : byte ≤ 0xF4) :
    lead byte = .sequence ⟨byte.toNat % 0x08, 3,
      if byte = 0xF0 then 0x90 else 0x80, if byte = 0xF4 then 0x8F else 0xBF⟩ := by
  grind [lead]

variable (rest : List UInt8)

theorem decodeFrom_sequence {pending : Pending} (found : lead byte = .sequence pending) :
    decodeFrom none (byte :: rest) = decodeFrom (some pending) rest := by
  simp [decodeFrom, start, found]

theorem decodeFrom_inside {code missing : Nat} (within : low ≤ byte ∧ byte ≤ high) :
    decodeFrom (some ⟨code, missing + 2, low, high⟩) (byte :: rest) =
      decodeFrom (some ⟨code * 0x40 + byte.toNat % 0x40, missing + 1, 0x80, 0xBF⟩) rest := by
  simp [decodeFrom, proceed, within]

theorem decodeFrom_last {code : Nat} (within : low ≤ byte ∧ byte ≤ high) :
    decodeFrom (some ⟨code, 1, low, high⟩) (byte :: rest) =
      Char.ofNat (code * 0x40 + byte.toNat % 0x40) :: decodeFrom none rest := by
  simp [decodeFrom, proceed, within]

theorem Continues.within (continues : Continues byte) : 0x80 ≤ byte ∧ byte ≤ 0xBF :=
  ⟨UInt8.le_iff_toNat_le.mpr continues.1, UInt8.le_iff_toNat_le.mpr continues.2⟩

/-- A second byte lies in the bounds that its first byte sets. -/
theorem Continues.narrowed {first narrowsLow narrowsHigh : UInt8} (continues : Continues byte)
    (least : first.toNat = narrowsLow.toNat → low.toNat ≤ byte.toNat)
    (most : first.toNat = narrowsHigh.toNat → byte.toNat ≤ high.toNat) :
    (if first = narrowsLow then low else 0x80) ≤ byte ∧
      byte ≤ if first = narrowsHigh then high else 0xBF := by
  constructor
  · split
    case isTrue same => exact UInt8.le_iff_toNat_le.mpr (least (congrArg UInt8.toNat same))
    case isFalse => exact continues.within.1
  · split
    case isTrue same => exact UInt8.le_iff_toNat_le.mpr (most (congrArg UInt8.toNat same))
    case isFalse => exact continues.within.2

/-- The decoder reads a sequence as the character it spells, whatever follows. -/
theorem Framed.decodeFrom_append {bytes : List UInt8} (framed : Framed bytes) :
    decodeFrom none (bytes ++ rest) = Char.ofNat (codePoint bytes) :: decodeFrom none rest := by
  cases framed with
  | one ascii =>
    have found := lead_ascii (UInt8.le_iff_toNat_le.mpr ascii)
    simp [decodeFrom, start, found, codePoint]
  | two least most second =>
    have found := lead_two (UInt8.le_iff_toNat_le.mpr least) (UInt8.le_iff_toNat_le.mpr most)
    calc _ = _ := decodeFrom_sequence _ found
      _ = _ := decodeFrom_last _ second.within
  | three least most second third shortest scalar =>
    have found := lead_three (UInt8.le_iff_toNat_le.mpr least) (UInt8.le_iff_toNat_le.mpr most)
    calc _ = _ := decodeFrom_sequence _ found
      _ = _ := decodeFrom_inside _ (second.narrowed shortest scalar)
      _ = _ := decodeFrom_last _ third.within
  | four least most second third fourth shortest bounded =>
    have found := lead_four (UInt8.le_iff_toNat_le.mpr least) (UInt8.le_iff_toNat_le.mpr most)
    calc _ = _ := decodeFrom_sequence _ found
      _ = _ := decodeFrom_inside _ (second.narrowed shortest bounded)
      _ = _ := decodeFrom_inside _ third.within
      _ = _ := decodeFrom_last _ fourth.within

end Reading

section Laws

/-- Decoding gives back the text that was encoded. -/
theorem decode_encode (text : List Char) : decode (encode text) = text := by
  induction text with
  | nil => rfl
  | cons c text ih =>
    calc decodeFrom none (String.utf8EncodeChar c ++ encode text)
        = Char.ofNat (codePoint (String.utf8EncodeChar c)) :: decode (encode text) :=
          (framed_encodeChar c).decodeFrom_append _
      _ = c :: text := by rw [codePoint_encodeChar, Char.ofNat_toNat, ih]

/-- Every well-formed sequence is the encoding of a character. -/
theorem IsSequence.exists_char {bytes : List UInt8} (sequence : IsSequence bytes) :
    ∃ c, String.utf8EncodeChar c = bytes := by
  refine ⟨Char.ofNat (codePoint bytes), sequence.framed.encodeChar_eq ?_⟩
  rw [Char.ofNat, dif_pos sequence.framed.isValidChar]
  rfl

/-- UTF-8 is what the encoder writes. -/
theorem wellFormed_iff {bytes : List UInt8} : WellFormed bytes ↔ ∃ text, encode text = bytes := by
  constructor
  · rintro ⟨parts, rfl, sequences⟩
    induction parts with
    | nil => exact ⟨[], rfl⟩
    | cons part parts ih =>
      obtain ⟨c, first⟩ := (sequences part List.mem_cons_self).exists_char
      obtain ⟨text, others⟩ := ih fun part later => sequences part (List.mem_cons_of_mem _ later)
      refine ⟨c :: text, ?_⟩
      rw [List.flatten_cons, ← first, ← others]
      rfl
  · rintro ⟨text, rfl⟩
    refine ⟨text.map String.utf8EncodeChar, List.flatMap_def, ?_⟩
    intro part member
    obtain ⟨c, -, rfl⟩ := List.mem_map.mp member
    exact (framed_encodeChar c).isSequence

/-- Decoding loses nothing exactly when the bytes are UTF-8. -/
theorem encode_decode_iff {bytes : List UInt8} :
    encode (decode bytes) = bytes ↔ WellFormed bytes := by
  rw [wellFormed_iff]
  constructor
  · intro same
    exact ⟨decode bytes, same⟩
  · rintro ⟨text, rfl⟩
    rw [decode_encode]

-- Three bytes that would spell a surrogate are three parts that begin no character.
example : decode [0xED, 0xA0, 0x80] = [replacement, replacement, replacement] := by decide

end Laws

end Custody.Text.Utf8

namespace Custody.Value

theorem convert_encode (text : String) :
    (string text).convert .encode .bytes = .ok (some (.bytes (Text.Utf8.encode text.toList))) := rfl

theorem convert_decode (bytes : List UInt8) : (Value.bytes bytes).convert .decode .string =
    .ok (some (.string (String.ofList (Text.Utf8.decode bytes)))) := rfl

/-- A text survives being encoded and decoded.  Bytes survive being decoded and encoded exactly when
they are UTF-8, and the text they are decoded to survives always. -/
theorem encode_decode_inverse :
    (∀ text, ∃ bytes, (string text).convert .encode .bytes = .ok (some (.bytes bytes)) ∧
      (Value.bytes bytes).convert .decode .string = .ok (some (.string text))) ∧
    ∀ bytes, ∃ text, (Value.bytes bytes).convert .decode .string = .ok (some (.string text)) ∧
      ((string text).convert .encode .bytes = .ok (some (.bytes bytes)) ↔
        Text.Utf8.WellFormed bytes) ∧
      ∃ rewritten, (string text).convert .encode .bytes = .ok (some (.bytes rewritten)) ∧
        (Value.bytes rewritten).convert .decode .string = .ok (some (.string text)) := by
  have back (text : String) : (Value.bytes (Text.Utf8.encode text.toList)).convert .decode .string =
      .ok (some (.string text)) := by
    rw [convert_decode, Text.Utf8.decode_encode, String.ofList_toList]
  refine ⟨fun text => ⟨_, convert_encode text, back text⟩, ?_⟩
  intro bytes
  refine ⟨_, convert_decode bytes, ?_, _, convert_encode _, back _⟩
  rw [convert_encode, String.toList_ofList, ← Text.Utf8.encode_decode_iff]
  simp

end Custody.Value
