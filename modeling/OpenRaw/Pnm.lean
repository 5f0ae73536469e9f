import OpenRaw.Facade

/-! # The portable containers and their header grammar

`write_rgb8pixmap_to_stream` (demo/thumb.py) writes a packed-RGB pixmap with magic
`P6` and maximum sample value 255; `extract_raw_image` (demo/cfa.py) writes a
single-channel graymap with magic `P5` and maximum `2 ^ bpc - 1`. `parsePnm` reads the
header grammar both share, independently of either writer: a magic line, two decimal
numbers separated by a space and ended by a newline, one decimal number ended by a
newline, then the payload. Reading a written container gives its fields back, however
the payload begins, so both encoders are injective.
-/

namespace OpenRaw

/-! ## The encoders -/

/-- `write_rgb8pixmap_to_stream`: every `stream.write` appends to the stream. -/
def writeRgb8pixmapToStream (bitmap : Bitmap) (stream : Bytes) : Bytes :=
  stream ++ ascii "P6\n" ++
    (formatD bitmap.getWidth ++ ascii " " ++ formatD bitmap.getHeight ++ ascii "\n") ++
    ascii "255\n" ++ bitmap.getData

/-- The `f.write` calls of `extract_raw_image`, from `'P5\n'` to the sample data. -/
def writeRawDataToFile (rawData : Bitmap) (f : Bytes) : Bytes :=
  let colorsPerChannel : Nat := 2 ^ rawData.getBitsPerChannel - 1
  f ++ ascii "P5\n" ++
    (formatD rawData.getWidth ++ ascii " " ++ formatD rawData.getHeight ++ ascii "\n") ++
    (formatD colorsPerChannel ++ ascii "\n") ++ rawData.getData

theorem writeRgb8pixmapToStream_append (bitmap : Bitmap) (stream : Bytes) :
    writeRgb8pixmapToStream bitmap stream = stream ++ writeRgb8pixmapToStream bitmap [] := by
  simp [writeRgb8pixmapToStream]

theorem writeRawDataToFile_append (rawData : Bitmap) (f : Bytes) :
    writeRawDataToFile rawData f = f ++ writeRawDataToFile rawData [] := by
  simp [writeRawDataToFile]

/-! ## The header grammar -/

/-- A container as the header grammar reads it. -/
structure Pnm where
  magic : Bytes
  width : Nat
  height : Nat
  maxval : Nat
  payload : Bytes
  deriving DecidableEq, Repr

def expectByte (c : UInt8) : Bytes → Option Bytes
  | b :: rest => if b = c then some rest else none
  | [] => none

/-- Everything after the last header newline is payload, whatever its first bytes are. -/
def parsePnm (bytes : Bytes) : Option Pnm := do
  let magic := bytes.takeWhile (· ≠ 10)
  let rest ← expectByte 10 (bytes.dropWhile (· ≠ 10))
  let (width, rest) ← readDecimal rest
  let rest ← expectByte 32 rest
  let (height, rest) ← readDecimal rest
  let rest ← expectByte 10 rest
  let (maxval, rest) ← readDecimal rest
  let payload ← expectByte 10 rest
  pure ⟨magic, width, height, maxval, payload⟩

@[simp] theorem expectByte_cons_self (c : UInt8) (rest : Bytes) :
    expectByte c (c :: rest) = some rest := by
  simp [expectByte]

/-- The header a writer produces, with its newline-free magic line. -/
def header (magic : Bytes) (width height maxval : Nat) (payload : Bytes) : Bytes :=
  magic ++ 10 :: (decimal width ++ 32 :: (decimal height ++ 10 ::
    (decimal maxval ++ 10 :: payload)))

theorem parsePnm_header {magic : Bytes} (hmagic : ∀ b ∈ magic, b ≠ 10)
    (width height maxval : Nat) (payload : Bytes) :
    parsePnm (header magic width height maxval payload) =
      some ⟨magic, width, height, maxval, payload⟩ := by
  have hpos : ∀ b ∈ magic, decide (b ≠ 10) = true := fun b hb => decide_eq_true (hmagic b hb)
  have hsep : ∀ (c : UInt8) (rest : Bytes), c.toNat < 48 →
      startsWithDigit (c :: rest) = false :=
    fun c rest hc => by simp [startsWithDigit, isDigit]; omega
  simp only [parsePnm, header, List.takeWhile_append_of_pos hpos,
    List.dropWhile_append_of_pos hpos]
  simp [readDecimal_decimal_append _ (hsep 32 _ (by decide)),
    readDecimal_decimal_append _ (hsep 10 _ (by decide))]

/-! ## Both encoders read back -/

private theorem ascii_P6 : ascii "P6\n" = ascii "P6" ++ [10] := rfl

private theorem ascii_P5 : ascii "P5\n" = ascii "P5" ++ [10] := rfl

private theorem ascii_255 : ascii "255\n" = decimal 255 ++ [10] := by
  simp [decimal]
  decide

@[simp] theorem formatD_natCast (n : Nat) : formatD n = decimal n := rfl

theorem writeRgb8pixmapToStream_eq_header (bitmap : Bitmap) :
    writeRgb8pixmapToStream bitmap [] =
      header (ascii "P6") bitmap.getWidth bitmap.getHeight 255 bitmap.getData := by
  simp only [writeRgb8pixmapToStream, header, ascii_P6, ascii_255, formatD_natCast,
    List.append_assoc, List.nil_append]
  rfl

theorem writeRawDataToFile_eq_header (rawData : Bitmap) :
    writeRawDataToFile rawData [] =
      header (ascii "P5") rawData.getWidth rawData.getHeight
        (2 ^ rawData.getBitsPerChannel - 1) rawData.getData := by
  simp only [writeRawDataToFile, header, ascii_P5, formatD_natCast, List.append_assoc,
    List.nil_append]
  rfl

theorem parsePnm_writeRgb8pixmapToStream (bitmap : Bitmap) :
    parsePnm (writeRgb8pixmapToStream bitmap []) =
      some ⟨ascii "P6", bitmap.getWidth, bitmap.getHeight, 255, bitmap.getData⟩ := by
  rw [writeRgb8pixmapToStream_eq_header, parsePnm_header (by decide)]

theorem parsePnm_writeRawDataToFile (rawData : Bitmap) :
    parsePnm (writeRawDataToFile rawData []) =
      some ⟨ascii "P5", rawData.getWidth, rawData.getHeight,
        2 ^ rawData.getBitsPerChannel - 1, rawData.getData⟩ := by
  rw [writeRawDataToFile_eq_header, parsePnm_header (by decide)]

theorem colorsPerChannel_injective {a b : Nat} (h : 2 ^ a - 1 = 2 ^ b - 1) : a = b := by
  have ha := Nat.one_le_two_pow (n := a)
  have hb := Nat.one_le_two_pow (n := b)
  exact Nat.pow_right_injective (le_refl 2) (show 2 ^ a = 2 ^ b by omega)

theorem writeRgb8pixmapToStream_fields {b c : Bitmap}
    (h : writeRgb8pixmapToStream b [] = writeRgb8pixmapToStream c []) :
    b.getWidth = c.getWidth ∧ b.getHeight = c.getHeight ∧ b.getData = c.getData := by
  have hb := parsePnm_writeRgb8pixmapToStream b
  rw [h, parsePnm_writeRgb8pixmapToStream c, Option.some.injEq, Pnm.mk.injEq] at hb
  exact ⟨hb.2.1.symm, hb.2.2.1.symm, hb.2.2.2.2.symm⟩

theorem writeRawDataToFile_fields {b c : Bitmap}
    (h : writeRawDataToFile b [] = writeRawDataToFile c []) :
    b.getWidth = c.getWidth ∧ b.getHeight = c.getHeight ∧ b.getData = c.getData ∧
      b.getBitsPerChannel = c.getBitsPerChannel := by
  have hb := parsePnm_writeRawDataToFile b
  rw [h, parsePnm_writeRawDataToFile c, Option.some.injEq, Pnm.mk.injEq] at hb
  exact ⟨hb.2.1.symm, hb.2.2.1.symm, hb.2.2.2.2.symm,
    colorsPerChannel_injective hb.2.2.2.1.symm⟩

theorem pnm_containers_uniquely_decodable :
    (∀ bitmap : Bitmap, parsePnm (writeRgb8pixmapToStream bitmap []) =
        some ⟨ascii "P6", bitmap.getWidth, bitmap.getHeight, 255, bitmap.getData⟩) ∧
    (∀ rawData : Bitmap, parsePnm (writeRawDataToFile rawData []) =
        some ⟨ascii "P5", rawData.getWidth, rawData.getHeight,
          2 ^ rawData.getBitsPerChannel - 1, rawData.getData⟩) ∧
    (∀ b c : Bitmap, writeRgb8pixmapToStream b [] = writeRgb8pixmapToStream c [] →
        b.getWidth = c.getWidth ∧ b.getHeight = c.getHeight ∧ b.getData = c.getData) ∧
    (∀ b c : Bitmap, writeRawDataToFile b [] = writeRawDataToFile c [] →
        b.getWidth = c.getWidth ∧ b.getHeight = c.getHeight ∧ b.getData = c.getData ∧
          b.getBitsPerChannel = c.getBitsPerChannel) :=
  ⟨parsePnm_writeRgb8pixmapToStream, parsePnm_writeRawDataToFile,
    fun _ _ => writeRgb8pixmapToStream_fields, fun _ _ => writeRawDataToFile_fields⟩

/-- The spec's 160 by 120 thumbnail and 14-bit raw export of `duck.cr2`, with payloads that
look like headers; swapped digits or another bit depth change the container. -/
theorem duck_containers_decode :
    writeRgb8pixmapToStream ⟨⟨.pixmap8rgb, 160, 120, 8, ascii "P6\n9 9\n"⟩⟩ [] =
        ascii "P6\n160 120\n255\nP6\n9 9\n" ∧
      parsePnm
          (writeRgb8pixmapToStream ⟨⟨.pixmap8rgb, 160, 120, 8, ascii "P6\n9 9\n"⟩⟩ []) =
        some ⟨ascii "P6", 160, 120, 255, ascii "P6\n9 9\n"⟩ ∧
      parsePnm
          (writeRawDataToFile ⟨⟨.compressedCfa, 3944, 2622, 14, ascii "P5\n9 9\n"⟩⟩ []) =
        some ⟨ascii "P5", 3944, 2622, 16383, ascii "P5\n9 9\n"⟩ ∧
      writeRgb8pixmapToStream ⟨⟨.pixmap8rgb, 12, 3, 8, []⟩⟩ [] ≠
        writeRgb8pixmapToStream ⟨⟨.pixmap8rgb, 1, 23, 8, []⟩⟩ [] ∧
      writeRawDataToFile ⟨⟨.compressedCfa, 2, 2, 8, []⟩⟩ [] ≠
        writeRawDataToFile ⟨⟨.compressedCfa, 2, 2, 9, []⟩⟩ [] :=
  ⟨by
    simp [writeRgb8pixmapToStream_eq_header, header, decimal, Bitmap.getWidth, Bitmap.getHeight,
      Bitmap.getData]
    decide,
    pnm_containers_uniquely_decodable.1 _, pnm_containers_uniquely_decodable.2.1 _,
    fun h => absurd (pnm_containers_uniquely_decodable.2.2.1 _ _ h).1 (by decide),
    fun h => absurd (pnm_containers_uniquely_decodable.2.2.2 _ _ h).2.2.2 (by decide)⟩

end OpenRaw
