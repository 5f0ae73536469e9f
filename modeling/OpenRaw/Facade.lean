import OpenRaw.Format

/-! # The `openraw` facade over the native binding

`openraw/__init__.py` wraps the Boost.Python module `_openraw`, which is not part of
these sources. Its enumerations and objects are modelled from the spec's engine
contract; each enumeration keeps the constants the Python code names and a constructor
`other` for every value it does not name, so that a statement over all engine behaviours
ranges over codes nobody listed. The facade itself is translated from the source.
-/

namespace OpenRaw

/-- Modelled from the spec: `openraw.Type`; `unknown` asks the engine to guess. -/
inductive RawfileType
  | unknown
  | cr2
  | other (code : Nat)
  deriving DecidableEq, Repr

/-- Modelled from the spec: `openraw.or_error`; only `OR_ERROR_NONE` means success. -/
inductive OrError
  | none
  | cantOpen
  | other (code : Nat)
  deriving DecidableEq, Repr

/-- Modelled from the spec: the pixel encodings of `openraw.DataType`. -/
inductive DataType
  | pixmap8rgb
  | jpeg
  | tiff
  | png
  | compressedCfa
  | other (code : Nat)
  deriving DecidableEq, Repr

/-- Modelled from the spec: `'%s' % data_type`, a constant's name or a bare number. -/
def DataType.name : DataType → Bytes
  | .pixmap8rgb => ascii "OR_DATA_TYPE_PIXMAP_8RGB"
  | .jpeg => ascii "OR_DATA_TYPE_JPEG"
  | .tiff => ascii "OR_DATA_TYPE_TIFF"
  | .png => ascii "OR_DATA_TYPE_PNG"
  | .compressedCfa => ascii "OR_DATA_TYPE_COMPRESSED_CFA"
  | .other code => decimal code

/-- Modelled from the spec: `or_options.OR_OPTIONS_NONE`, the empty decode bitmask. -/
def orOptionsNone : Nat := 0

namespace Native

/-- An engine bitmap: `dataType()`, `x()`, `y()`, `bpc()` and `data()`. -/
structure Bitmap where
  dataType : DataType
  x : Nat
  y : Nat
  bpc : Nat
  data : Bytes
  deriving DecidableEq, Repr

def Bitmap.size (b : Bitmap) : Nat := b.data.length

/-- An opened `_openraw.RawFile`; each extractor returns an error code and a bitmap. -/
structure RawFile where
  type : RawfileType
  getOrientation : Int
  listThumbnailSizes : List Nat
  getThumbnail : Nat → OrError × Bitmap
  getRawData : Nat → OrError × Bitmap

/-- The two factories of `_openraw.RawFile`; `none` is Python `None`. -/
structure Engine where
  newRawFile : Bytes → RawfileType → Option RawFile
  newRawFileFromMemory : Bytes → RawfileType → Option RawFile

end Native

/-- `DATATYPE_TO_MIMETYPE`; a data type that is not a key raises `KeyError`. -/
def datatypeToMimetype : DataType → Option Bytes
  | .jpeg => some (ascii "image/jpeg")
  | .tiff => some (ascii "image/tiff")
  | .png => some (ascii "image/png")
  | _ => none

/-- `openraw.Error`; `orErrorCode` is `None` when no file could be opened. -/
structure Error where
  orErrorCode : Option OrError
  deriving DecidableEq, Repr

/-- `openraw.Bitmap`, and so `Thumbnail` and `RawData`, which add nothing read here. -/
structure Bitmap where
  bitmap : Native.Bitmap
  deriving DecidableEq, Repr

def Bitmap.getDataType (self : Bitmap) : DataType := self.bitmap.dataType

def Bitmap.getSize (self : Bitmap) : Nat := self.bitmap.size

def Bitmap.getData (self : Bitmap) : Bytes := self.bitmap.data

def Bitmap.getWidth (self : Bitmap) : Nat := self.bitmap.x

def Bitmap.getHeight (self : Bitmap) : Nat := self.bitmap.y

def Bitmap.getBitsPerChannel (self : Bitmap) : Nat := self.bitmap.bpc

/-- `Bitmap.__repr__`, which is also its `__str__`. -/
def Bitmap.repr (self : Bitmap) : Bytes :=
  ascii "<Bitmap data_type=" ++ self.getDataType.name ++ ascii " size=" ++
    formatD self.getSize ++ ascii " width=" ++ formatD self.getWidth ++ ascii " height=" ++
    formatD self.getHeight ++ ascii ">"

def isNameByte (b : UInt8) : Bool := isDigit b || (65 ≤ b.toNat && b.toNat ≤ 90) || b = 95

theorem isNameByte_of_mem_name {dataType : DataType} {b : UInt8} (h : b ∈ dataType.name) :
    isNameByte b := by
  cases dataType with
  | other code => simp [isNameByte, isDigit_of_mem_decimal h]
  | _ => revert b; decide

theorem space_not_mem_name (dataType : DataType) : 32 ∉ dataType.name := fun h =>
  absurd (isNameByte_of_mem_name h) (by decide)

theorem DataType.name_injective : Function.Injective DataType.name := by
  have hdigit : ∀ code, startsWithDigit (decimal code) = true := fun code => by
    simpa using startsWithDigit_decimal_append code []
  intro d d' h
  have hstart := congrArg startsWithDigit h
  cases d <;> cases d' <;> simp only [DataType.name, hdigit] at h hstart <;>
    first
    | rfl
    | exact absurd h (by decide)
    | exact absurd hstart (by decide)
    | exact congrArg _ (by simpa only [valueOf_decimal] using congrArg valueOf h)

theorem Bitmap.repr_eq_repr_iff {b b' : Bitmap} :
    b.repr = b'.repr ↔ b.getDataType = b'.getDataType ∧ b.getSize = b'.getSize ∧
      b.getWidth = b'.getWidth ∧ b.getHeight = b'.getHeight := by
  constructor
  · intro h
    simp only [Bitmap.repr, List.append_assoc, List.append_cancel_left_eq] at h
    obtain ⟨hname, h⟩ := append_cons_cancel (space_not_mem_name _) (space_not_mem_name _) h
    obtain ⟨hsize, h⟩ := formatD_append_cancel (by rfl) (by rfl) (List.append_cancel_left h)
    obtain ⟨hwidth, h⟩ := formatD_append_cancel (by rfl) (by rfl) (List.append_cancel_left h)
    obtain ⟨hheight, -⟩ := formatD_append_cancel (by rfl) (by rfl) (List.append_cancel_left h)
    exact ⟨DataType.name_injective hname, Int.ofNat.inj hsize, Int.ofNat.inj hwidth,
      Int.ofNat.inj hheight⟩
  · rintro ⟨htype, hsize, hwidth, hheight⟩
    simp only [Bitmap.repr, htype, hsize, hwidth, hheight]

structure RawFile where
  rawfile : Native.RawFile

def RawFile.fromPath (engine : Native.Engine) (path : Bytes) (rawTypeHint : RawfileType) :
    Except Error RawFile :=
  match engine.newRawFile path rawTypeHint with
  | none => throw ⟨none⟩
  | some rawfile => pure ⟨rawfile⟩

def RawFile.fromString (engine : Native.Engine) (data : Bytes) (rawTypeHint : RawfileType) :
    Except Error RawFile :=
  match engine.newRawFileFromMemory data rawTypeHint with
  | none => throw ⟨none⟩
  | some rawfile => pure ⟨rawfile⟩

def RawFile.getType (self : RawFile) : RawfileType := self.rawfile.type

def RawFile.getOrientation (self : RawFile) : Int := self.rawfile.getOrientation

def RawFile.getThumbnailWidths (self : RawFile) : List Nat := self.rawfile.listThumbnailSizes

/-- The engine picks the closest thumbnail; a code other than `OR_ERROR_NONE` raises. -/
def RawFile.getThumbnail (self : RawFile) (requestedWidth : Nat) : Except Error Bitmap :=
  let (error, thumbnail) := self.rawfile.getThumbnail requestedWidth
  if error ≠ .none then throw ⟨some error⟩ else pure ⟨thumbnail⟩

/-- The list comprehension: every thumbnail is extracted before the list is returned. -/
def RawFile.getThumbnails (self : RawFile) : Except Error (List Bitmap) :=
  self.getThumbnailWidths.mapM self.getThumbnail

def RawFile.getRawData (self : RawFile) (options : Nat) : Except Error Bitmap :=
  let (error, rawdata) := self.rawfile.getRawData options
  if error ≠ .none then throw ⟨some error⟩ else pure ⟨rawdata⟩

/-! ## Opening and extracting -/

section Extraction

variable {engine : Native.Engine} {path : Bytes} {hint : RawfileType}

theorem fromPath_of_none (h : engine.newRawFile path hint = none) :
    RawFile.fromPath engine path hint = .error ⟨none⟩ := by
  simp [RawFile.fromPath, h, throw, throwThe, MonadExceptOf.throw]

theorem fromPath_of_some {rawfile : Native.RawFile}
    (h : engine.newRawFile path hint = some rawfile) :
    RawFile.fromPath engine path hint = .ok ⟨rawfile⟩ := by
  simp [RawFile.fromPath, h, pure, Except.pure]

variable (self : RawFile)

theorem getThumbnail_of_none {width : Nat} (h : (self.rawfile.getThumbnail width).1 = .none) :
    self.getThumbnail width = .ok ⟨(self.rawfile.getThumbnail width).2⟩ := by
  simp [RawFile.getThumbnail, h, pure, Except.pure]

theorem getThumbnail_of_ne_none {width : Nat} (h : (self.rawfile.getThumbnail width).1 ≠ .none) :
    self.getThumbnail width = .error ⟨some (self.rawfile.getThumbnail width).1⟩ := by
  simp [RawFile.getThumbnail, h, throw, throwThe, MonadExceptOf.throw]

theorem getRawData_of_none {options : Nat} (h : (self.rawfile.getRawData options).1 = .none) :
    self.getRawData options = .ok ⟨(self.rawfile.getRawData options).2⟩ := by
  simp [RawFile.getRawData, h, pure, Except.pure]

theorem getRawData_of_ne_none {options : Nat} (h : (self.rawfile.getRawData options).1 ≠ .none) :
    self.getRawData options = .error ⟨some (self.rawfile.getRawData options).1⟩ := by
  simp [RawFile.getRawData, h, throw, throwThe, MonadExceptOf.throw]

/-- `get_thumbnails` fails with the first failing width's code, else returns all thumbnails. -/
theorem getThumbnails_eq :
    self.getThumbnails =
      match self.rawfile.listThumbnailSizes.find?
          (fun width => (self.rawfile.getThumbnail width).1 != .none) with
      | some width => .error ⟨some (self.rawfile.getThumbnail width).1⟩
      | none => .ok (self.rawfile.listThumbnailSizes.map fun width =>
          ⟨(self.rawfile.getThumbnail width).2⟩) := by
  unfold RawFile.getThumbnails RawFile.getThumbnailWidths
  generalize self.rawfile.listThumbnailSizes = ws
  induction ws with
  | nil => rfl
  | cons width rest ih =>
    rw [List.mapM_cons]
    by_cases hw : (self.rawfile.getThumbnail width).1 = .none
    · rw [getThumbnail_of_none self hw, ih, List.find?_cons_of_neg rest (by simp [hw])]
      cases rest.find? _ <;> rfl
    · rw [getThumbnail_of_ne_none self hw, List.find?_cons_of_pos rest (by simpa using hw)]
      rfl

theorem getThumbnails_of_first_failure {pre post : List Nat} {width : Nat}
    (hws : self.getThumbnailWidths = pre ++ width :: post)
    (hpre : ∀ v ∈ pre, (self.rawfile.getThumbnail v).1 = .none)
    (hw : (self.rawfile.getThumbnail width).1 ≠ .none) :
    self.getThumbnails = .error ⟨some (self.rawfile.getThumbnail width).1⟩ := by
  have hfind : self.rawfile.listThumbnailSizes.find?
      (fun width => (self.rawfile.getThumbnail width).1 != .none) = some width := by
    rw [show self.rawfile.listThumbnailSizes = pre ++ width :: post from hws, List.find?_append,
      List.find?_eq_none.mpr (by simpa using hpre), List.find?_cons_of_pos post (by simpa using hw)]
    rfl
  rw [getThumbnails_eq, hfind]

end Extraction

end OpenRaw
