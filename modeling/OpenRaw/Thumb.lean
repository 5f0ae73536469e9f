import OpenRaw.Pnm
import OpenRaw.Script

/-! # `demo/thumb.py`: extracting every thumbnail

`extract_thumbnails` opens a raw file, materialises all of its thumbnails through
`get_thumbnails`, and only then loops: a packed-RGB pixmap is written as `P6`, a JPEG,
TIFF or PNG thumbnail is written unchanged under the extension `mimetypes` guesses, and
any other encoding is reported on `stderr` and skipped. Because the list is complete
before the loop starts, an engine failure leaves nothing behind; because each name keeps
its fields apart, two thumbnails share a file name only when they share width, height
and extension. What one input should produce is written from the spec
(`expectedExtraction`, `exportedThumbnail`, `thumbnailsOutcome`), and `extract_thumbnails`
performs it through the file system. `main` runs it on each file named on the command
line, in order, and nothing catches its `Error` or an `IOError`: a run is the batch of the
files' outcomes up to the first that fails, cut at its first failed write.
-/

namespace OpenRaw

/-- `'%s-%dx%d%s' % (thumbnail_base_name, width, height, extension)`. -/
def thumbnailName (thumbnailBaseName : Bytes) (width height : Int) (extension : Option Bytes) :
    Bytes :=
  thumbnailBaseName ++ ascii "-" ++ formatD width ++ ascii "x" ++ formatD height ++
    formatS extension

def thumbnailPath (env : Env) (destinationPath thumbnailBaseName : Bytes) (thumbnail : Bitmap)
    (extension : Option Bytes) : Bytes :=
  env.abspath (env.join destinationPath
    (thumbnailName thumbnailBaseName thumbnail.getWidth thumbnail.getHeight extension))

/-- The text printed for a thumbnail whose data type has no MIME type. -/
def cannotExtractMessage (dataType : DataType) (rawfilePath : Bytes) (width height : Int) :
    Bytes :=
  ascii "Cannot extract thumbnail of type \"" ++ dataType.name ++ ascii "\" from " ++
    reprStr rawfilePath ++ ascii " (" ++ formatD width ++ ascii "x" ++ formatD height ++
    ascii ") "

/-- The tail of the loop body, once `extension` and `data` are set. -/
def saveThumbnail (env : Env) (destinationPath : Bytes) (openInBrowser : Bool)
    (thumbnailBaseName : Bytes) (thumbnail : Bitmap) (extension : Option Bytes) (data : Bytes) :
    Script Unit := do
  let path := thumbnailPath env destinationPath thumbnailBaseName thumbnail extension
  writeToFile env path data
  if openInBrowser then emit (.openNewTab path)

/-- One pass of the loop; the `KeyError` handler's `continue` ends the pass. -/
def extractThumbnail (env : Env) (rawfilePath destinationPath : Bytes) (openInBrowser : Bool)
    (thumbnailBaseName : Bytes) (thumbnail : Bitmap) : Script Unit :=
  let save := saveThumbnail env destinationPath openInBrowser thumbnailBaseName thumbnail
  if thumbnail.getDataType = .pixmap8rgb then
    save (some (ascii ".ppm")) (writeRgb8pixmapToStream thumbnail [])
  else
    match datatypeToMimetype thumbnail.getDataType with
    | none => emit (.stderr (cannotExtractMessage thumbnail.getDataType rawfilePath
        thumbnail.getWidth thumbnail.getHeight ++ ascii "\n"))
    | some mimeType => save (env.guessExtension mimeType) thumbnail.getData

def extractThumbnails (env : Env) (rawfilePath destinationPath : Bytes) (openInBrowser : Bool) :
    Script Unit := do
  let rawFile ← liftExcept (RawFile.fromPath env.engine rawfilePath .unknown)
  let thumbnailBaseName := (env.splitext (env.basename rawfilePath)).1
  let thumbnails ← liftExcept rawFile.getThumbnails
  thumbnails.forM (extractThumbnail env rawfilePath destinationPath openInBrowser thumbnailBaseName)

/-! ## Names -/

theorem dimensions_append_cancel {width height width' height' : Int} {s s' : Bytes}
    (hs : startsWithDigit s = false) (hs' : startsWithDigit s' = false)
    (h : formatD width ++ (ascii "x" ++ (formatD height ++ s)) =
      formatD width' ++ (ascii "x" ++ (formatD height' ++ s'))) :
    width = width' ∧ height = height' ∧ s = s' := by
  have hx : ∀ s, startsWithDigit (ascii "x" ++ s) = false := fun _ => rfl
  obtain ⟨rfl, hrest⟩ := formatD_append_cancel (hx _) (hx _) h
  obtain ⟨rfl, hsuffix⟩ := formatD_append_cancel hs hs' (List.append_cancel_left hrest)
  exact ⟨rfl, rfl, hsuffix⟩

theorem thumbnailName_injective {thumbnailBaseName : Bytes} {width height width' height' : Int}
    {extension extension' : Option Bytes}
    (hext : startsWithDigit (formatS extension) = false)
    (hext' : startsWithDigit (formatS extension') = false)
    (h : thumbnailName thumbnailBaseName width height extension =
      thumbnailName thumbnailBaseName width' height' extension') :
    width = width' ∧ height = height' ∧ formatS extension = formatS extension' := by
  simp only [thumbnailName, List.append_assoc, List.append_cancel_left_eq] at h
  exact dimensions_append_cancel hext hext' h

/-- `None` and the string `None` print alike, so the names only tell printed extensions
apart. -/
theorem duck_thumbnail_names_of_none :
    (160 : Int) = 160 ∧ (120 : Int) = 120 ∧ formatS none = formatS (some (ascii "None")) :=
  @thumbnailName_injective (ascii "duck") 160 120 160 120 none (some (ascii "None"))
    (by decide) (by decide) rfl

/-! ## The export the spec describes -/

/-- What the contract promises for one thumbnail: a file, or a diagnostic. -/
inductive Extracted
  | file (contents : Bytes)
  | diagnostic
  deriving DecidableEq, Repr

/-- The effects the contract speaks of; browser tabs are not among them. -/
def Effect.extracted : Effect → Option Extracted
  | .writeFile _ contents => some (.file contents)
  | .stderr _ => some .diagnostic
  | .openNew _ | .openNewTab _ => none

def Effect.written : Effect → Option (Bytes × Bytes)
  | .writeFile path contents => some (path, contents)
  | _ => none

theorem mem_filterMap_written {effects : List Effect} {path contents : Bytes}
    (h : .writeFile path contents ∈ effects) :
    (path, contents) ∈ effects.filterMap Effect.written :=
  List.mem_filterMap.mpr ⟨_, h, rfl⟩

/-- A diagnostic is one line: its only newline ends it. -/
def Effect.OneLine : Effect → Prop
  | .stderr text => ∃ line, text = line ++ [10] ∧ 10 ∉ line
  | _ => True

def expectedExtraction (thumbnail : Bitmap) : Extracted :=
  match thumbnail.bitmap.dataType with
  | .pixmap8rgb => .file (header (ascii "P6") thumbnail.bitmap.x thumbnail.bitmap.y 255
      thumbnail.bitmap.data)
  | .jpeg | .tiff | .png => .file thumbnail.bitmap.data
  | .compressedCfa | .other _ => .diagnostic

def exportSuffix (env : Env) : DataType → Option Bytes
  | .pixmap8rgb => some (ascii ".ppm")
  | .jpeg => some (formatS (env.guessExtension (ascii "image/jpeg")))
  | .tiff => some (formatS (env.guessExtension (ascii "image/tiff")))
  | .png => some (formatS (env.guessExtension (ascii "image/png")))
  | .compressedCfa | .other _ => none

/-- The file `<basename>-<width>x<height><suffix>` in the destination, with its contents. -/
def exportedThumbnail (env : Env) (destinationPath thumbnailBaseName : Bytes)
    (thumbnail : Bitmap) : Option (Bytes × Bytes) :=
  match expectedExtraction thumbnail with
  | .file contents => (exportSuffix env thumbnail.bitmap.dataType).map fun suffix =>
    (env.abspath (env.join destinationPath (thumbnailBaseName ++ ascii "-" ++
      decimal thumbnail.bitmap.x ++ ascii "x" ++ decimal thumbnail.bitmap.y ++ suffix)),
      contents)
  | .diagnostic => none

/-- What one pass makes of a thumbnail: its file and browser tab, or its diagnostic. -/
def thumbnailEffects (env : Env) (rawfilePath destinationPath : Bytes) (openInBrowser : Bool)
    (thumbnailBaseName : Bytes) (thumbnail : Bitmap) : List Effect :=
  match exportedThumbnail env destinationPath thumbnailBaseName thumbnail with
  | some (path, contents) =>
    .writeFile path contents :: if openInBrowser then [.openNewTab path] else []
  | none => [.stderr (cannotExtractMessage thumbnail.getDataType rawfilePath
      thumbnail.getWidth thumbnail.getHeight ++ ascii "\n")]

/-- One input, read off the engine: the first failing width's `Error`, or every pass. -/
def thumbnailsOutcome (env : Env) (destinationPath : Bytes) (openInBrowser : Bool)
    (rawfilePath : Bytes) : Except Error (List Effect) :=
  match env.engine.newRawFile rawfilePath .unknown with
  | none => .error ⟨none⟩
  | some rawfile =>
    match rawfile.listThumbnailSizes.find? (fun width => (rawfile.getThumbnail width).1 != .none)
    with
    | some width => .error ⟨some (rawfile.getThumbnail width).1⟩
    | none => .ok (rawfile.listThumbnailSizes.map fun width =>
        thumbnailEffects env rawfilePath destinationPath openInBrowser
          (env.splitext (env.basename rawfilePath)).1 ⟨(rawfile.getThumbnail width).2⟩).flatten

theorem newline_not_mem_name (dataType : DataType) : 10 ∉ dataType.name := by
  cases dataType with
  | other code => exact newline_not_mem_decimal code
  | _ => decide

/-- `%r` keeps even a path holding a newline on one line. -/
theorem newline_not_mem_cannotExtractMessage (dataType : DataType) (rawfilePath : Bytes)
    (width height : Int) : 10 ∉ cannotExtractMessage dataType rawfilePath width height := by
  simp only [cannotExtractMessage, List.mem_append, newline_not_mem_name,
    newline_not_mem_reprStr, newline_not_mem_formatD, or_false, false_or]
  decide

theorem cannotExtractMessage_eq_iff {dataType dataType' : DataType}
    {rawfilePath rawfilePath' : Bytes} {width height width' height' : Int} :
    cannotExtractMessage dataType rawfilePath width height =
        cannotExtractMessage dataType' rawfilePath' width' height' ↔
      dataType = dataType' ∧ rawfilePath = rawfilePath' ∧ width = width' ∧
        height = height' := by
  have hquote : ∀ dataType : DataType, 34 ∉ dataType.name := fun _ h =>
    absurd (isNameByte_of_mem_name h) (by decide)
  refine ⟨fun h => ?_, by rintro ⟨rfl, rfl, rfl, rfl⟩; rfl⟩
  simp only [cannotExtractMessage, List.append_assoc, List.append_cancel_left_eq] at h
  obtain ⟨hname, h⟩ := append_cons_cancel (hquote _) (hquote _) h
  obtain ⟨hpath, h⟩ := reprStr_append_cancel (List.append_cancel_left h)
  obtain ⟨hwidth, hheight, -⟩ :=
    dimensions_append_cancel (by rfl) (by rfl) (List.append_cancel_left h)
  exact ⟨DataType.name_injective hname, hpath, hwidth, hheight⟩

/-! ## One pass of the loop -/

section Pass

variable {env : Env} {rawfilePath destinationPath : Bytes} {openInBrowser : Bool}
  {thumbnailBaseName : Bytes} {thumbnail : Bitmap}

theorem saveThumbnail_eq_perform (extension : Option Bytes) (data : Bytes) :
    saveThumbnail env destinationPath openInBrowser thumbnailBaseName thumbnail extension data =
      perform env (.writeFile (thumbnailPath env destinationPath thumbnailBaseName thumbnail
          extension) data ::
        if openInBrowser then
          [.openNewTab (thumbnailPath env destinationPath thumbnailBaseName thumbnail extension)]
        else [], none) :=
  writeToFile_then_eq_perform _ _ (.openNewTab _) rfl openInBrowser

theorem extractThumbnail_eq_perform :
    extractThumbnail env rawfilePath destinationPath openInBrowser thumbnailBaseName thumbnail =
      perform env (thumbnailEffects env rawfilePath destinationPath openInBrowser
        thumbnailBaseName thumbnail, none) := by
  obtain ⟨⟨dataType, x, y, bpc, data⟩⟩ := thumbnail
  cases dataType
  case pixmap8rgb =>
    refine (saveThumbnail_eq_perform _ _).trans ?_
    rw [writeRgb8pixmapToStream_eq_header]
    rfl
  case compressedCfa | other => exact emit_eq_perform rfl
  all_goals exact saveThumbnail_eq_perform _ _

theorem thumbnailEffects_extracted :
    (thumbnailEffects env rawfilePath destinationPath openInBrowser thumbnailBaseName
      thumbnail).filterMap Effect.extracted = [expectedExtraction thumbnail] := by
  obtain ⟨⟨dataType, x, y, bpc, data⟩⟩ := thumbnail
  cases dataType <;> cases openInBrowser <;> rfl

theorem thumbnailEffects_written :
    (thumbnailEffects env rawfilePath destinationPath openInBrowser thumbnailBaseName
      thumbnail).filterMap Effect.written =
      (exportedThumbnail env destinationPath thumbnailBaseName thumbnail).toList := by
  obtain ⟨⟨dataType, x, y, bpc, data⟩⟩ := thumbnail
  cases dataType <;> cases openInBrowser <;> rfl

theorem thumbnailPasses_extracted (widths : List Nat) (thumbnailOf : Nat → Bitmap) :
    (widths.map fun width => thumbnailEffects env rawfilePath destinationPath openInBrowser
      thumbnailBaseName (thumbnailOf width)).flatten.filterMap Effect.extracted =
      widths.map fun width => expectedExtraction (thumbnailOf width) := by
  rw [List.filterMap_flatten, List.map_map]
  simp only [Function.comp_def, thumbnailEffects_extracted]
  exact (List.map_eq_flatMap _ _).symm

theorem thumbnailPasses_written (widths : List Nat) (thumbnailOf : Nat → Bitmap) :
    (widths.map fun width => thumbnailEffects env rawfilePath destinationPath openInBrowser
      thumbnailBaseName (thumbnailOf width)).flatten.filterMap Effect.written =
      widths.filterMap fun width =>
        exportedThumbnail env destinationPath thumbnailBaseName (thumbnailOf width) := by
  rw [List.filterMap_flatten, List.map_map, List.filterMap_eq_flatMap_toList]
  simp only [Function.comp_def, thumbnailEffects_written]
  rfl

theorem thumbnailEffects_output :
    OpensWritten (thumbnailEffects env rawfilePath destinationPath openInBrowser
      thumbnailBaseName thumbnail) ∧
    ShowsWrites openInBrowser (thumbnailEffects env rawfilePath destinationPath openInBrowser
      thumbnailBaseName thumbnail) ∧
    ∀ effect ∈ thumbnailEffects env rawfilePath destinationPath openInBrowser thumbnailBaseName
      thumbnail, effect.OneLine ∧ ∀ path contents, effect = .writeFile path contents →
        exportedThumbnail env destinationPath thumbnailBaseName thumbnail =
          some (path, contents) := by
  unfold thumbnailEffects
  split
  · next path contents hexported =>
    refine ⟨OpensWritten.writeFile_cons (by cases openInBrowser <;> simp [Effect.opened]),
      ShowsWrites.writeFile_cons rfl rfl, fun effect heffect => ?_⟩
    rcases List.mem_cons.mp heffect with rfl | hpage
    · exact ⟨trivial, by rintro _ _ ⟨⟩; exact hexported⟩
    · obtain ⟨url, rfl⟩ : ∃ url, effect = .openNewTab url := by
        cases openInBrowser <;> simp_all
      exact ⟨trivial, fun _ _ => Effect.noConfusion⟩
  · refine ⟨OpensWritten.of_forall_opened_eq_none (by simp [Effect.opened]),
      by cases openInBrowser <;> rfl, ?_⟩
    simp only [List.mem_singleton, forall_eq, Effect.OneLine]
    exact ⟨⟨_, rfl, newline_not_mem_cannotExtractMessage _ _ _ _⟩,
      fun _ _ => Effect.noConfusion⟩

end Pass

/-! ## The whole run -/

section Run

variable {env : Env} {rawfilePath : Bytes} (destinationPath : Bytes) (openInBrowser : Bool)
  (log : List Effect)

theorem extractThumbnails_of_open_failure
    (hopen : env.engine.newRawFile rawfilePath .unknown = none) :
    extractThumbnails env rawfilePath destinationPath openInBrowser log =
      .error (.error ⟨none⟩) log := by
  show (liftExcept (RawFile.fromPath _ _ _) >>= _) log = _
  rw [fromPath_of_none hopen, liftExcept_error_bind]

theorem extractThumbnails_of_opened {rawfile : Native.RawFile}
    (hopen : env.engine.newRawFile rawfilePath .unknown = some rawfile) :
    extractThumbnails env rawfilePath destinationPath openInBrowser log =
      (liftExcept (RawFile.getThumbnails ⟨rawfile⟩) >>= fun thumbnails =>
        thumbnails.forM (extractThumbnail env rawfilePath destinationPath openInBrowser
          (env.splitext (env.basename rawfilePath)).1)) log := by
  show (liftExcept (RawFile.fromPath _ _ _) >>= _) log = _
  rw [fromPath_of_some hopen, liftExcept_ok_bind]

/-- Whatever the file system does, `extract_thumbnails` performs its outcome through it. -/
theorem extractThumbnails_eq_perform :
    extractThumbnails env rawfilePath destinationPath openInBrowser =
      perform env (runOf (thumbnailsOutcome env destinationPath openInBrowser rawfilePath)) := by
  funext log
  unfold thumbnailsOutcome
  cases hopen : env.engine.newRawFile rawfilePath .unknown with
  | none =>
    rw [extractThumbnails_of_open_failure destinationPath openInBrowser log hopen]
    exact (perform_runOf_error _ log).symm
  | some rawfile =>
    rw [extractThumbnails_of_opened destinationPath openInBrowser log hopen, getThumbnails_eq]
    dsimp only
    cases rawfile.listThumbnailSizes.find? _ with
    | some width =>
      rw [liftExcept_error_bind]
      exact (perform_runOf_error _ log).symm
    | none =>
      rw [liftExcept_ok_bind, forM_eq_perform_ok fun _ _ => extractThumbnail_eq_perform,
        List.map_map]
      rfl

theorem extractThumbnails_of_forall_none {rawfile : Native.RawFile}
    (hopen : env.engine.newRawFile rawfilePath .unknown = some rawfile)
    (hall : ∀ width ∈ rawfile.listThumbnailSizes, (rawfile.getThumbnail width).1 = .none)
    (hwrite : env.WritesSucceed) :
    extractThumbnails env rawfilePath destinationPath openInBrowser log =
      .ok () (log ++ (rawfile.listThumbnailSizes.map fun width =>
        thumbnailEffects env rawfilePath destinationPath openInBrowser
          (env.splitext (env.basename rawfilePath)).1
          ⟨(rawfile.getThumbnail width).2⟩).flatten) := by
  rw [extractThumbnails_eq_perform, perform_of_writesSucceed hwrite, thumbnailsOutcome, hopen]
  dsimp only
  rw [List.find?_eq_none.mpr (by simpa using hall)]
  rfl

end Run

theorem extractThumbnails_all_or_nothing (env : Env) (rawfilePath destinationPath : Bytes)
    (openInBrowser : Bool) (log : List Effect) :
    (env.engine.newRawFile rawfilePath .unknown = none →
      extractThumbnails env rawfilePath destinationPath openInBrowser log =
        .error (.error ⟨none⟩) log) ∧
    ∀ rawfile, env.engine.newRawFile rawfilePath .unknown = some rawfile →
      (∀ pre width post, rawfile.listThumbnailSizes = pre ++ width :: post →
        (∀ v ∈ pre, (rawfile.getThumbnail v).1 = .none) →
        (rawfile.getThumbnail width).1 ≠ .none →
        extractThumbnails env rawfilePath destinationPath openInBrowser log =
          .error (.error ⟨some (rawfile.getThumbnail width).1⟩) log) ∧
      ((∀ width ∈ rawfile.listThumbnailSizes, (rawfile.getThumbnail width).1 = .none) →
        env.WritesSucceed →
        ∃ effects,
          extractThumbnails env rawfilePath destinationPath openInBrowser log =
            .ok () (log ++ effects) ∧
          effects.filterMap Effect.extracted = rawfile.listThumbnailSizes.map
            (fun width => expectedExtraction ⟨(rawfile.getThumbnail width).2⟩) ∧
          ∀ effect ∈ effects, effect.OneLine) := by
  refine ⟨extractThumbnails_of_open_failure destinationPath openInBrowser log,
    fun rawfile hopen => ⟨fun pre width post hws hpre hw => ?_, fun hall hwrite =>
      ⟨_, extractThumbnails_of_forall_none destinationPath openInBrowser log hopen hall hwrite,
        ?_, ?_⟩⟩⟩
  · rw [extractThumbnails_of_opened destinationPath openInBrowser log hopen,
      getThumbnails_of_first_failure ⟨rawfile⟩ hws hpre hw, liftExcept_error_bind]
  · exact thumbnailPasses_extracted ..
  · simp only [List.mem_flatten, List.mem_map]
    rintro effect ⟨_, ⟨width, -, rfl⟩, heffect⟩
    exact (thumbnailEffects_output.2.2 effect heffect).1

/-! ## Where the files go -/

section Names

variable {env : Env} {destinationPath thumbnailBaseName : Bytes}

theorem exportedThumbnail_eq_some {thumbnail : Bitmap} {path contents : Bytes}
    (h : exportedThumbnail env destinationPath thumbnailBaseName thumbnail =
      some (path, contents)) :
    ∃ suffix, exportSuffix env thumbnail.bitmap.dataType = some suffix ∧
      path = env.abspath (env.join destinationPath (thumbnailBaseName ++ ascii "-" ++
        decimal thumbnail.bitmap.x ++ ascii "x" ++ decimal thumbnail.bitmap.y ++ suffix)) := by
  obtain ⟨⟨dataType, x, y, bpc, data⟩⟩ := thumbnail
  cases dataType <;> simp only [exportedThumbnail, expectedExtraction, exportSuffix,
    Option.map_some', Option.map_none', Option.some.injEq, Prod.mk.injEq, reduceCtorEq] at h <;>
    exact ⟨_, rfl, h.1.symm⟩

theorem exportSuffix_plain
    (hguess : ∀ mimeType extension, env.guessExtension mimeType = some extension →
      startsWithDigit extension = false ∧ 47 ∉ extension)
    {dataType : DataType} {suffix : Bytes} (h : exportSuffix env dataType = some suffix) :
    startsWithDigit suffix = false ∧ 47 ∉ suffix := by
  have hprinted : ∀ mimeType, startsWithDigit (formatS (env.guessExtension mimeType)) = false ∧
      47 ∉ formatS (env.guessExtension mimeType) := fun mimeType => by
    cases hg : env.guessExtension mimeType with
    | none => decide
    | some extension => exact hguess _ _ hg
  cases dataType <;> simp only [exportSuffix, Option.some.injEq, reduceCtorEq] at h <;>
    subst h <;> first | decide | exact hprinted _

theorem exportedThumbnail_same_path
    (hpath : ∀ a b, PlainName a → PlainName b → env.abspath (env.join destinationPath a) =
      env.abspath (env.join destinationPath b) → a = b)
    (hbase : 47 ∉ thumbnailBaseName)
    (hguess : ∀ mimeType extension, env.guessExtension mimeType = some extension →
      startsWithDigit extension = false ∧ 47 ∉ extension)
    {thumbnail thumbnail' : Bitmap} {path contents contents' : Bytes}
    (h : exportedThumbnail env destinationPath thumbnailBaseName thumbnail = some (path, contents))
    (h' : exportedThumbnail env destinationPath thumbnailBaseName thumbnail' =
      some (path, contents')) :
    thumbnail.bitmap.x = thumbnail'.bitmap.x ∧ thumbnail.bitmap.y = thumbnail'.bitmap.y ∧
      exportSuffix env thumbnail.bitmap.dataType = exportSuffix env thumbnail'.bitmap.dataType := by
  have hdigits : ∀ n, 47 ∉ decimal n := fun _ h => absurd (isDigit_of_mem_decimal h) (by decide)
  have hplain : ∀ {x y : Nat} {suffix : Bytes}, 47 ∉ suffix →
      PlainName (thumbnailBaseName ++ ascii "-" ++ decimal x ++ ascii "x" ++ decimal y ++
        suffix) := fun hsuffix =>
    plainName_of_mem (by simp [hbase, hdigits, hsuffix]; decide) (by
      simp only [List.append_assoc]
      exact List.mem_append_right _ (List.mem_append_left _ (by decide)))
  obtain ⟨suffix, hs, rfl⟩ := exportedThumbnail_eq_some h
  obtain ⟨suffix', hs', hsame⟩ := exportedThumbnail_eq_some h'
  have hname := hpath _ _ (hplain (exportSuffix_plain hguess hs).2)
    (hplain (exportSuffix_plain hguess hs').2) hsame
  simp only [List.append_assoc, List.append_cancel_left_eq] at hname
  obtain ⟨hx, hname⟩ := decimal_append_cancel (by rfl) (by rfl) hname
  obtain ⟨hy, rfl⟩ := decimal_append_cancel (exportSuffix_plain hguess hs).1
    (exportSuffix_plain hguess hs').1 (List.append_cancel_left hname)
  exact ⟨hx, hy, hs.trans hs'.symm⟩

end Names

theorem extractThumbnails_writes_named_files (env : Env) (rawfilePath destinationPath : Bytes)
    (openInBrowser : Bool) (log : List Effect) (rawfile : Native.RawFile)
    (hopen : env.engine.newRawFile rawfilePath .unknown = some rawfile)
    (hall : ∀ width ∈ rawfile.listThumbnailSizes, (rawfile.getThumbnail width).1 = .none)
    (hwrite : env.WritesSucceed) :
    ∃ effects,
      extractThumbnails env rawfilePath destinationPath openInBrowser log =
        .ok () (log ++ effects) ∧
      effects.filterMap Effect.written = rawfile.listThumbnailSizes.filterMap
        (fun width => exportedThumbnail env destinationPath (env.splitext (env.basename
          rawfilePath)).1 ⟨(rawfile.getThumbnail width).2⟩) ∧
      ((∀ a b, PlainName a → PlainName b → env.abspath (env.join destinationPath a) =
          env.abspath (env.join destinationPath b) → a = b) →
        47 ∉ (env.splitext (env.basename rawfilePath)).1 →
        (∀ mimeType extension, env.guessExtension mimeType = some extension →
          startsWithDigit extension = false ∧ 47 ∉ extension) →
        ∀ path contents contents', Effect.writeFile path contents ∈ effects →
          Effect.writeFile path contents' ∈ effects →
          ∃ v ∈ rawfile.listThumbnailSizes, ∃ w ∈ rawfile.listThumbnailSizes,
            exportedThumbnail env destinationPath (env.splitext (env.basename rawfilePath)).1
              ⟨(rawfile.getThumbnail v).2⟩ = some (path, contents) ∧
            exportedThumbnail env destinationPath (env.splitext (env.basename rawfilePath)).1
              ⟨(rawfile.getThumbnail w).2⟩ = some (path, contents') ∧
            (rawfile.getThumbnail v).2.x = (rawfile.getThumbnail w).2.x ∧
            (rawfile.getThumbnail v).2.y = (rawfile.getThumbnail w).2.y ∧
            exportSuffix env (rawfile.getThumbnail v).2.dataType =
              exportSuffix env (rawfile.getThumbnail w).2.dataType) := by
  refine ⟨_, extractThumbnails_of_forall_none destinationPath openInBrowser log hopen hall hwrite,
    thumbnailPasses_written .., fun hpath hbase hguess path contents contents' hc hc' => ?_⟩
  have hmem := mem_filterMap_written hc
  have hmem' := mem_filterMap_written hc'
  rw [thumbnailPasses_written] at hmem hmem'
  obtain ⟨v, hv, hexported⟩ := List.mem_filterMap.mp hmem
  obtain ⟨w, hw, hexported'⟩ := List.mem_filterMap.mp hmem'
  exact ⟨v, hv, w, hw, hexported, hexported',
    exportedThumbnail_same_path hpath hbase hguess hexported hexported'⟩

/-- An engine whose widths 160 and 486 are a JPEG and a packed-RGB pixmap, as in the
binding tests, whose width 1936 is a compressed CFA, and which fails on any other width. -/
def sampleThumbnail (width : Nat) : OrError × Native.Bitmap :=
  if width = 160 then (.none, ⟨.jpeg, 160, 120, 8, [255, 216, 255, 217]⟩)
  else if width = 486 then (.none, ⟨.pixmap8rgb, 486, 324, 8, [1, 2, 3]⟩)
  else if width = 1936 then (.none, ⟨.compressedCfa, 1936, 1288, 12, []⟩)
  else (.cantOpen, ⟨.other 0, 0, 0, 0, []⟩)

def sampleRawfile (sizes : List Nat) : Native.RawFile :=
  ⟨.cr2, 1, sizes, sampleThumbnail, fun _ => (.cantOpen, ⟨.other 0, 0, 0, 0, []⟩)⟩

def sampleEnv : Env where
  engine := ⟨fun path _ =>
      if path = ascii "sample.cr2" then some (sampleRawfile [1936, 160, 486])
      else if path = ascii "bad.cr2" then some (sampleRawfile [160, 7, 486])
      else none,
    fun _ _ => none⟩
  basename := id
  splitext := fun path => (path.takeWhile (· ≠ 46), path.dropWhile (· ≠ 46))
  join := fun directory name => directory ++ ascii "/" ++ name
  abspath := id
  guessExtension := fun mimeType =>
    if mimeType = ascii "image/jpeg" then some (ascii ".jpg") else none
  writeOutcome := fun _ _ => .written

/-- A missing file, a failure on the middle width, and a full run that skips the CFA
thumbnail with a diagnostic and still writes the other two. -/
theorem sample_thumbnails_all_or_nothing :
    extractThumbnails sampleEnv (ascii "gone.cr2") (ascii "out") false [] =
      .error (.error ⟨none⟩) [] ∧
    extractThumbnails sampleEnv (ascii "bad.cr2") (ascii "out") false [] =
      .error (.error ⟨some .cantOpen⟩) [] ∧
    ∃ effects,
      extractThumbnails sampleEnv (ascii "sample.cr2") (ascii "out") true [] =
        .ok () ([] ++ effects) ∧
      effects.filterMap Effect.extracted = [.diagnostic, .file [255, 216, 255, 217],
        .file (ascii "P6\n486 324\n255\n" ++ [1, 2, 3])] ∧
      ∀ effect ∈ effects, effect.OneLine := by
  refine ⟨(extractThumbnails_all_or_nothing sampleEnv _ _ false []).1 rfl,
    ((extractThumbnails_all_or_nothing sampleEnv (ascii "bad.cr2") _ false []).2
      (sampleRawfile [160, 7, 486]) rfl).1 [160] 7 [486] rfl (by decide) (by decide), ?_⟩
  obtain ⟨effects, hrun, hextracted, hline⟩ :=
    ((extractThumbnails_all_or_nothing sampleEnv (ascii "sample.cr2") (ascii "out") true []).2
      (sampleRawfile [1936, 160, 486]) rfl).2 (by decide) fun _ _ => rfl
  refine ⟨effects, hrun, hextracted.trans ?_, hline⟩
  simp [sampleRawfile, sampleThumbnail, expectedExtraction, header, decimal]
  decide

/-- The sample run writes no file for the CFA thumbnail. -/
theorem sample_thumbnails_named :
    ∃ effects,
      extractThumbnails sampleEnv (ascii "sample.cr2") (ascii "out") false [] =
        .ok () ([] ++ effects) ∧
      effects.filterMap Effect.written =
        [(ascii "out/sample-160x120.jpg", [255, 216, 255, 217]),
          (ascii "out/sample-486x324.ppm", ascii "P6\n486 324\n255\n" ++ [1, 2, 3])] ∧
      ∀ path contents contents', Effect.writeFile path contents ∈ effects →
        Effect.writeFile path contents' ∈ effects →
        ∃ v ∈ [1936, 160, 486], ∃ w ∈ [1936, 160, 486],
          exportedThumbnail sampleEnv (ascii "out") (ascii "sample")
            ⟨(sampleThumbnail v).2⟩ = some (path, contents) ∧
          exportedThumbnail sampleEnv (ascii "out") (ascii "sample")
            ⟨(sampleThumbnail w).2⟩ = some (path, contents') ∧
          (sampleThumbnail v).2.x = (sampleThumbnail w).2.x ∧
          (sampleThumbnail v).2.y = (sampleThumbnail w).2.y ∧
          exportSuffix sampleEnv (sampleThumbnail v).2.dataType =
            exportSuffix sampleEnv (sampleThumbnail w).2.dataType := by
  obtain ⟨effects, hrun, hwritten, hsame⟩ := extractThumbnails_writes_named_files sampleEnv
    (ascii "sample.cr2") (ascii "out") false [] (sampleRawfile [1936, 160, 486]) rfl (by decide)
    fun _ _ => rfl
  refine ⟨effects, hrun, hwritten.trans ?_,
    hsame (fun _ _ _ _ h => List.append_cancel_left h) (by decide) fun mimeType extension h => ?_⟩
  · simp [exportedThumbnail, sampleRawfile, sampleThumbnail, expectedExtraction, exportSuffix,
      sampleEnv, header, decimal]
    decide
  · simp only [sampleEnv] at h
    split at h
    · cases h
      decide
    · cases h

/-! ## One input, and the batch of `main` -/

theorem thumbnailsOutcome_output {env : Env} {destinationPath rawfilePath : Bytes}
    {openInBrowser : Bool} {effects : List Effect}
    (h : thumbnailsOutcome env destinationPath openInBrowser rawfilePath = .ok effects) :
    OpensWritten effects ∧ ShowsWrites openInBrowser effects ∧ ∀ effect ∈ effects,
      effect.OneLine ∧ ∀ path contents, effect = .writeFile path contents →
        ∃ rawfile, env.engine.newRawFile rawfilePath .unknown = some rawfile ∧
          ∃ width ∈ rawfile.listThumbnailSizes,
            exportedThumbnail env destinationPath (env.splitext (env.basename rawfilePath)).1
              ⟨(rawfile.getThumbnail width).2⟩ = some (path, contents) := by
  unfold thumbnailsOutcome at h
  split at h
  · cases h
  · next rawfile hopen =>
    split at h
    · cases h
    · cases h
      refine ⟨OpensWritten.flatten ?_, ShowsWrites.flatten ?_, ?_⟩
      · simp only [List.mem_map]
        rintro _ ⟨width, -, rfl⟩
        exact thumbnailEffects_output.1
      · simp only [List.mem_map]
        rintro _ ⟨width, -, rfl⟩
        exact thumbnailEffects_output.2.1
      · simp only [List.mem_flatten, List.mem_map]
        rintro effect ⟨_, ⟨width, hwidth, rfl⟩, heffect⟩
        obtain ⟨hline, hfile⟩ := thumbnailEffects_output.2.2 effect heffect
        exact ⟨hline, fun path contents h =>
          ⟨rawfile, hopen, width, hwidth, hfile path contents h⟩⟩

namespace Thumb

def usage : Bytes :=
  ascii "usage: %prog [options] rawfile1 rawfile2 ... - extracts thumbnails"

/-- `main` of `demo/thumb.py` after `options, args = parser.parse_args()`. -/
def main (env : Env) (errorText : Bytes → Bytes → Bytes) (options : Options)
    (args : List Bytes) : Process Unit :=
  demoMain usage (fun rawFile => extractThumbnails env rawFile options.destination options.browser)
    errorText args

/-- An unsupported thumbnail never ends the run: its diagnostic is part of its file's
outcome. -/
theorem main_extracts_thumbnails_until_first_error (env : Env)
    (errorText : Bytes → Bytes → Bytes) (options : Options) (log : List Effect) :
    main env errorText options [] log = .error (.systemExit 2)
      (log ++ [.stderr (errorText usage (ascii "at least one RAW file must be specified"))]) ∧
    (env.WritesSucceed → ∀ args, args ≠ [] →
      main env errorText options args log =
        match batch (args.map (thumbnailsOutcome env options.destination options.browser)) with
        | (effects, none) => .ok () (log ++ effects)
        | (effects, some e) => .error (.error e) (log ++ effects)) :=
  ⟨demoMain_nil .., fun hwrite _ hargs => demoMain_of_writesSucceed usage errorText log hwrite
    (fun _ => extractThumbnails_eq_perform ..) hargs⟩

/-- `thumb.py -d out sample.cr2 bad.cr2 sample.cr2`: the first file is extracted in full,
its CFA thumbnail reported, the second raises, and the third is never reached. -/
theorem sample_thumbnail_main_stops_at_bad_file :
    main sampleEnv (fun usage msg => usage ++ ascii ": error: " ++ msg)
        ⟨false, ascii "out"⟩ [] [] =
      .error (.systemExit 2) [.stderr (usage ++ ascii ": error: " ++
        ascii "at least one RAW file must be specified")] ∧
    main sampleEnv (fun usage msg => usage ++ ascii ": error: " ++ msg) ⟨false, ascii "out"⟩
        [ascii "sample.cr2", ascii "bad.cr2", ascii "sample.cr2"] [] =
      .error (.error ⟨some .cantOpen⟩)
        [.stderr (cannotExtractMessage .compressedCfa (ascii "sample.cr2") 1936 1288 ++
            ascii "\n"),
          .writeFile (ascii "out/sample-160x120.jpg") [255, 216, 255, 217],
          .writeFile (ascii "out/sample-486x324.ppm")
            (ascii "P6\n486 324\n255\n" ++ [1, 2, 3])] := by
  refine ⟨(main_extracts_thumbnails_until_first_error sampleEnv _ _ []).1,
    ((main_extracts_thumbnails_until_first_error sampleEnv _ _ []).2 (fun _ _ => rfl) _
      (by decide)).trans ?_⟩
  simp [batch, thumbnailsOutcome, sampleEnv, sampleRawfile, sampleThumbnail, thumbnailEffects,
    exportedThumbnail, expectedExtraction, exportSuffix, Bitmap.getDataType, Bitmap.getWidth,
    Bitmap.getHeight, header, decimal]
  decide

theorem main_output_traces_to_arguments {env : Env} (hwrite : env.WritesSucceed)
    (errorText : Bytes → Bytes → Bytes) (options : Options) (log : List Effect)
    {args : List Bytes} (hargs : args ≠ []) :
    ∃ effects,
      (main env errorText options args log = .ok () (log ++ effects) ∨
        ∃ e, main env errorText options args log = .error (.error e) (log ++ effects)) ∧
      (∀ effect ∈ effects, effect.OneLine) ∧ OpensWritten effects ∧
      ShowsWrites options.browser effects ∧
      ∀ path contents, .writeFile path contents ∈ effects →
        ∃ rawFile ∈ args, ∃ rawfile, env.engine.newRawFile rawFile .unknown = some rawfile ∧
          ∃ width ∈ rawfile.listThumbnailSizes,
            exportedThumbnail env options.destination (env.splitext (env.basename rawFile)).1
              ⟨(rawfile.getThumbnail width).2⟩ = some (path, contents) := by
  obtain ⟨effects, hrun, hopens, hshows, hall⟩ := demoMain_output usage errorText log hwrite
    (fun _ => extractThumbnails_eq_perform ..) _ hargs fun _ _ hout => thumbnailsOutcome_output hout
  refine ⟨effects, hrun, fun effect hmem => ?_, hopens, hshows, fun path contents hmem => ?_⟩
  · obtain ⟨rawFile, -, hline, -⟩ := hall _ hmem
    exact hline
  · obtain ⟨rawFile, hrawFile, -, hfile⟩ := hall _ hmem
    exact ⟨rawFile, hrawFile, hfile path contents rfl⟩

theorem sample_thumbnail_main_output_traced :
    sampleEnv.WritesSucceed ∧ [ascii "sample.cr2", ascii "gone.cr2"] ≠ [] ∧
    ∃ effects,
      (main sampleEnv (fun usage msg => usage ++ msg) ⟨true, ascii "out"⟩
          [ascii "sample.cr2", ascii "gone.cr2"] [] = .ok () ([] ++ effects) ∨
        ∃ e, main sampleEnv (fun usage msg => usage ++ msg) ⟨true, ascii "out"⟩
          [ascii "sample.cr2", ascii "gone.cr2"] [] = .error (.error e) ([] ++ effects)) ∧
      (∀ effect ∈ effects, effect.OneLine) ∧ OpensWritten effects ∧
      ShowsWrites true effects ∧
      ∀ path contents, .writeFile path contents ∈ effects →
        ∃ rawFile ∈ [ascii "sample.cr2", ascii "gone.cr2"], ∃ rawfile,
          sampleEnv.engine.newRawFile rawFile .unknown = some rawfile ∧
          ∃ width ∈ rawfile.listThumbnailSizes,
            exportedThumbnail sampleEnv (ascii "out") (sampleEnv.splitext
              (sampleEnv.basename rawFile)).1 ⟨(rawfile.getThumbnail width).2⟩ =
              some (path, contents) :=
  ⟨fun _ _ => rfl, by decide,
    main_output_traces_to_arguments (fun _ _ => rfl) _ _ [] (by decide)⟩

end Thumb

end OpenRaw
