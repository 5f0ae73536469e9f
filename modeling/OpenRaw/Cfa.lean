import OpenRaw.Pnm
import OpenRaw.Script

/-! # `demo/cfa.py`: extracting the raw sensor data

`extract_raw_image` opens a raw file, asks the engine for its raw data with no decode
options, and writes it as a `P5` graymap named after the input. Both engine calls come
before the file is opened, so a failure of either leaves nothing behind; on success
the one file it writes reads back, through the header grammar, as the engine's width,
height and data with maximum sample value `2 ^ bpc - 1`. `rawImageOutcome` says from the
spec what one input should produce, and `extract_raw_image` performs it through the file
system. `main` runs it on each file named on the command line, in order, and nothing
catches its `Error` or an `IOError`: a run is the batch of the files' outcomes up to the
first that fails, cut at its first failed write.
-/

namespace OpenRaw

def imagePath (env : Env) (rawfilePath destinationPath : Bytes) : Bytes :=
  let extractBaseName := (env.splitext (env.basename rawfilePath)).1
  env.abspath (env.join destinationPath (extractBaseName ++ ascii ".pgm"))

def extractRawImage (env : Env) (rawfilePath destinationPath : Bytes) (openInBrowser : Bool) :
    Script Unit := do
  let rawFile ← liftExcept (RawFile.fromPath env.engine rawfilePath .unknown)
  let rawData ← liftExcept (rawFile.getRawData orOptionsNone)
  let path := imagePath env rawfilePath destinationPath
  writeToFile env path (writeRawDataToFile rawData [])
  if openInBrowser then emit (.openNew path)

/-- One input, read off the engine: its `Error`, or its `P5` file and page. -/
def rawImageOutcome (env : Env) (destinationPath : Bytes) (openInBrowser : Bool)
    (rawfilePath : Bytes) : Except Error (List Effect) :=
  match env.engine.newRawFile rawfilePath .unknown with
  | none => .error ⟨none⟩
  | some rawfile =>
    if (rawfile.getRawData orOptionsNone).1 ≠ .none then
      .error ⟨some (rawfile.getRawData orOptionsNone).1⟩
    else
      let rawData := (rawfile.getRawData orOptionsNone).2
      let path := env.abspath (env.join destinationPath
        ((env.splitext (env.basename rawfilePath)).1 ++ ascii ".pgm"))
      .ok (.writeFile path (header (ascii "P5") rawData.x rawData.y (2 ^ rawData.bpc - 1)
          rawData.data) :: if openInBrowser then [.openNew path] else [])

section Run

variable {env : Env} {rawfilePath : Bytes} (destinationPath : Bytes) (openInBrowser : Bool)
  (log : List Effect)

theorem extractRawImage_of_open_failure
    (hopen : env.engine.newRawFile rawfilePath .unknown = none) :
    extractRawImage env rawfilePath destinationPath openInBrowser log =
      .error (.error ⟨none⟩) log := by
  show (liftExcept (RawFile.fromPath _ _ _) >>= _) log = _
  rw [fromPath_of_none hopen, liftExcept_error_bind]

theorem extractRawImage_of_opened {rawfile : Native.RawFile}
    (hopen : env.engine.newRawFile rawfilePath .unknown = some rawfile) :
    extractRawImage env rawfilePath destinationPath openInBrowser log =
      (liftExcept (RawFile.getRawData ⟨rawfile⟩ orOptionsNone) >>= fun rawData =>
        writeToFile env (imagePath env rawfilePath destinationPath) (writeRawDataToFile rawData [])
          >>= fun _ => if openInBrowser then emit (.openNew (imagePath env rawfilePath
            destinationPath)) else pure ()) log := by
  show (liftExcept (RawFile.fromPath _ _ _) >>= _) log = _
  rw [fromPath_of_some hopen, liftExcept_ok_bind]

theorem extractRawImage_of_raw_data_failure {rawfile : Native.RawFile}
    (hopen : env.engine.newRawFile rawfilePath .unknown = some rawfile)
    (hraw : (rawfile.getRawData orOptionsNone).1 ≠ .none) :
    extractRawImage env rawfilePath destinationPath openInBrowser log =
      .error (.error ⟨some (rawfile.getRawData orOptionsNone).1⟩) log := by
  rw [extractRawImage_of_opened destinationPath openInBrowser log hopen,
    getRawData_of_ne_none ⟨rawfile⟩ hraw, liftExcept_error_bind]

theorem extractRawImage_eq_perform :
    extractRawImage env rawfilePath destinationPath openInBrowser =
      perform env (runOf (rawImageOutcome env destinationPath openInBrowser rawfilePath)) := by
  funext log
  unfold rawImageOutcome
  cases hopen : env.engine.newRawFile rawfilePath .unknown with
  | none =>
    rw [extractRawImage_of_open_failure destinationPath openInBrowser log hopen]
    exact (perform_runOf_error _ log).symm
  | some rawfile =>
    dsimp only
    by_cases hraw : (rawfile.getRawData orOptionsNone).1 = .none
    · rw [if_neg (not_not.mpr hraw : ¬(_ ≠ _)),
        extractRawImage_of_opened destinationPath openInBrowser log hopen,
        getRawData_of_none ⟨rawfile⟩ hraw, liftExcept_ok_bind,
        writeToFile_then_eq_perform _ _ (.openNew _) rfl, writeRawDataToFile_eq_header]
      rfl
    · rw [if_pos hraw,
        extractRawImage_of_raw_data_failure destinationPath openInBrowser log hopen hraw]
      exact (perform_runOf_error _ log).symm

theorem extractRawImage_of_none {rawfile : Native.RawFile}
    (hopen : env.engine.newRawFile rawfilePath .unknown = some rawfile)
    (hraw : (rawfile.getRawData orOptionsNone).1 = .none) (hwrite : env.WritesSucceed) :
    extractRawImage env rawfilePath destinationPath openInBrowser log =
      .ok () (log ++
        (.writeFile (imagePath env rawfilePath destinationPath)
            (header (ascii "P5") (rawfile.getRawData orOptionsNone).2.x
              (rawfile.getRawData orOptionsNone).2.y
              (2 ^ (rawfile.getRawData orOptionsNone).2.bpc - 1)
              (rawfile.getRawData orOptionsNone).2.data) ::
          if openInBrowser then [.openNew (imagePath env rawfilePath destinationPath)]
          else [])) := by
  rw [extractRawImage_eq_perform, perform_of_writesSucceed hwrite]
  simp only [rawImageOutcome, hopen, hraw, ne_eq, not_true_eq_false, if_false]
  rfl

end Run

theorem extractRawImage_all_or_nothing (env : Env) (rawfilePath destinationPath : Bytes)
    (openInBrowser : Bool) (log : List Effect) :
    (env.engine.newRawFile rawfilePath .unknown = none →
      extractRawImage env rawfilePath destinationPath openInBrowser log =
        .error (.error ⟨none⟩) log) ∧
    ∀ rawfile, env.engine.newRawFile rawfilePath .unknown = some rawfile →
      ((rawfile.getRawData orOptionsNone).1 ≠ .none →
        extractRawImage env rawfilePath destinationPath openInBrowser log =
          .error (.error ⟨some (rawfile.getRawData orOptionsNone).1⟩) log) ∧
      ((rawfile.getRawData orOptionsNone).1 = .none → env.WritesSucceed → ∃ contents,
        extractRawImage env rawfilePath destinationPath openInBrowser log =
          .ok () (log ++ (.writeFile (imagePath env rawfilePath destinationPath) contents ::
            if openInBrowser then [.openNew (imagePath env rawfilePath destinationPath)]
            else [])) ∧
        parsePnm contents = some ⟨ascii "P5", (rawfile.getRawData orOptionsNone).2.x,
          (rawfile.getRawData orOptionsNone).2.y,
          2 ^ (rawfile.getRawData orOptionsNone).2.bpc - 1,
          (rawfile.getRawData orOptionsNone).2.data⟩) :=
  ⟨extractRawImage_of_open_failure destinationPath openInBrowser log, fun _ hopen =>
    ⟨extractRawImage_of_raw_data_failure destinationPath openInBrowser log hopen,
      fun hraw hwrite =>
        ⟨_, extractRawImage_of_none destinationPath openInBrowser log hopen hraw hwrite,
          parsePnm_header (by decide) ..⟩⟩⟩

/-- The spec's `duck.cr2`, raw data 3944 by 2622 at 14 bits, and a `bad.cr2` without. -/
def sampleRawEnv : Env where
  engine := ⟨fun path _ =>
      if path = ascii "duck.cr2" then
        some ⟨.cr2, 1, [], fun _ => (.cantOpen, ⟨.other 0, 0, 0, 0, []⟩),
          fun _ => (.none, ⟨.compressedCfa, 3944, 2622, 14, [7, 7]⟩)⟩
      else if path = ascii "bad.cr2" then
        some ⟨.cr2, 1, [], fun _ => (.cantOpen, ⟨.other 0, 0, 0, 0, []⟩),
          fun _ => (.other 9, ⟨.other 0, 0, 0, 0, []⟩)⟩
      else none,
    fun _ _ => none⟩
  basename := id
  splitext := fun path => (path.takeWhile (· ≠ 46), path.dropWhile (· ≠ 46))
  join := fun directory name => directory ++ ascii "/" ++ name
  abspath := id
  guessExtension := fun _ => none
  writeOutcome := fun _ _ => .written

/-- The spec's raw export: `duck.cr2` becomes `./duck.pgm`, declaring 16383. -/
theorem sample_raw_image_exported :
    extractRawImage sampleRawEnv (ascii "gone.cr2") (ascii ".") false [] =
      .error (.error ⟨none⟩) [] ∧
    extractRawImage sampleRawEnv (ascii "bad.cr2") (ascii ".") false [] =
      .error (.error ⟨some (.other 9)⟩) [] ∧
    ∃ contents,
      extractRawImage sampleRawEnv (ascii "duck.cr2") (ascii ".") false [] =
        .ok () [.writeFile (ascii "./duck.pgm") contents] ∧
      parsePnm contents = some ⟨ascii "P5", 3944, 2622, 16383, [7, 7]⟩ :=
  ⟨(extractRawImage_all_or_nothing sampleRawEnv _ _ false []).1 rfl,
    ((extractRawImage_all_or_nothing sampleRawEnv (ascii "bad.cr2") _ false []).2 _ rfl).1
      (by decide),
    ((extractRawImage_all_or_nothing sampleRawEnv (ascii "duck.cr2") (ascii ".") false []).2
      _ rfl).2 rfl fun _ _ => rfl⟩

/-! ## One input, and the batch of `main` -/

theorem rawImageOutcome_output {env : Env} {destinationPath rawfilePath : Bytes}
    {openInBrowser : Bool} {effects : List Effect}
    (h : rawImageOutcome env destinationPath openInBrowser rawfilePath = .ok effects) :
    OpensWritten effects ∧ ShowsWrites openInBrowser effects ∧ ∀ effect ∈ effects,
      (∀ text, effect ≠ .stderr text) ∧
      ∀ path contents, effect = .writeFile path contents →
        ∃ rawfile, env.engine.newRawFile rawfilePath .unknown = some rawfile ∧
          (rawfile.getRawData orOptionsNone).1 = .none ∧
          path = imagePath env rawfilePath destinationPath ∧
          parsePnm contents = some ⟨ascii "P5", (rawfile.getRawData orOptionsNone).2.x,
            (rawfile.getRawData orOptionsNone).2.y,
            2 ^ (rawfile.getRawData orOptionsNone).2.bpc - 1,
            (rawfile.getRawData orOptionsNone).2.data⟩ := by
  unfold rawImageOutcome at h
  split at h
  · cases h
  · next rawfile hopen =>
    split at h
    · cases h
    · next hraw =>
      cases h
      refine ⟨OpensWritten.writeFile_cons (by cases openInBrowser <;> simp [Effect.opened]),
        ShowsWrites.writeFile_cons rfl rfl, fun effect heffect => ?_⟩
      rcases List.mem_cons.mp heffect with rfl | hpage
      · refine ⟨fun _ => Effect.noConfusion, ?_⟩
        rintro path contents ⟨⟩
        exact ⟨rawfile, hopen, not_not.mp hraw, rfl, parsePnm_header (by decide) ..⟩
      · obtain ⟨url, rfl⟩ : ∃ url, effect = .openNew url := by
          cases openInBrowser <;> simp_all
        exact ⟨fun _ => Effect.noConfusion, fun _ _ => Effect.noConfusion⟩

namespace Cfa

def usage : Bytes := ascii "usage: %prog [options] rawfile1 rawfile2 ... - extracts raw data"

/-- `main` of `demo/cfa.py` after `options, args = parser.parse_args()`. -/
def main (env : Env) (errorText : Bytes → Bytes → Bytes) (options : Options)
    (args : List Bytes) : Process Unit :=
  demoMain usage (fun rawFile => extractRawImage env rawFile options.destination options.browser)
    errorText args

theorem main_extracts_raw_data_until_first_error (env : Env) (errorText : Bytes → Bytes → Bytes)
    (options : Options) (log : List Effect) :
    main env errorText options [] log = .error (.systemExit 2)
      (log ++ [.stderr (errorText usage (ascii "at least one RAW file must be specified"))]) ∧
    (env.WritesSucceed → ∀ args, args ≠ [] →
      main env errorText options args log =
        match batch (args.map (rawImageOutcome env options.destination options.browser)) with
        | (effects, none) => .ok () (log ++ effects)
        | (effects, some e) => .error (.error e) (log ++ effects)) :=
  ⟨demoMain_nil .., fun hwrite _ hargs => demoMain_of_writesSucceed usage errorText log hwrite
    (fun _ => extractRawImage_eq_perform ..) hargs⟩

/-- `cfa.py duck.cr2 bad.cr2 duck.cr2`: the first file is written, the second raises, and
the third is never reached. -/
theorem sample_raw_main_stops_at_bad_file :
    main sampleRawEnv (fun usage msg => usage ++ ascii ": error: " ++ msg)
        ⟨false, ascii "."⟩ [] [] =
      .error (.systemExit 2) [.stderr (usage ++ ascii ": error: " ++
        ascii "at least one RAW file must be specified")] ∧
    main sampleRawEnv (fun usage msg => usage ++ ascii ": error: " ++ msg) ⟨false, ascii "."⟩
        [ascii "duck.cr2", ascii "bad.cr2", ascii "duck.cr2"] [] =
      .error (.error ⟨some (.other 9)⟩) [.writeFile (ascii "./duck.pgm")
        (header (ascii "P5") 3944 2622 16383 [7, 7])] :=
  ⟨(main_extracts_raw_data_until_first_error sampleRawEnv _ _ []).1,
    ((main_extracts_raw_data_until_first_error sampleRawEnv _ _ []).2 (fun _ _ => rfl) _
      (by decide)).trans rfl⟩

theorem main_writes_raw_images_of_arguments {env : Env} (hwrite : env.WritesSucceed)
    (errorText : Bytes → Bytes → Bytes) (options : Options) (log : List Effect)
    {args : List Bytes} (hargs : args ≠ []) :
    ∃ effects,
      (main env errorText options args log = .ok () (log ++ effects) ∨
        ∃ e, main env errorText options args log = .error (.error e) (log ++ effects)) ∧
      (∀ text, .stderr text ∉ effects) ∧ OpensWritten effects ∧
      ShowsWrites options.browser effects ∧
      ∀ path contents, .writeFile path contents ∈ effects →
        ∃ rawFile ∈ args, ∃ rawfile, env.engine.newRawFile rawFile .unknown = some rawfile ∧
          (rawfile.getRawData orOptionsNone).1 = .none ∧
          path = imagePath env rawFile options.destination ∧
          parsePnm contents = some ⟨ascii "P5", (rawfile.getRawData orOptionsNone).2.x,
            (rawfile.getRawData orOptionsNone).2.y,
            2 ^ (rawfile.getRawData orOptionsNone).2.bpc - 1,
            (rawfile.getRawData orOptionsNone).2.data⟩ := by
  obtain ⟨effects, hrun, hopens, hshows, hall⟩ := demoMain_output usage errorText log hwrite
    (fun _ => extractRawImage_eq_perform ..) _ hargs fun _ _ hout => rawImageOutcome_output hout
  refine ⟨effects, hrun, fun text hmem => ?_, hopens, hshows, fun path contents hmem => ?_⟩
  · obtain ⟨rawFile, -, hstderr, -⟩ := hall _ hmem
    exact hstderr text rfl
  · obtain ⟨rawFile, hrawFile, -, hfile⟩ := hall _ hmem
    exact ⟨rawFile, hrawFile, hfile path contents rfl⟩

theorem sample_raw_main_writes_images :
    sampleRawEnv.WritesSucceed ∧ [ascii "duck.cr2", ascii "bad.cr2"] ≠ [] ∧
    ∃ effects,
      (main sampleRawEnv (fun usage msg => usage ++ msg) ⟨true, ascii "."⟩
          [ascii "duck.cr2", ascii "bad.cr2"] [] = .ok () ([] ++ effects) ∨
        ∃ e, main sampleRawEnv (fun usage msg => usage ++ msg) ⟨true, ascii "."⟩
          [ascii "duck.cr2", ascii "bad.cr2"] [] = .error (.error e) ([] ++ effects)) ∧
      (∀ text, .stderr text ∉ effects) ∧ OpensWritten effects ∧ ShowsWrites true effects ∧
      ∀ path contents, .writeFile path contents ∈ effects →
        ∃ rawFile ∈ [ascii "duck.cr2", ascii "bad.cr2"], ∃ rawfile,
          sampleRawEnv.engine.newRawFile rawFile .unknown = some rawfile ∧
          (rawfile.getRawData orOptionsNone).1 = .none ∧
          path = imagePath sampleRawEnv rawFile (ascii ".") ∧
          parsePnm contents = some ⟨ascii "P5", (rawfile.getRawData orOptionsNone).2.x,
            (rawfile.getRawData orOptionsNone).2.y,
            2 ^ (rawfile.getRawData orOptionsNone).2.bpc - 1,
            (rawfile.getRawData orOptionsNone).2.data⟩ :=
  ⟨fun _ _ => rfl, by decide,
    main_writes_raw_images_of_arguments (fun _ _ => rfl) _ _ [] (by decide)⟩

end Cfa

end OpenRaw
