import OpenRaw.Facade

/-! # Scripts over the file system

The demo drivers write files, print to `stderr` and hand paths to a browser, and may raise
part way: `openraw.Error` from the engine, or `IOError` from a file they write. A `Script`
records every effect in order and, as Python does, keeps the effects performed before an
exception. What lies outside the sources is a parameter of `Env`: `os.path` and
`mimetypes` depend on the platform, and any `open`, `write` or `close` may fail, leaving a
truncated file behind. What one input should produce is written from the spec as a run of
effects, which may end in an `Error`; `perform` is that run through the file system, cut at
its first failed write, and each driver is proved to be `perform` of its run.
-/

namespace OpenRaw

inductive Effect
  /-- After `open(path, 'wb')` and its writes the file at `path` holds `contents`. -/
  | writeFile (path contents : Bytes)
  | stderr (text : Bytes)
  | openNew (url : Bytes)
  | openNewTab (url : Bytes)
  deriving DecidableEq, Repr

/-- What a script raises: an `openraw.Error`, or the `IOError` of a file it writes. -/
inductive Raised
  | error (e : Error)
  | ioError (path : Bytes)
  deriving DecidableEq, Repr

abbrev Script := EStateM Raised (List Effect)

def emit (effect : Effect) : Script Unit := modify (· ++ [effect])

def liftExcept {α : Type} : Except Error α → Script α
  | .ok a => pure a
  | .error e => throw (.error e)

/-- How `open`, the writes and `close` end; `failedAfter count` leaves `count` bytes. -/
inductive WriteOutcome
  | written
  | openFailed
  | failedAfter (count : Nat)
  deriving DecidableEq, Repr

structure Env where
  engine : Native.Engine
  basename : Bytes → Bytes
  splitext : Bytes → Bytes × Bytes
  join : Bytes → Bytes → Bytes
  abspath : Bytes → Bytes
  /-- `mimetypes.guess_extension(mime_type, strict=False)`; `none` is `None`. -/
  guessExtension : Bytes → Option Bytes
  writeOutcome : Bytes → Bytes → WriteOutcome

def Env.WritesSucceed (env : Env) : Prop :=
  ∀ path contents, env.writeOutcome path contents = .written

/-- One entry of a directory to `os.path.join`: no `/`, and not `''`, `.` or `..`. -/
def PlainName (name : Bytes) : Prop :=
  47 ∉ name ∧ name ≠ [] ∧ name ≠ ascii "." ∧ name ≠ ascii ".."

theorem plainName_of_mem {name : Bytes} (hslash : 47 ∉ name) (hdash : 45 ∈ name) :
    PlainName name := by
  refine ⟨hslash, ?_, ?_, ?_⟩ <;> rintro rfl <;> revert hdash <;> decide

/-- `f = open(path, 'wb')`, the writes of `contents`, then `f.close()`. -/
def writeToFile (env : Env) (path contents : Bytes) : Script Unit :=
  match env.writeOutcome path contents with
  | .written => emit (.writeFile path contents)
  | .openFailed => throw (.ioError path)
  | .failedAfter count => do
    emit (.writeFile path (contents.take count))
    throw (.ioError path)

/-! ## Running scripts -/

section Run

variable {α β : Type} {log : List Effect}

@[simp] theorem liftExcept_error_bind (e : Error) (k : α → Script β) :
    (liftExcept (.error e) >>= k) log = .error (.error e) log := rfl

@[simp] theorem liftExcept_ok_bind (a : α) (k : α → Script β) :
    (liftExcept (.ok a) >>= k) log = k a log := rfl

end Run

/-! ## Pages handed to the browser -/

def Effect.opened : Effect → Option Bytes
  | .openNew url | .openNewTab url => some url
  | .writeFile _ _ | .stderr _ => none

/-- Every page handed to the browser is a file written before it. -/
def OpensWritten (effects : List Effect) : Prop :=
  ∀ pre effect post url, effects = pre ++ effect :: post → effect.opened = some url →
    ∃ contents, .writeFile url contents ∈ pre

namespace OpensWritten

theorem of_forall_opened_eq_none {effects : List Effect}
    (h : ∀ effect ∈ effects, effect.opened = none) : OpensWritten effects := by
  rintro pre effect post url rfl hopened
  rw [h effect (List.mem_append_right _ (List.mem_cons_self _ _))] at hopened
  cases hopened

theorem writeFile_cons {url contents : Bytes} {rest : List Effect}
    (h : ∀ effect ∈ rest, effect.opened = none ∨ effect.opened = some url) :
    OpensWritten (.writeFile url contents :: rest) := by
  intro pre effect post url' heq hopened
  cases pre with
  | nil =>
    obtain ⟨rfl, -⟩ := List.cons.inj heq
    cases hopened
  | cons x pre =>
    obtain ⟨rfl, rfl⟩ := List.cons.inj heq
    rcases h effect (List.mem_append_right _ (List.mem_cons_self _ _)) with hnone | hsome
    · rw [hnone] at hopened
      cases hopened
    · rw [hsome] at hopened
      cases hopened
      exact ⟨contents, List.mem_cons_self _ _⟩

theorem append {l₁ l₂ : List Effect} (h₁ : OpensWritten l₁) (h₂ : OpensWritten l₂) :
    OpensWritten (l₁ ++ l₂) := by
  intro pre effect post url h hopened
  rcases List.append_eq_append_iff.mp h with ⟨middle, rfl, hl₂⟩ | ⟨middle, hl₁, hpost⟩
  · obtain ⟨contents, hmem⟩ := h₂ middle effect post url hl₂ hopened
    exact ⟨contents, List.mem_append_right _ hmem⟩
  · cases middle with
    | nil =>
      obtain ⟨contents, hmem⟩ := h₂ [] effect post url hpost.symm hopened
      exact absurd hmem (List.not_mem_nil _)
    | cons x middle =>
      obtain ⟨rfl, rfl⟩ := List.cons.inj hpost
      exact h₁ pre effect middle url hl₁ hopened

theorem flatten {ls : List (List Effect)} (h : ∀ l ∈ ls, OpensWritten l) :
    OpensWritten ls.flatten := by
  induction ls with
  | nil => exact of_forall_opened_eq_none (by simp)
  | cons l ls ih =>
    rw [List.forall_mem_cons] at h
    exact append h.1 (ih h.2)

end OpensWritten

def Effect.writtenPath : Effect → Option Bytes
  | .writeFile path _ => some path
  | .stderr _ | .openNew _ | .openNewTab _ => none

/-- With the flag the pages are the files written, in order; without it there are none. -/
def ShowsWrites (browser : Bool) (effects : List Effect) : Prop :=
  effects.filterMap Effect.opened = if browser then effects.filterMap Effect.writtenPath else []

namespace ShowsWrites

theorem writeFile_cons {browser : Bool} {path contents : Bytes} {page : Effect}
    (hpage : page.opened = some path) (hwritten : page.writtenPath = none) :
    ShowsWrites browser (.writeFile path contents :: if browser then [page] else []) := by
  cases page <;> cases browser <;> simp_all [ShowsWrites, Effect.opened, Effect.writtenPath]

theorem flatten {browser : Bool} {ls : List (List Effect)}
    (h : ∀ l ∈ ls, ShowsWrites browser l) :
    ShowsWrites browser ls.flatten := by
  induction ls with
  | nil => cases browser <;> rfl
  | cons l ls ih =>
    rw [List.forall_mem_cons] at h
    have hl : ShowsWrites browser l := h.1
    have hls : ShowsWrites browser ls.flatten := ih h.2
    unfold ShowsWrites at hl hls ⊢
    rw [List.flatten_cons, List.filterMap_append, List.filterMap_append, hl, hls]
    cases browser <;> rfl

end ShowsWrites

/-! ## Files as units, and batches of them -/

/-- Units run in order until the first one raises. -/
def batch : List (Except Error (List Effect)) → List Effect × Option Error
  | [] => ([], none)
  | .ok effects :: rest => (effects ++ (batch rest).1, (batch rest).2)
  | .error e :: _ => ([], some e)

/-- One unit's outcome as a run: its effects, then the error it raises. -/
def runOf : Except Error (List Effect) → List Effect × Option Error
  | .ok effects => (effects, none)
  | .error e => ([], some e)

theorem batch_map_ok {α : Type} (effects : α → List Effect) (xs : List α) :
    batch (xs.map fun x => .ok (effects x)) = ((xs.map effects).flatten, none) := by
  induction xs with
  | nil => rfl
  | cons x xs ih => simp [batch, ih]

theorem batch_fst_eq_flatten (outcomes : List (Except Error (List Effect))) :
    ∃ done : List (List Effect), (batch outcomes).1 = done.flatten ∧
      ∀ effects ∈ done, .ok effects ∈ outcomes := by
  induction outcomes with
  | nil => exact ⟨[], rfl, by simp⟩
  | cons outcome rest ih =>
    cases outcome with
    | error e => exact ⟨[], rfl, by simp⟩
    | ok effects =>
      obtain ⟨done, hdone, hmem⟩ := ih
      refine ⟨effects :: done, by simp [batch, hdone], ?_⟩
      rw [List.forall_mem_cons]
      exact ⟨List.mem_cons_self _ _, fun e he => List.mem_cons_of_mem _ (hmem e he)⟩

/-! ## Runs through the file system -/

/-- What the file system leaves of one effect, and the path of a write that fails. -/
def throughWrite (env : Env) : Effect → List Effect × Option Bytes
  | .writeFile path contents =>
    match env.writeOutcome path contents with
    | .written => ([.writeFile path contents], none)
    | .openFailed => ([], some path)
    | .failedAfter count => ([.writeFile path (contents.take count)], some path)
  | effect => ([effect], none)

def throughWrites (env : Env) : List Effect → List Effect × Option Bytes
  | [] => ([], none)
  | effect :: rest =>
    match throughWrite env effect with
    | (kept, none) => (kept ++ (throughWrites env rest).1, (throughWrites env rest).2)
    | (kept, some path) => (kept, some path)

/-- A run in `env`: its effects through the file system, ended by the first failed write's
`IOError`, or else as the run ends. -/
def perform (env : Env) (run : List Effect × Option Error) : Script Unit := fun log =>
  match throughWrites env run.1, run.2 with
  | (kept, some path), _ => .error (.ioError path) (log ++ kept)
  | (kept, none), none => .ok () (log ++ kept)
  | (kept, none), some e => .error (.error e) (log ++ kept)

def WritesSucceedOn (env : Env) (effects : List Effect) : Prop :=
  ∀ path contents, .writeFile path contents ∈ effects →
    env.writeOutcome path contents = .written

/-- A write that fails leaves nothing when `open` raised, else the bytes written before. -/
def FailedWrite (env : Env) (path contents : Bytes) (kept : List Effect) : Prop :=
  env.writeOutcome path contents = .openFailed ∧ kept = [] ∨
    ∃ count, env.writeOutcome path contents = .failedAfter count ∧
      kept = [.writeFile path (contents.take count)]

section Perform

variable {env : Env}

theorem WritesSucceedOn.nil : WritesSucceedOn env [] := fun _ _ h => absurd h (List.not_mem_nil _)

theorem WritesSucceedOn.cons {effect : Effect} {rest : List Effect}
    (hok : ∀ path contents, effect = .writeFile path contents →
      env.writeOutcome path contents = .written)
    (hrest : WritesSucceedOn env rest) : WritesSucceedOn env (effect :: rest) :=
  fun path contents hmem =>
    (List.mem_cons.mp hmem).elim (fun h => hok path contents h.symm) (hrest _ _)

theorem throughWrite_cases (effect : Effect) :
    ((∀ path contents, effect = .writeFile path contents →
        env.writeOutcome path contents = .written) ∧
      throughWrite env effect = ([effect], none)) ∨
    ∃ path contents kept, effect = .writeFile path contents ∧
      FailedWrite env path contents kept ∧ throughWrite env effect = (kept, some path) := by
  cases effect with
  | writeFile path contents =>
    cases hwrite : env.writeOutcome path contents with
    | written => exact .inl ⟨by rintro _ _ ⟨⟩; exact hwrite, by simp [throughWrite, hwrite]⟩
    | openFailed =>
      exact .inr ⟨_, _, _, rfl, .inl ⟨hwrite, rfl⟩, by simp [throughWrite, hwrite]⟩
    | failedAfter count =>
      exact .inr ⟨_, _, _, rfl, .inr ⟨count, hwrite, rfl⟩, by simp [throughWrite, hwrite]⟩
  | _ => exact .inl ⟨fun _ _ => Effect.noConfusion, rfl⟩

theorem throughWrites_cases (effects : List Effect) :
    (WritesSucceedOn env effects ∧ throughWrites env effects = (effects, none)) ∨
    ∃ pre path contents post kept, effects = pre ++ .writeFile path contents :: post ∧
      WritesSucceedOn env pre ∧ FailedWrite env path contents kept ∧
      throughWrites env effects = (pre ++ kept, some path) := by
  induction effects with
  | nil => exact .inl ⟨.nil, rfl⟩
  | cons effect rest ih =>
    rcases @throughWrite_cases env effect with ⟨hok, hkept⟩ |
      ⟨path, contents, kept, rfl, hfail, hkept⟩
    · rcases ih with ⟨hall, hrest⟩ |
        ⟨pre, path, contents, post, kept, rfl, hpre, hfail, hrest⟩
      · exact .inl ⟨.cons hok hall, by simp [throughWrites, hkept, hrest]⟩
      · exact .inr ⟨effect :: pre, path, contents, post, kept, rfl, .cons hok hpre, hfail,
          by simp [throughWrites, hkept, hrest]⟩
    · exact .inr ⟨[], path, contents, rest, kept, rfl, .nil, hfail,
        by simp [throughWrites, hkept]⟩

theorem throughWrites_of_writesSucceedOn {effects : List Effect}
    (h : WritesSucceedOn env effects) : throughWrites env effects = (effects, none) := by
  rcases throughWrites_cases effects with ⟨-, hthrough⟩ |
    ⟨pre, path, contents, post, kept, rfl, -, hfail, -⟩
  · exact hthrough
  · have hwritten := h path contents (List.mem_append_right _ (List.mem_cons_self _ _))
    rcases hfail with ⟨hfailed, -⟩ | ⟨count, hfailed, -⟩ <;> rw [hwritten] at hfailed <;>
      cases hfailed

theorem throughWrites_append (a b : List Effect) :
    throughWrites env (a ++ b) =
      match throughWrites env a with
      | (kept, none) => (kept ++ (throughWrites env b).1, (throughWrites env b).2)
      | (kept, some path) => (kept, some path) := by
  induction a with
  | nil => rfl
  | cons effect a ih =>
    simp only [List.cons_append, throughWrites, List.append_eq]
    rcases throughWrite env effect with ⟨kept, _ | path⟩
    · simp only [ih]
      rcases throughWrites env a with ⟨kept', _ | path'⟩ <;> simp
    · rfl

theorem perform_of_writesSucceed (hwrite : env.WritesSucceed) (run : List Effect × Option Error)
    (log : List Effect) :
    perform env run log = match run with
      | (effects, none) => .ok () (log ++ effects)
      | (effects, some e) => .error (.error e) (log ++ effects) := by
  rcases run with ⟨effects, _ | e⟩ <;>
    simp only [perform, throughWrites_of_writesSucceedOn fun _ _ _ => hwrite _ _]

theorem perform_runOf_error (e : Error) (log : List Effect) :
    perform env (runOf (.error e)) log = .error (.error e) log := by
  simp [perform, runOf, throughWrites]

theorem pure_eq_perform : (pure () : Script Unit) = perform env ([], none) := by
  funext log
  simp [perform, throughWrites]
  rfl

theorem emit_eq_perform {effect : Effect} (h : effect.writtenPath = none) :
    emit effect = perform env ([effect], none) := by
  funext log
  cases effect <;> first | rfl | cases h

theorem writeToFile_eq_perform (path contents : Bytes) :
    writeToFile env path contents = perform env ([.writeFile path contents], none) := by
  funext log
  simp only [writeToFile, perform, throughWrites, throughWrite]
  cases env.writeOutcome path contents <;> simp <;> rfl

theorem perform_bind (effects : List Effect) (run : List Effect × Option Error) :
    (perform env (effects, none) >>= fun _ => perform env run) =
      perform env (effects ++ run.1, run.2) := by
  funext log
  show EStateM.bind _ _ log = _
  simp only [EStateM.bind, perform, throughWrites_append]
  rcases throughWrites env effects with ⟨kept, _ | path⟩ <;>
    rcases throughWrites env run.1 with ⟨kept', _ | path'⟩ <;>
    rcases run.2 with _ | e <;> simp

theorem perform_error_bind (effects : List Effect) (e : Error) (k : Unit → Script Unit) :
    (perform env (effects, some e) >>= k) = perform env (effects, some e) := by
  funext log
  show EStateM.bind _ _ log = _
  simp only [EStateM.bind, perform]
  rcases throughWrites env effects with ⟨kept, _ | path⟩ <;> rfl

theorem writeToFile_then_eq_perform (path contents : Bytes) (page : Effect)
    (hpage : page.writtenPath = none) (browser : Bool) :
    (writeToFile env path contents >>= fun _ => if browser then emit page else pure ()) =
      perform env (.writeFile path contents :: if browser then [page] else [], none) := by
  rw [writeToFile_eq_perform]
  cases browser
  · rw [if_neg Bool.false_ne_true, pure_eq_perform, perform_bind]
    rfl
  · rw [if_pos rfl, emit_eq_perform hpage, perform_bind]
    rfl

theorem forM_eq_perform {α : Type} {f : α → Script Unit}
    {outcome : α → Except Error (List Effect)} {xs : List α}
    (h : ∀ x ∈ xs, f x = perform env (runOf (outcome x))) :
    xs.forM f = perform env (batch (xs.map outcome)) := by
  induction xs with
  | nil => exact pure_eq_perform
  | cons x xs ih =>
    rw [List.forall_mem_cons] at h
    show (f x >>= fun _ => xs.forM f) = _
    rw [h.1, ih h.2, List.map_cons]
    cases outcome x with
    | ok effects => exact perform_bind effects _
    | error e => exact perform_error_bind [] e _

theorem forM_eq_perform_ok {α : Type} {f : α → Script Unit} {effects : α → List Effect}
    {xs : List α} (h : ∀ x ∈ xs, f x = perform env (effects x, none)) :
    xs.forM f = perform env ((xs.map effects).flatten, none) := by
  rw [@forM_eq_perform _ _ _ (fun x => .ok (effects x)) _ h, batch_map_ok]

end Perform

/-! ## The process around `main` -/

inductive Uncaught
  | error (e : Error)
  | ioError (path : Bytes)
  | systemExit (status : Nat)
  deriving DecidableEq, Repr

abbrev Process := EStateM Uncaught (List Effect)

def Script.toProcess {α : Type} (m : Script α) : Process α := fun log =>
  match m log with
  | .ok a log => .ok a log
  | .error (.error e) log => .error (.error e) log
  | .error (.ioError path) log => .error (.ioError path) log

structure Options where
  browser : Bool
  destination : Bytes

/-- `parser.error(msg)`: prints `errorText usage msg` and raises `SystemExit(2)`. -/
def parserError (errorText : Bytes → Bytes → Bytes) (usage msg : Bytes) : Process Unit := do
  (emit (.stderr (errorText usage msg))).toProcess
  throw (.systemExit 2)

theorem parserError_run (errorText : Bytes → Bytes → Bytes) (usage msg : Bytes)
    (log : List Effect) :
    parserError errorText usage msg log =
      .error (.systemExit 2) (log ++ [.stderr (errorText usage msg)]) := rfl

/-- `main` of either demo once `parser.parse_args()` has returned. -/
def demoMain (usage : Bytes) (extract : Bytes → Script Unit)
    (errorText : Bytes → Bytes → Bytes) (args : List Bytes) : Process Unit := do
  if args.isEmpty then
    parserError errorText usage (ascii "at least one RAW file must be specified")
  (args.forM extract).toProcess

section Main

variable (usage : Bytes) (errorText : Bytes → Bytes → Bytes) (log : List Effect) {env : Env}
  {extract : Bytes → Script Unit} {outcome : Bytes → Except Error (List Effect)}

theorem demoMain_nil (extract : Bytes → Script Unit) :
    demoMain usage extract errorText [] log = .error (.systemExit 2)
      (log ++ [.stderr (errorText usage (ascii "at least one RAW file must be specified"))]) :=
  parserError_run ..

theorem demoMain_eq_perform
    (hextract : ∀ rawFile, extract rawFile = perform env (runOf (outcome rawFile)))
    {args : List Bytes} (hargs : args ≠ []) :
    demoMain usage extract errorText args log =
      (perform env (batch (args.map outcome))).toProcess log := by
  simp only [demoMain, List.isEmpty_eq_false.mpr hargs, Bool.false_eq_true, if_false, pure_bind]
  rw [forM_eq_perform fun rawFile _ => hextract rawFile]

theorem demoMain_of_writesSucceed (hwrite : env.WritesSucceed)
    (hextract : ∀ rawFile, extract rawFile = perform env (runOf (outcome rawFile)))
    {args : List Bytes} (hargs : args ≠ []) :
    demoMain usage extract errorText args log =
      match batch (args.map outcome) with
      | (effects, none) => .ok () (log ++ effects)
      | (effects, some e) => .error (.error e) (log ++ effects) := by
  rw [demoMain_eq_perform usage errorText log hextract hargs]
  simp only [Script.toProcess, perform_of_writesSucceed hwrite]
  rcases batch (args.map outcome) with ⟨effects, _ | e⟩ <;> rfl

/-- What holds of each completed file's output holds of the whole run's. -/
theorem demoMain_output {browser : Bool} (hwrite : env.WritesSucceed)
    (hextract : ∀ rawFile, extract rawFile = perform env (runOf (outcome rawFile)))
    (Q : Bytes → Effect → Prop) {args : List Bytes} (hargs : args ≠ [])
    (hfile : ∀ rawFile effects, outcome rawFile = .ok effects →
      OpensWritten effects ∧ ShowsWrites browser effects ∧
        ∀ effect ∈ effects, Q rawFile effect) :
    ∃ effects,
      (demoMain usage extract errorText args log = .ok () (log ++ effects) ∨
        ∃ e, demoMain usage extract errorText args log = .error (.error e) (log ++ effects)) ∧
      OpensWritten effects ∧ ShowsWrites browser effects ∧
      ∀ effect ∈ effects, ∃ rawFile ∈ args, Q rawFile effect := by
  obtain ⟨done, hdone, hmem⟩ := batch_fst_eq_flatten (args.map outcome)
  have hunit : ∀ l ∈ done, ∃ rawFile ∈ args, outcome rawFile = .ok l :=
    fun l hl => List.mem_map.mp (hmem l hl)
  refine ⟨done.flatten, ?_, OpensWritten.flatten fun l hl => ?_,
    ShowsWrites.flatten fun l hl => ?_, fun effect heffect => ?_⟩
  · rw [demoMain_of_writesSucceed usage errorText log hwrite hextract hargs]
    rcases hb : batch (args.map outcome) with ⟨effects, _ | e⟩ <;>
      simp only [hb] at hdone <;> subst hdone
    · exact .inl rfl
    · exact .inr ⟨e, rfl⟩
  · obtain ⟨rawFile, -, hout⟩ := hunit l hl
    exact (hfile rawFile l hout).1
  · obtain ⟨rawFile, -, hout⟩ := hunit l hl
    exact (hfile rawFile l hout).2.1
  · obtain ⟨l, hl, heffect⟩ := List.mem_flatten.mp heffect
    obtain ⟨rawFile, hrawFile, hout⟩ := hunit l hl
    exact ⟨rawFile, hrawFile, (hfile rawFile l hout).2.2 effect heffect⟩

end Main

end OpenRaw
