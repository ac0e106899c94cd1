import Mathlib.Logic.Function.Basic
import Surface.Text
import Surface.Trace

/-!
# Surface.Cli.DefaultHtml

The default HTML files of any number of calls at the same time.

* `WriterPhase`, `advance`: one call between two requests to the operating system.
* `Disk`: the files, by what a path resolves to, so that two spellings may mean one file.
* `Separate`: the invariant; `defaultHtml_separate`: every schedule of the calls keeps it.
-/

namespace Surface

def joinPath (directory name : String) : String :=
  if hasStart "/" name then name
  else if directory = "" ∨ directory.toList.getLast? = some '/' then directory ++ name
  else directory ++ "/" ++ name

def defaultHtmlPathForSuffix (directory stem date : String) (suffix : Nat) : String :=
  let suffix := if suffix = 0 then "" else "-" ++ toString (suffix + 1)
  joinPath directory (stem ++ "-" ++ date ++ suffix ++ ".html")

/-- The arguments of a call. -/
structure HtmlCall where
  directory : String
  stem : String
  date : String
  rendered : String

def HtmlCall.path (call : HtmlCall) (suffix : Nat) : String :=
  defaultHtmlPathForSuffix call.directory call.stem call.date suffix

def HtmlCall.bytes (call : HtmlCall) : List UInt8 := utf8Bytes call.rendered

/-- The request a call waits for. -/
inductive WriterPhase where
  | opening (suffix : Nat)
  | writing (path : String) (written : Nat)
  | removing (path error : String)
  | returned (path : String)
  | failed (message : String)
deriving DecidableEq

/-- The file a call has created and not given up. -/
def WriterPhase.path? : WriterPhase → Option String
  | .writing path _ => some path
  | .removing path _ => some path
  | .returned path => some path
  | _ => none

/-- What the operating system answers: the request is carried out, a write for at most so many
bytes; or it fails for a reason of its own. -/
inductive Answer where
  | performed (limit : Nat)
  | error (message : String)

section Writers

variable {ι ω : Type} [DecidableEq ι] [DecidableEq ω] (resolve : String → ι) (calls : ω → HtmlCall)

/-- The content of a file after a write at a position of it. -/
def writeAt (content : List UInt8) (position : Nat) (bytes : List UInt8) : List UInt8 :=
  content.take position ++ bytes ++ content.drop (position + bytes.length)

abbrev Files (ι : Type) := ι → Option (List UInt8)

/-- One request of a call, answered, and what the call does next. -/
def advance (call : HtmlCall) (files : Files ι) (phase : WriterPhase) (answer : Answer) :
    Files ι × WriterPhase :=
  match phase, answer with
  | .opening suffix, .performed _ =>
    let path := call.path suffix
    -- `create_new` looks and creates in one step; a path that is taken is passed over
    match files (resolve path) with
    | none => (Function.update files (resolve path) (some []), .writing path 0)
    | some _ => (files, .opening (suffix + 1))
  | .opening suffix, .error error =>
    (files, .failed s!"could not create '{call.path suffix}': {error}")
  | .writing path written, .performed limit =>
    if call.bytes.length ≤ written then (files, .returned path)
    else
      let chunk := (call.bytes.drop written).take limit
      (Function.update files (resolve path)
        ((files (resolve path)).map fun content => writeAt content written chunk),
        .writing path (written + chunk.length))
  | .writing path _, .error error => (files, .removing path error)
  | .removing path error, .performed _ =>
    (Function.update files (resolve path) none, .failed s!"could not write '{path}': {error}")
  | .removing path error, .error _ => (files, .failed s!"could not write '{path}': {error}")
  | .returned path, _ => (files, .returned path)
  | .failed message, _ => (files, .failed message)

structure Disk (ι ω : Type) where
  files : Files ι
  phases : ω → WriterPhase

/-- A turn of one call. -/
def turn (entry : ω × Answer) (disk : Disk ι ω) : Disk ι ω :=
  let next := advance resolve (calls entry.1) disk.files (disk.phases entry.1) entry.2
  ⟨next.1, Function.update disk.phases entry.1 next.2⟩

/-- All calls begin on the files that are there. -/
def Disk.start (before : Files ι) : Disk ι ω := ⟨before, fun _ => .opening 0⟩

/-! ## The invariant -/

/-- The file of a call says what the call has written. -/
def Holds (call : HtmlCall) (files : Files ι) : WriterPhase → Prop
  | .writing path written =>
    written ≤ call.bytes.length ∧ files (resolve path) = some (call.bytes.take written)
  | .removing path _ => files (resolve path) ≠ none
  | .returned path => files (resolve path) = some call.bytes
  | _ => True

/-- The files of the calls are new, they are different files, and each is the work of its call;
the other files are as they were. -/
structure Separate (before : Files ι) (disk : Disk ι ω) : Prop where
  frame : ∀ file, before file ≠ none → disk.files file = before file
  named : ∀ writer path, (disk.phases writer).path? = some path →
    before (resolve path) = none ∧ ∃ suffix, path = (calls writer).path suffix
  holds : ∀ writer, Holds resolve (calls writer) disk.files (disk.phases writer)
  distinct : ∀ writer other path path', writer ≠ other →
    (disk.phases writer).path? = some path → (disk.phases other).path? = some path' →
      resolve path ≠ resolve path'

variable {resolve calls}

omit [DecidableEq ι] [DecidableEq ω] in
theorem separate_start (before : Files ι) :
    Separate resolve calls before (.start before : Disk ι ω) where
  frame _ _ := rfl
  named _ _ := nofun
  holds _ := trivial
  distinct _ _ _ _ _ := nofun

/-! ## One turn -/

/-- A turn creates a file at a free path, or it touches only the file its call has. -/
theorem advance_cases (call : HtmlCall) (files : Files ι) (phase : WriterPhase) (answer : Answer) :
    (∃ suffix, files (resolve (call.path suffix)) = none ∧
      advance resolve call files phase answer =
        (Function.update files (resolve (call.path suffix)) (some []),
          .writing (call.path suffix) 0)) ∨
    ((∀ file, (∀ path, phase.path? = some path → resolve path ≠ file) →
        (advance resolve call files phase answer).1 file = files file) ∧
      ((advance resolve call files phase answer).2.path? = none ∨
        (advance resolve call files phase answer).2.path? = phase.path?)) := by
  cases phase with
  | opening suffix =>
    cases answer with
    | error error => exact .inr ⟨fun _ _ => rfl, .inl rfl⟩
    | performed limit =>
      cases hfile : files (resolve (call.path suffix)) with
      | none => exact .inl ⟨suffix, hfile, by simp only [advance, hfile]⟩
      | some content =>
        have hnext : advance resolve call files (.opening suffix) (.performed limit) =
            (files, .opening (suffix + 1)) := by simp only [advance, hfile]
        rw [hnext]
        exact .inr ⟨fun _ _ => rfl, .inl rfl⟩
  | writing path written =>
    refine .inr ?_
    cases answer with
    | error error => exact ⟨fun _ _ => rfl, .inr rfl⟩
    | performed limit =>
      simp only [advance]
      split
      · exact ⟨fun _ _ => rfl, .inr rfl⟩
      · exact ⟨fun file hfile => Function.update_of_ne (hfile path rfl).symm _ _, .inr rfl⟩
  | removing path error =>
    refine .inr ?_
    cases answer with
    | error error => exact ⟨fun _ _ => rfl, .inl rfl⟩
    | performed limit =>
      exact ⟨fun file hfile => Function.update_of_ne (hfile path rfl).symm _ _, .inl rfl⟩
  | returned path => exact .inr ⟨fun _ _ => rfl, .inr rfl⟩
  | failed message => exact .inr ⟨fun _ _ => rfl, .inr rfl⟩

/-- A write behind what has been written goes on with the text. -/
theorem writeAt_take (bytes : List UInt8) {written : Nat} (h : written ≤ bytes.length)
    (limit : Nat) :
    writeAt (bytes.take written) written ((bytes.drop written).take limit) =
      bytes.take (written + ((bytes.drop written).take limit).length) := by
  have hlength : (bytes.take written).length = written := List.length_take_of_le h
  have hdrop : (bytes.take written).drop (written + ((bytes.drop written).take limit).length) = [] :=
    List.drop_eq_nil_of_le (by omega)
  rw [writeAt, hdrop, List.append_nil, List.take_take, Nat.min_self, List.take_add,
    List.length_take, ← List.take_eq_take_min]

theorem holds_advance {call : HtmlCall} {files : Files ι} {phase : WriterPhase} {answer : Answer}
    (h : Holds resolve call files phase) :
    Holds resolve call (advance resolve call files phase answer).1
      (advance resolve call files phase answer).2 := by
  cases phase with
  | opening suffix =>
    cases answer with
    | error error => trivial
    | performed limit =>
      cases hfile : files (resolve (call.path suffix)) with
      | none =>
        simp only [advance, hfile]
        exact ⟨Nat.zero_le _, by rw [Function.update_self, List.take_zero]⟩
      | some content =>
        simp only [advance, hfile]
        trivial
  | writing path written =>
    obtain ⟨hle, hfile⟩ := h
    cases answer with
    | error error =>
      show files (resolve path) ≠ none
      rw [hfile]
      nofun
    | performed limit =>
      simp only [advance]
      split
      · next hall =>
        show files (resolve path) = some call.bytes
        rw [hfile, List.take_of_length_le hall]
      · refine ⟨?_, ?_⟩
        · rw [List.length_take, List.length_drop]
          omega
        · simp only [Function.update_self, hfile, Option.map_some, writeAt_take call.bytes hle]
  | removing path error => cases answer <;> trivial
  | returned path => exact h
  | failed message => trivial

omit [DecidableEq ι] in
/-- A file that a call has is there. -/
theorem Holds.exists_file {call : HtmlCall} {files : Files ι} {phase : WriterPhase} {path : String}
    (h : Holds resolve call files phase) (hpath : phase.path? = some path) :
    files (resolve path) ≠ none := by
  cases phase with
  | opening suffix => cases hpath
  | writing path written =>
    cases hpath
    rw [h.2]
    nofun
  | removing path error =>
    cases hpath
    exact h
  | returned path =>
    cases hpath
    have hfile : files (resolve path) = some call.bytes := h
    rw [hfile]
    nofun
  | failed message => cases hpath

omit [DecidableEq ι] in
/-- What a call has written depends on its own file only. -/
theorem Holds.congr {call : HtmlCall} {files files' : Files ι} {phase : WriterPhase}
    (h : Holds resolve call files phase)
    (hfiles : ∀ path, phase.path? = some path → files' (resolve path) = files (resolve path)) :
    Holds resolve call files' phase := by
  cases phase with
  | opening suffix => trivial
  | writing path written => exact ⟨h.1, (hfiles path rfl).trans h.2⟩
  | removing path error =>
    show files' (resolve path) ≠ none
    rw [hfiles path rfl]
    exact h
  | returned path => exact (hfiles path rfl).trans h
  | failed message => trivial

/-- The file touched is a new one, or the one the call already has. -/
theorem advance_file {call : HtmlCall} {files : Files ι} {phase : WriterPhase} {answer : Answer}
    {file : ι} (hown : ∀ path, phase.path? = some path → resolve path ≠ file)
    (htaken : files file ≠ none) :
    (advance resolve call files phase answer).1 file = files file := by
  rcases advance_cases call files phase answer with ⟨suffix, hfree, hnext⟩ | ⟨hkeep, _⟩
  · rw [hnext]
    refine Function.update_of_ne (fun heq => htaken ?_) _ _
    rw [heq]
    exact hfree
  · exact hkeep file hown

/-- The path of a call is a new one at a free place, or the one it had. -/
theorem advance_path {call : HtmlCall} {files : Files ι} {phase : WriterPhase} {answer : Answer}
    {path : String}
    (hpath : (advance resolve call files phase answer).2.path? = some path) :
    (files (resolve path) = none ∧ ∃ suffix, path = call.path suffix) ∨
      phase.path? = some path := by
  rcases advance_cases call files phase answer with
    ⟨suffix, hfree, hnext⟩ | ⟨_, hnone | hsame⟩
  · rw [hnext] at hpath
    cases hpath
    exact .inl ⟨hfree, suffix, rfl⟩
  · cases hnone.symm.trans hpath
  · exact .inr (hsame ▸ hpath)

/-! ## Every turn -/

theorem Separate.turn {before : Files ι} {disk : Disk ι ω} (h : Separate resolve calls before disk)
    (entry : ω × Answer) : Separate resolve calls before (turn resolve calls entry disk) := by
  obtain ⟨writer, answer⟩ := entry
  have hself : (Surface.turn resolve calls (writer, answer) disk).phases writer =
      (advance resolve (calls writer) disk.files (disk.phases writer) answer).2 :=
    Function.update_self ..
  have hother : ∀ other, other ≠ writer →
      (Surface.turn resolve calls (writer, answer) disk).phases other = disk.phases other :=
    fun other hne => Function.update_of_ne hne ..
  have hfile : ∀ file, (∀ path, (disk.phases writer).path? = some path → resolve path ≠ file) →
      disk.files file ≠ none →
        (Surface.turn resolve calls (writer, answer) disk).files file = disk.files file :=
    fun _ => advance_file
  have hapart : ∀ other path path', other ≠ writer →
      (advance resolve (calls writer) disk.files (disk.phases writer) answer).2.path? = some path →
        (disk.phases other).path? = some path' → resolve path ≠ resolve path' := by
    intro other path path' hne hnew hold
    rcases advance_path hnew with ⟨hfree, _⟩ | hown
    · exact fun heq => (h.holds other).exists_file hold (heq ▸ hfree)
    · exact h.distinct writer other path path' (Ne.symm hne) hown hold
  refine ⟨fun file hbefore => ?_, fun other path hown => ?_, fun other => ?_, ?_⟩
  · refine (hfile file (fun path hown heq => hbefore (heq ▸ (h.named writer path hown).1)) ?_).trans
      (h.frame file hbefore)
    rw [h.frame file hbefore]
    exact hbefore
  · by_cases hwriter : other = writer
    · subst hwriter
      rw [hself] at hown
      rcases advance_path hown with ⟨hfree, hsuffix⟩ | hold
      · refine ⟨?_, hsuffix⟩
        cases hcase : before (resolve path) with
        | none => rfl
        | some content =>
          have hframe := h.frame (resolve path) (by rw [hcase]; nofun)
          rw [hfree, hcase] at hframe
          cases hframe
      · exact h.named other path hold
    · rw [hother other hwriter] at hown
      exact h.named other path hown
  · by_cases hwriter : other = writer
    · subst hwriter
      rw [hself]
      exact holds_advance (h.holds other)
    · rw [hother other hwriter]
      refine (h.holds other).congr fun path hown => hfile _ (fun path' hown' => ?_)
        ((h.holds other).exists_file hown)
      exact h.distinct writer other path' path (Ne.symm hwriter) hown' hown
  · intro one two path path' hne hone htwo
    by_cases hwriter : one = writer
    · subst hwriter
      rw [hself] at hone
      rw [hother two (Ne.symm hne)] at htwo
      exact hapart two path path' (Ne.symm hne) hone htwo
    · rw [hother one hwriter] at hone
      by_cases hwriter' : two = writer
      · subst hwriter'
        rw [hself] at htwo
        exact (hapart one path' path hne htwo hone).symm
      · rw [hother two hwriter'] at htwo
        exact h.distinct one two path path' hne hone htwo

end Writers

/-- On any files and for any schedule of any calls, in every state passed: two calls have returned
different paths, for different files; what was there before is untouched; and a returned path is
one of those of its call, was free, and holds exactly the text of the call. -/
theorem defaultHtml_separate {ι ω : Type} [DecidableEq ι] [DecidableEq ω] (resolve : String → ι)
    (calls : ω → HtmlCall) (before : Files ι) (schedule : List (ω × Answer)) :
    ∀ disk ∈ trace (turn resolve calls) schedule (.start before),
      (∀ writer other path path', writer ≠ other → disk.phases writer = .returned path →
        disk.phases other = .returned path' → path ≠ path' ∧ resolve path ≠ resolve path') ∧
      (∀ file content, before file = some content → disk.files file = some content) ∧
      ∀ writer path, disk.phases writer = .returned path →
        before (resolve path) = none ∧ disk.files (resolve path) = some (calls writer).bytes ∧
          ∃ suffix, path = (calls writer).path suffix := by
  intro disk hdisk
  have h : Separate resolve calls before disk :=
    trace_keeps (fun entry _ hinv => hinv.turn entry) (separate_start before) disk hdisk
  refine ⟨fun writer other path path' hne hone htwo => ?_, fun file content hfile => ?_,
    fun writer path hreturned => ?_⟩
  · have hresolve := h.distinct writer other path path' hne (by rw [hone]; rfl) (by rw [htwo]; rfl)
    exact ⟨fun heq => hresolve (congrArg resolve heq), hresolve⟩
  · rw [h.frame file (by rw [hfile]; nofun), hfile]
  · have hnamed := h.named writer path (by rw [hreturned]; rfl)
    have hholds := h.holds writer
    rw [hreturned] at hholds
    exact ⟨hnamed.1, hholds, hnamed.2⟩

/-! ## Two calls -/

def twoCalls (second : Bool) : HtmlCall :=
  ⟨".", "example.com", "2026-09-07", if second then "second" else "first"⟩

/-- The first call creates its file, the second one looks for another path; then both write. -/
def twoTurns : List (Bool × Answer) :=
  [(false, .performed 0), (true, .performed 0), (true, .performed 0), (true, .performed 4),
    (false, .performed 8), (true, .performed 8), (false, .performed 0), (true, .performed 0)]

def twoWritten : Disk String Bool :=
  twoTurns.foldl (fun disk entry => turn id twoCalls entry disk) (.start fun _ => none)

theorem defaultHtml_separate_two :
    twoWritten.files "./example.com-2026-09-07.html" = some (utf8Bytes "first") ∧
      twoWritten.files "./example.com-2026-09-07-2.html" = some (utf8Bytes "second") := by
  obtain ⟨_, _, hreturned⟩ := defaultHtml_separate id twoCalls (fun _ => none) twoTurns twoWritten
    (foldl_mem_trace _ _ _)
  have hfirst : twoWritten.phases false = .returned "./example.com-2026-09-07.html" := by decide
  have hsecond : twoWritten.phases true = .returned "./example.com-2026-09-07-2.html" := by decide
  exact ⟨(hreturned false _ hfirst).2.1, (hreturned true _ hsecond).2.1⟩

end Surface
