import Surface.Report.Format
import Surface.Storage.History

/-!
# Surface.Cli.ReportFile

Reports that leave the program and come back: a document loaded from a file, and the text that the
scan history keeps.

* `report_documents`: a rendered report is loaded as the report it was rendered from, up to the
  size limit, and what the history keeps is decoded to the report that was stored.
* `loaded_report_documents`: whatever is loaded can be rendered and loaded again.
* `document_members`: which members a document must have, and which do not matter.
-/

namespace Surface

def exitInvalidInput : Nat := 1

def exitScanFailed : Nat := 3

structure AppError where
  message : String
  exitCode : Nat
deriving DecidableEq

def maxReportBytes : Nat := 16 * 1024 * 1024

/-- The file's size and its content as the file system gives them, each with its own error, and
`complaint`, what the reader says about a document that is no report. -/
def loadReportFile (library : DocumentLibrary) (path : String) (metadata : Except String Nat)
    (content : Except String (List UInt8)) (complaint : List UInt8 → String) :
    Except AppError ScanReport :=
  match metadata with
  | .error error => .error ⟨"could not inspect '" ++ path ++ "': " ++ error, exitScanFailed⟩
  | .ok length =>
    if maxReportBytes < length then
      .error ⟨"report '" ++ path ++ "' exceeds 16 MiB", exitInvalidInput⟩
    else
      match content with
      | .error error => .error ⟨"could not read '" ++ path ++ "': " ++ error, exitScanFailed⟩
      | .ok bytes =>
        match readReport library bytes with
        | some report => .ok report
        | none =>
          .error ⟨"report '" ++ path ++ "' is invalid: " ++ complaint bytes, exitInvalidInput⟩

/-- What is in the file of a rendered report. -/
def documentBytes (library : DocumentLibrary) (report : ScanReport) : List UInt8 :=
  utf8Bytes (renderJson library report)

section Load

variable {library : DocumentLibrary} {report : ScanReport}

theorem loadReportFile_ok {path : String} {bytes : List UInt8}
    {complaint : List UInt8 → String} :
    loadReportFile library path (.ok bytes.length) (.ok bytes) complaint = .ok report ↔
      bytes.length ≤ maxReportBytes ∧ readReport library bytes = some report := by
  unfold loadReportFile
  simp only
  constructor
  · intro h
    split at h
    · cases h
    · rename_i hsize
      split at h
      · rename_i loaded hread
        rw [← Except.ok.inj h]
        exact ⟨Nat.le_of_not_lt hsize, hread⟩
      · cases h
  · rintro ⟨hsize, hread⟩
    rw [if_neg (Nat.not_lt.mpr hsize), hread]

/-- A rendered report is loaded as the report it was rendered from unless its document exceeds the
size limit, and the text kept by the history is decoded to the report that was stored. -/
theorem report_documents (library : DocumentLibrary) (report : ScanReport)
    (h : report.InRange library) (path : String) (complaint : List UInt8 → String)
    (reason : String → String) :
    loadReportFile library path (.ok (documentBytes library report).length)
        (.ok (documentBytes library report)) complaint =
      (if (documentBytes library report).length ≤ maxReportBytes then .ok report
      else .error ⟨"report '" ++ path ++ "' exceeds 16 MiB", exitInvalidInput⟩) ∧
      (library.reportCodec reason).toString report = .ok (storedJson library report) ∧
      (library.reportCodec reason).fromStr (storedJson library report) = .ok report := by
  have hstored : (library.reportCodec reason).toString report = .ok (storedJson library report) :=
    if_pos h
  refine ⟨?_, hstored, reportCodec_faithful library reason report _ hstored⟩
  split
  · rename_i hsize
    exact loadReportFile_ok.mpr ⟨hsize, readReport_renderJson h⟩
  · rename_i hsize
    rw [loadReportFile]
    exact if_pos (Nat.lt_of_not_le hsize)

/-- Whatever document is loaded, the report in it can be rendered, and what is rendered is read as
that report again, however often. -/
theorem loaded_report_documents (library : DocumentLibrary) (path : String) (bytes : List UInt8)
    (complaint : List UInt8 → String) (report : ScanReport)
    (h : loadReportFile library path (.ok bytes.length) (.ok bytes) complaint = .ok report) :
    readReport library (documentBytes library report) = some report ∧
      readText library (storedJson library report) = some report := by
  have hrange := readReport_inRange (loadReportFile_ok.mp h).2
  exact ⟨readReport_renderJson hrange, readText_storedJson hrange⟩

/-! ## Members -/

/-- The members that every document has. -/
def neededMembers : List String :=
  ["schema_version", "scanner_version", "scan_id", "started_at", "target", "configuration",
    "status", "hosts", "services", "http", "tls", "findings", "errors", "message"]

/-- The members that older documents do not have, or that are empty. -/
def ScanReport.Omits (report : ScanReport) (name : String) : Prop :=
  name = "completed_at" ∧ report.completedAt = none ∨ name = "dns" ∧ report.dns = none ∨
    name = "exposure_score" ∧ report.exposureScore = none ∨
    name = "intelligence" ∧ report.intelligence = none ∨
    name = "skipped_checks" ∧ report.skippedChecks = []

theorem ScanReport.Omits.omits {name : String} (h : report.Omits name) :
    (ScanReport.fields library.time library.uuid).omits report name := by
  rcases h with ⟨rfl, h⟩ | ⟨rfl, h⟩ | ⟨rfl, h⟩ | ⟨rfl, h⟩ | ⟨rfl, h⟩
  · iterate 4 refine .inr ⟨by simp, ?_⟩
    exact .inl ⟨rfl, congrArg some h.symm⟩
  · iterate 8 refine .inr ⟨by simp, ?_⟩
    exact .inl ⟨rfl, congrArg some h.symm⟩
  · iterate 14 refine .inr ⟨by simp, ?_⟩
    exact .inl ⟨rfl, congrArg some h.symm⟩
  · iterate 15 refine .inr ⟨by simp, ?_⟩
    exact .inl ⟨rfl, congrArg some h.symm⟩
  · iterate 16 refine .inr ⟨by simp, ?_⟩
    exact .inl ⟨rfl, congrArg some h.symm⟩

/-- A document has every needed member, and no member of the report twice. Beyond that neither the
order of its members, nor members of other names, nor the absence of empty ones matter to what is
read from it. -/
theorem document_members (library : DocumentLibrary) (members : List (String × Json)) :
    (∀ report, library.report.read (.object members) = some report →
      ((members.map Prod.fst).filter (ScanReport.memberNames.contains ·)).Nodup ∧
      ∀ name ∈ neededMembers, (members.lookup name).isSome = true) ∧
    ∀ report : ScanReport, report.InRange library →
      ((members.map Prod.fst).filter (ScanReport.memberNames.contains ·)).Nodup →
      (∀ name ∈ ScanReport.memberNames,
        members.lookup name =
            ((ScanReport.fields library.time library.uuid).write report).lookup name ∨
          members.lookup name = none ∧ report.Omits name) →
      library.report.read (.object members) = some report := by
  refine ⟨fun report h => ?_, fun report hrange hnames hmembers => ?_⟩
  · exact (ScanReport.fields library.time library.uuid).readObject_some h
  · exact (ScanReport.fields library.time library.uuid).readObject_eq
      (ScanReport.fields_nodup _ _) hrange hnames
      fun name hname => (hmembers name hname).imp_right fun h => ⟨h.1, h.2.omits⟩

end Load

/-! ## A report as a document -/

theorem observedReport_inRange : observedReport.InRange fixtureLibrary := by decide +kernel

theorem report_documents_observed :
    loadReportFile fixtureLibrary "old.json"
        (.ok (documentBytes fixtureLibrary observedReport).length)
        (.ok (documentBytes fixtureLibrary observedReport)) (fun _ => "expected value") =
      (if (documentBytes fixtureLibrary observedReport).length ≤ maxReportBytes then
        .ok observedReport
      else .error ⟨"report 'old.json' exceeds 16 MiB", exitInvalidInput⟩) ∧
      (fixtureLibrary.reportCodec fun _ => "expected value").toString observedReport =
        .ok (storedJson fixtureLibrary observedReport) ∧
      (fixtureLibrary.reportCodec fun _ => "expected value").fromStr
        (storedJson fixtureLibrary observedReport) = .ok observedReport :=
  report_documents fixtureLibrary observedReport observedReport_inRange "old.json"
    (fun _ => "expected value") fun _ => "expected value"

/-- A part of the report, as the history keeps it. -/
def observedPart : ScanReport :=
  { fixtureReport with
    status := .partialScan
    hosts := [⟨observedHost, observedPorts⟩]
    services := observedServices
    findings := [observedFinding "TLS-CERT-EXPIRED" .high] }

theorem loaded_report_documents_observed :
    readReport fixtureLibrary (documentBytes fixtureLibrary observedPart) = some observedPart ∧
      readText fixtureLibrary (storedJson fixtureLibrary observedPart) = some observedPart := by
  have hread : readReport fixtureLibrary (utf8Bytes (storedJson fixtureLibrary observedPart)) =
      some observedPart := by
    rw [readReport, fromUtf8_eq_some_iff.mpr rfl, Option.bind_some]
    exact readText_storedJson (by decide +kernel)
  exact loaded_report_documents fixtureLibrary "stored.json"
    (utf8Bytes (storedJson fixtureLibrary observedPart)) (fun _ => "expected value") observedPart
    (loadReportFile_ok.mpr ⟨by decide +kernel, hread⟩)

example : storedJson fixtureLibrary fixtureReport = fixtureJson := by decide +kernel

instance (report : ScanReport) (name : String) : Decidable (report.Omits name) :=
  inferInstanceAs (Decidable (_ ∨ _))

/-- The report as an older version wrote it, without a member that was added since, and with one
that is not known. -/
def observedMembers : List (String × Json) :=
  (("generator", .string "surface") ::
    ((ScanReport.fields fixtureTime fixtureUuid).write { observedReport with skippedChecks := [] }
      ).filter fun member => member.1 ≠ "skipped_checks").reverse

theorem document_members_observed :
    fixtureLibrary.report.read (.object observedMembers) =
      some { observedReport with skippedChecks := [] } :=
  (document_members fixtureLibrary observedMembers).2 { observedReport with skippedChecks := [] }
    (by decide +kernel) (by decide +kernel) (by decide +kernel)

end Surface
