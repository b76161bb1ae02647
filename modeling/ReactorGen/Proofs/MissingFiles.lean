import ReactorGen.Files.Search
import ReactorGen.Proofs.CheckFindings
import ReactorGen.Proofs.LastValidEntry

/-!
# Missing files

Which files there are makes no difference to a configuration, except for the warnings
about files that are missing.  Such a warning stands for a part of a value that should
name a file, and every part that names a missing file has one.
-/

namespace ReactorGen

/-- Whether a problem is that a file is not there. -/
def Diagnostic.isMissingFile (problem : Diagnostic) : Bool :=
  problem.code = .fileNotFound

/-- The problems that are about something else than missing files. -/
def Diagnostics.withoutMissingFiles (problems : List Diagnostic) : List Diagnostic :=
  problems.filter fun problem => !problem.isMissingFile

open Diagnostics

theorem Diagnostics.withoutMissingFiles_flatMap
    (items : List α)
    (reports : α -> List Diagnostic) :
    withoutMissingFiles (items.flatMap reports) =
      items.flatMap fun item => withoutMissingFiles (reports item) :=
  List.filter_flatMap

/-! ## Two file systems -/

/-- But for missing files, a check reports the same whichever files there are. -/
theorem PropertyType.withoutMissingFiles_check
    (first second : String -> Bool)
    (name : String)
    (element : Element)
    (type : PropertyType) :
    withoutMissingFiles (type.check first name element) =
      withoutMissingFiles (type.check second name element) := by
  induction type using PropertyType.induction generalizing name element with
  | value kind =>
    rw [check, check, ValueKind.check, ValueKind.check]
    split
    case isTrue =>
      split
      case isTrue =>
        rw [checkFile, checkFile]
        split <;> split <;> rfl
      case isFalse => rfl
    case isFalse => rfl
  | array item inductionHypothesis =>
    cases element with
    | array items =>
      simp only [check, withoutMissingFiles_flatMap]
      congr 1
      funext pair
      exact inductionHypothesis _ _
    | literal | id | time | dictionary => rw [check_of_misfits rfl, check_of_misfits rfl]
  | union options default inductionHypothesis =>
    rw [check_union, check_union]
    cases matched : (union options default).matchOption? element with
    | none => rfl
    | some option =>
      cases option with
      | word word => rfl
      | type type =>
        exact inductionHypothesis type (List.mem_of_find?_eq_some matched) name element
  | dictionary entries inductionHypothesis =>
    cases element with
    | dictionary pairs =>
      simp only [check_dictionary, withoutMissingFiles_flatMap]
      congr 1
      funext pair
      rw [checkEntry, checkEntry]
      cases known_eq : (dictionary entries).entryNamed? pair.1 with
      | none => rfl
      | some known =>
        exact inductionHypothesis known (List.mem_of_find?_eq_some known_eq) _ _
    | literal | id | time | array => rw [check_of_misfits rfl, check_of_misfits rfl]

/-- But for missing files, entries are reported on alike whichever files there are. -/
theorem withoutMissingFiles_configurationReports
    (first second : String -> Bool)
    (target : Target)
    (entries : List (String × Element)) :
    withoutMissingFiles (configurationReports first target entries) =
      withoutMissingFiles (configurationReports second target entries) := by
  rw [configurationReports, configurationReports, withoutMissingFiles_flatMap,
    withoutMissingFiles_flatMap]
  congr 1
  funext entry
  rw [entryReports, entryReports]
  cases Property.ofName? entry.1 with
  | none => rfl
  | some property =>
    dsimp only
    rw [withoutMissingFiles, withoutMissingFiles, List.filter_append, List.filter_append]
    congr 1
    exact property.type.withoutMissingFiles_check first second property.name entry.2

/-! ## What missing files are reported for -/

/-- The warning about a file that a part of a value names and that is not there. -/
def WarnsOfFile
    (fileExists : String -> Bool)
    (entry : String × Element)
    (warning : Diagnostic) : Prop :=
  ∃ property steps part, Property.ofName? entry.1 = some property ∧
    property.type.Reaches entry.2 steps (.value .file) part ∧
    ValueKind.file.accepts part = true ∧
    fileExists part.text = false ∧
    warning = missingFile (partName property.name steps) part.text

/-- The check of a value reports a missing file exactly for the parts that name one. -/
theorem PropertyType.mem_check_isMissingFile_iff
    {fileExists : String -> Bool}
    {name : String}
    {element : Element}
    {problem : Diagnostic}
    {type : PropertyType} :
    (problem ∈ type.check fileExists name element ∧ problem.isMissingFile = true) ↔
      ∃ steps part, type.Reaches element steps (.value .file) part ∧
        ValueKind.file.accepts part = true ∧
        fileExists part.text = false ∧
        problem = missingFile (partName name steps) part.text := by
  constructor
  · rintro ⟨member, isMissing⟩
    obtain ⟨steps, _, part, reached, blamed⟩ := exists_finds_of_mem_check member
    cases blamed with
    | misfit => exact absurd isMissing Bool.false_ne_true
    | missing accepted absent => exact ⟨steps, part, reached, accepted, absent, rfl⟩
    | unknown => exact absurd isMissing Bool.false_ne_true
  · rintro ⟨steps, part, reached, accepted, absent, rfl⟩
    exact ⟨mem_check_of_finds ⟨_, part, reached, .missing accepted absent⟩, rfl⟩

/-- A missing file is reported exactly for the parts that name one. -/
theorem mem_entryReports_isMissingFile_iff
    {fileExists : String -> Bool}
    (target : Target)
    {entry : String × Element}
    {problem : Diagnostic} :
    (problem ∈ entryReports fileExists target entry ∧ problem.isMissingFile = true) ↔
      WarnsOfFile fileExists entry problem := by
  rw [entryReports, WarnsOfFile]
  cases found : Property.ofName? entry.1 with
  | none =>
    constructor
    · rintro ⟨member, isMissing⟩
      rw [List.mem_singleton.mp member] at isMissing
      exact absurd isMissing Bool.false_ne_true
    · rintro ⟨_, _, _, impossible, _⟩
      cases impossible
  | some property =>
    have supported : ∀ problem ∈ unsupportedDiagnostics property target,
        problem.isMissingFile = false := by
      intro problem member
      rw [unsupportedDiagnostics] at member
      split at member
      case isTrue => exact absurd member List.not_mem_nil
      case isFalse =>
        rw [List.mem_singleton.mp member]
        rfl
    simp only [List.mem_append, Option.some.injEq, exists_and_left, exists_eq_left',
      ← PropertyType.mem_check_isMissingFile_iff]
    constructor
    · rintro ⟨checked | unsupported, isMissing⟩
      · exact ⟨checked, isMissing⟩
      · rw [supported problem unsupported] at isMissing
        exact absurd isMissing Bool.false_ne_true
    · rintro ⟨checked, isMissing⟩
      exact ⟨.inl checked, isMissing⟩

/-- A missing file is reported for a configuration exactly for the parts of its entries
that name one. -/
theorem mem_configurationReports_isMissingFile_iff
    {fileExists : String -> Bool}
    (target : Target)
    {entries : List (String × Element)}
    {problem : Diagnostic} :
    (problem ∈ configurationReports fileExists target entries ∧
        problem.isMissingFile = true) ↔
      ∃ entry ∈ entries, WarnsOfFile fileExists entry problem := by
  simp only [configurationReports, List.mem_flatMap,
    ← mem_entryReports_isMissingFile_iff target]
  constructor
  · rintro ⟨⟨entry, isEntry, member⟩, isMissing⟩
    exact ⟨entry, isEntry, member, isMissing⟩
  · rintro ⟨entry, isEntry, member, isMissing⟩
    exact ⟨⟨entry, isEntry, member⟩, isMissing⟩

theorem WarnsOfFile.isError_eq
    {fileExists : String -> Bool}
    {entry : String × Element}
    {warning : Diagnostic}
    (warns : WarnsOfFile fileExists entry warning) :
    warning.isError = false := by
  obtain ⟨_, _, _, _, _, _, _, rfl⟩ := warns
  rfl

/-! ## Configurations -/

/-- The warnings about missing files are the reports on them. -/
theorem mem_warningsOf_isMissingFile_iff
    {fileExists : String -> Bool}
    (target : Target)
    {entries : List (String × Element)}
    {warning : Diagnostic} :
    (warning ∈ warningsOf (configurationReports fileExists target entries) ∧
        warning.isMissingFile = true) ↔
      ∃ entry ∈ entries, WarnsOfFile fileExists entry warning := by
  rw [← mem_configurationReports_isMissingFile_iff target, warningsOf,
    List.mem_filter]
  constructor
  · rintro ⟨⟨member, _⟩, isMissing⟩
    exact ⟨member, isMissing⟩
  · rintro ⟨member, isMissing⟩
    obtain ⟨entry, _, warns⟩ :=
      (mem_configurationReports_isMissingFile_iff target).mp ⟨member, isMissing⟩
    rw [warns.isError_eq]
    exact ⟨⟨member, rfl⟩, isMissing⟩

/-- No error of a configuration is a missing file. -/
theorem errorsOf_withoutMissingFiles
    (fileExists : String -> Bool)
    (target : Target)
    (entries : List (String × Element)) :
    errorsOf (withoutMissingFiles (configurationReports fileExists target entries)) =
      errorsOf (configurationReports fileExists target entries) := by
  rw [errorsOf, withoutMissingFiles, List.filter_filter]
  apply List.filter_congr
  intro problem member
  cases isMissing : problem.isMissingFile with
  | false => simp
  | true =>
    obtain ⟨entry, _, warns⟩ :=
      (mem_configurationReports_isMissingFile_iff target).mp ⟨member, isMissing⟩
    simp [warns.isError_eq]

theorem Diagnostics.withoutMissingFiles_warningsOf (problems : List Diagnostic) :
    withoutMissingFiles (warningsOf problems) =
      warningsOf (withoutMissingFiles problems) :=
  List.filter_comm ..

/-- Two configurations of the same entries with whatever files there are have the same
settings, the same errors and, but for missing files, the same warnings.  A warning about
a missing file stands for a part of a value that names a file which is not there, and
every such part has its warning. -/
theorem configure_ignoresFiles
    (firstFiles secondFiles : FileSystem)
    (firstDirectory secondDirectory : Option String)
    (target : Target)
    (entries : List (String × Element)) :
    let first :=
      (configure (firstFiles.sourceExists firstDirectory) target entries).result
    let second :=
      (configure (secondFiles.sourceExists secondDirectory) target entries).result
    first.settings = second.settings ∧
      first.diagnostics.errors = second.diagnostics.errors ∧
      first.diagnostics.totalErrors = second.diagnostics.totalErrors ∧
      withoutMissingFiles first.diagnostics.warnings =
        withoutMissingFiles second.diagnostics.warnings ∧
      ∀ warning, (warning ∈ first.diagnostics.warnings ∧ warning.code = .fileNotFound) ↔
        ∃ entry ∈ entries,
          WarnsOfFile (firstFiles.sourceExists firstDirectory) entry warning := by
  intro first second
  have reports_eq := withoutMissingFiles_configurationReports
    (firstFiles.sourceExists firstDirectory) (secondFiles.sourceExists secondDirectory)
    target entries
  have errors_eq := congrArg errorsOf reports_eq
  rw [errorsOf_withoutMissingFiles, errorsOf_withoutMissingFiles] at errors_eq
  have warnings_eq := congrArg warningsOf reports_eq
  rw [← withoutMissingFiles_warningsOf, ← withoutMissingFiles_warningsOf] at warnings_eq
  have firstReports := diagnostics_configure (firstFiles.sourceExists firstDirectory) target
    entries
  have secondReports := diagnostics_configure (secondFiles.sourceExists secondDirectory)
    target entries
  rw [ofList_eq] at firstReports secondReports
  refine ⟨?_, ?_, ?_, ?_, fun warning => ?_⟩
  · exact (settings_configure _ target entries).trans (settings_configure _ _ _).symm
  · rw [firstReports, secondReports, errors_eq]
  · rw [firstReports, secondReports, errors_eq]
  · rw [firstReports, secondReports, warnings_eq]
  · rw [firstReports, ← mem_warningsOf_isMissingFile_iff target,
      Diagnostic.isMissingFile, decide_eq_true_eq]

end ReactorGen
