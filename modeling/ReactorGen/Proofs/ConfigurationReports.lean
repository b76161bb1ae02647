import ReactorGen.Proofs.Accumulation
import ReactorGen.Property.Configure

/-!
# What configuration reports

Every entry of a target declaration is reported on by itself: what is said about
it depends on the target and on the entry, not on the entries before it.  The
diagnostics of a configuration are those of all entries in order.
-/

namespace ReactorGen

/-- Storing a value never changes the target. -/
@[simp] theorem Property.target_store
    (property : Property)
    (element : Element)
    (settings : Settings) :
    (property.store element settings).target = settings.target := by
  cases property <;> rfl

/-- What is reported about one entry of a target declaration. -/
def entryReports
    (fileExists : String -> Bool)
    (target : Target)
    (entry : String × Element) : List Diagnostic :=
  match Property.ofName? entry.1 with
  | none => [(ConfigError.unknownProperty entry.1).diagnostic]
  | some property =>
    property.type.check fileExists property.name entry.2 ++
      unsupportedDiagnostics property target

/-- What is reported about the entries of a target declaration. -/
def configurationReports
    (fileExists : String -> Bool)
    (target : Target)
    (entries : List (String × Element)) : List Diagnostic :=
  entries.flatMap (entryReports fileExists target)

/-- One entry keeps the target and adds what is reported about the entry. -/
theorem configureEntry_result
    (fileExists : String -> Bool)
    (configured : Configured)
    (entry : String × Element) :
    let after := (configureEntry fileExists configured entry).result
    after.settings.target = configured.settings.target ∧
      after.diagnostics = configured.diagnostics.extend
        (entryReports fileExists configured.settings.target entry) := by
  cases found : Property.ofName? entry.1 with
  | none =>
    simp [configureEntry, applyEntry, entryReports, found]
  | some property =>
    simp only [configureEntry, applyEntry, entryReports, found, applyProperty,
      Report.result_bind, Report.result_pure, and_true]
    split <;> simp

/-- Entries keep the target and add what is reported about each of them. -/
theorem configureEntries_result
    (fileExists : String -> Bool)
    (configured : Configured)
    (entries : List (String × Element)) :
    let after := (entries.foldlM (configureEntry fileExists) configured).result
    after.settings.target = configured.settings.target ∧
      after.diagnostics = configured.diagnostics.extend
        (configurationReports fileExists configured.settings.target entries) := by
  induction entries generalizing configured with
  | nil => simp [configurationReports]
  | cons entry rest inductionHypothesis =>
    obtain ⟨target_eq, diagnostics_eq⟩ :=
      configureEntry_result fileExists configured entry
    obtain ⟨restTarget, restDiagnostics⟩ :=
      inductionHypothesis (configureEntry fileExists configured entry).result
    simp only [List.foldlM_cons, Report.result_bind]
    refine ⟨restTarget.trans target_eq, ?_⟩
    rw [restDiagnostics, diagnostics_eq, target_eq, ← Diagnostics.extend_append]
    rfl

/-- A configuration is for the given target. -/
theorem target_configure
    (fileExists : String -> Bool)
    (target : Target)
    (entries : List (String × Element)) :
    (configure fileExists target entries).result.settings.target = target :=
  (configureEntries_result fileExists ⟨.ofTarget target, .empty⟩ entries).1

/-- The diagnostics of a configuration are what is reported about its entries. -/
theorem diagnostics_configure
    (fileExists : String -> Bool)
    (target : Target)
    (entries : List (String × Element)) :
    (configure fileExists target entries).result.diagnostics =
      .ofList (configurationReports fileExists target entries) :=
  (configureEntries_result fileExists ⟨.ofTarget target, .empty⟩ entries).2

end ReactorGen
