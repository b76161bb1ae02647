import ReactorGen.Compilation
import ReactorGen.Json.Diagnostic
import ReactorGen.Json.Model
import ReactorGen.Json.Settings
import ReactorGen.Json.Trigger

/-!
# Generated code as JSON

What became of a federate is one object whose member `status` says which of the
two it was.
-/

namespace ReactorGen

open JsonFormat

instance : JsonFormat Artifact where
  write artifact := .object [
    ("path", write artifact.path),
    ("contents", write artifact.contents),
    ("sha256", write artifact.digest)
  ]
  readWith := readRecord do
    let path ← field String "path"
    let contents ← field String "contents"
    let digest ← field String "sha256"
    return ⟨path, contents, digest⟩

instance : JsonFormat ManifestEntry where
  write entry := .object [
    ("path", write entry.path),
    ("sha256", write entry.digest),
    ("bytes", write entry.bytes)
  ]
  readWith := readRecord do
    let path ← field String "path"
    let digest ← field String "sha256"
    let bytes ← field Nat "bytes"
    return ⟨path, digest, bytes⟩

instance : JsonFormat Manifest where
  write manifest := .object [
    ("federate", write manifest.federate),
    ("top_level_name", write manifest.topLevelName),
    ("files", write manifest.files)
  ]
  readWith := readRecord do
    let federate ← field String "federate"
    let topLevelName ← field String "top_level_name"
    let files ← field (List ManifestEntry) "files"
    return ⟨federate, topLevelName, files⟩

/-- The members of the object that a federate's artifacts are written as. -/
def FederateArtifacts.members (generated : FederateArtifacts) : List (String × Json) := [
  ("federate", write generated.federate),
  ("top_level_name", write generated.topLevelName),
  ("artifacts", write generated.artifacts),
  ("triggers", write generated.triggers),
  ("tokens", write generated.tokens),
  ("diagnostics", write generated.diagnostics)
]

instance : JsonFormat FederateArtifacts where
  write generated := .object generated.members
  readWith := readRecord do
    let federate ← field String "federate"
    let topLevelName ← field String "top_level_name"
    let artifacts ← field (List Artifact) "artifacts"
    let triggers ← field (List TriggerMetadata) "triggers"
    let tokens ← field TokenTable "tokens"
    let diagnostics ← field Diagnostics "diagnostics"
    return ⟨federate, topLevelName, artifacts, triggers, tokens, diagnostics⟩

/-- The fields of a federate that was not generated. -/
def FederateOutput.suppressedFields : FieldReader FederateOutput := do
  let federate ← field String "federate"
  let reason ← field Diagnostic "reason"
  return .suppressed federate reason

/-- Read what became of a federate when the status is known. -/
def FederateOutput.readStatus (status : String) (json : Json) : Option FederateOutput :=
  if status == "generated" then
    (readWith .lenient json).map FederateOutput.generated
  else if status == "suppressed" then
    readRecord FederateOutput.suppressedFields .lenient json
  else none

/-- The status is a member beside the others, or the first item of an array. -/
instance : JsonFormat FederateOutput where
  write
    | .generated artifacts =>
      .object (("status", .string "generated") :: artifacts.members)
    | .suppressed federate reason =>
      .object [
        ("status", .string "suppressed"),
        ("federate", write federate),
        ("reason", write reason)
      ]
  readWith
    | _, .object members => do
      let status ← required String (.object members) "status"
      FederateOutput.readStatus status (.object members)
    | _, .array (.string status :: rest) =>
      FederateOutput.readStatus status (.array rest)
    | _, _ => none

instance : JsonFormat CompileResult where
  write result := .object [
    ("success", write result.success),
    ("config", write result.settings),
    ("federates", write result.federates),
    ("diagnostics", write result.diagnostics)
  ]
  readWith := readRecord do
    let success ← field Bool "success"
    let settings ← optionalField Settings "config"
    let federates ← field (List FederateOutput) "federates"
    let diagnostics ← field Diagnostics "diagnostics"
    return ⟨success, settings, federates, diagnostics⟩

instance : JsonFormat SerializationSupport where
  write support := .object [
    ("enabled", write support.enabled),
    ("c_preamble", write support.nativePreamble),
    ("python_preamble", write support.modulePreamble),
    ("pre_build", write support.preBuild),
    ("install_requires", write support.requirements)
  ]
  readWith := readRecord do
    let enabled ← field (List Serializer) "enabled"
    let nativePreamble ← field (List String) "c_preamble"
    let modulePreamble ← field (List String) "python_preamble"
    let preBuild ← field (List (List String)) "pre_build"
    let requirements ← field (List String) "install_requires"
    return ⟨enabled, nativePreamble, modulePreamble, preBuild, requirements⟩

end ReactorGen
