import ReactorGen.Digest.Sha256
import ReactorGen.Trigger

/-!
# Artifacts

A generated file with the digest of its contents, everything that is generated
for one federate, and the manifest that lists these files so that others can see
what has changed.
-/

namespace ReactorGen

/-- A generated file. -/
structure Artifact where
  /-- The path from the directory of the federate. -/
  path : String
  contents : String
  /-- The digest of the contents. -/
  digest : String
deriving DecidableEq, Repr

/-- A file with its digest. -/
def Artifact.ofContents (path contents : String) : Artifact :=
  ⟨path, contents, Sha256.ofText contents⟩

/-- What a manifest says about a file. -/
structure ManifestEntry where
  path : String
  digest : String
  /-- The length of the file. -/
  bytes : Nat
deriving DecidableEq, Repr

/-- What a manifest says about an artifact. -/
def Artifact.manifestEntry (artifact : Artifact) : ManifestEntry :=
  ⟨artifact.path, artifact.digest, artifact.contents.utf8ByteSize⟩

/-- The files of one federate. -/
structure Manifest where
  federate : String
  topLevelName : String
  files : List ManifestEntry
deriving DecidableEq, Repr

/-- Everything that is generated for one federate. -/
structure FederateArtifacts where
  /-- The name of the federate. -/
  federate : String
  /-- The base name of its files. -/
  topLevelName : String
  artifacts : List Artifact
  /-- The triggers that its native code initializes. -/
  triggers : List TriggerMetadata
  /-- The tokens that its native code reclaims. -/
  tokens : TokenTable
  /-- What was left out. -/
  diagnostics : Diagnostics
deriving DecidableEq, Repr

namespace FederateArtifacts

/-- The artifact with the given path. -/
def artifact? (generated : FederateArtifacts) (path : String) : Option Artifact :=
  generated.artifacts.find? (·.path == path)

/-- The manifest of the federate. -/
def manifest (generated : FederateArtifacts) : Manifest :=
  ⟨generated.federate, generated.topLevelName,
    generated.artifacts.map Artifact.manifestEntry⟩

end FederateArtifacts
end ReactorGen
