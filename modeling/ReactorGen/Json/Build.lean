import ReactorGen.Json.Record
import ReactorGen.Json.Printer
import ReactorGen.Package.Build

/-!
# Build descriptors as JSON
-/

namespace ReactorGen

open JsonFormat

instance : JsonFormat BuildDescriptor where
  write descriptor := .object [
    ("module_name", write descriptor.moduleName),
    ("sources", write descriptor.sources),
    ("define_macros", write descriptor.macros),
    ("install_requires", write descriptor.requirements),
    ("pre_build", write descriptor.preBuild)
  ]
  readWith := readRecord do
    let moduleName ← field String "module_name"
    let sources ← field (List String) "sources"
    let macros ← field (List (String × String)) "define_macros"
    let requirements ← field (List String) "install_requires"
    let preBuild ← field (List (List String)) "pre_build"
    return ⟨moduleName, sources, macros, requirements, preBuild⟩

/-- The build descriptor as JSON text. -/
def BuildDescriptor.jsonText (descriptor : BuildDescriptor) : String :=
  (write descriptor).print

end ReactorGen
