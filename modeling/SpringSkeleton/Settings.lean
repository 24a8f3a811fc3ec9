import SpringSkeleton.Toml.Document

namespace SpringSkeleton

structure Settings where
  sourceRoot : String := "src/main/java"
  resourcesRoot : String := "src/main/resources"
  anchorSuffix : String := "Application"
  fallbackPackage : String := "com.generated"
  generatedTestsDirectory : String := "generated-tests"
  atomicWrites : Bool := false
  deriving DecidableEq

namespace Settings

def standard : Settings := {}

def foundKind : Toml.Item → String
  | .scalar value => value.found
  | .table _ _ => "map"
  | .tables _ => "sequence"

def textOf : Toml.Item → Except Toml.Cause String
  | .scalar (.text value) => .ok value
  | item => .error (.wrongKind (foundKind item) "a string")

def booleanOf : Toml.Item → Except Toml.Cause Bool
  | .scalar (.boolean value) => .ok value
  | item => .error (.wrongKind (foundKind item) "a boolean")

def set (settings : Settings) (key : String) (item : Toml.Item) : Except Toml.Cause Settings :=
  match key with
  | "source_root" => (textOf item).map fun text => { settings with sourceRoot := text }
  | "resources_root" => (textOf item).map fun text => { settings with resourcesRoot := text }
  | "anchor_suffix" => (textOf item).map fun text => { settings with anchorSuffix := text }
  | "fallback_package" => (textOf item).map fun text => { settings with fallbackPackage := text }
  | "generated_tests_dir" =>
    (textOf item).map fun text => { settings with generatedTestsDirectory := text }
  | "atomic_writes" => (booleanOf item).map fun value => { settings with atomicWrites := value }
  | _ => .ok settings

-- A value of the wrong kind is shown where it stands, a table without a place of its own by its key.
def setAll (source : String) : Settings → Toml.Entries → Except Toml.Problem Settings
  | settings, [] => .ok settings
  | settings, (key, span, item) :: rest =>
    match settings.set key.name item with
    | .error cause => .error ⟨source, span.getD key.span, cause.message⟩
    | .ok settings => setAll source settings rest

def parse (source : String) : Except Toml.Problem Settings :=
  match Toml.parse source with
  | .error problem => .error problem
  | .ok entries => setAll source standard entries

end Settings
end SpringSkeleton
