import SpringSkeleton.Problem
import SpringSkeleton.Settings
import SpringSkeleton.Tree.Disk

namespace SpringSkeleton.Settings

def fileName : String := "scaffold.toml"

def load (disk : Disk) (path : Path) : Except Problem Settings :=
  match disk.readText path with
  | .error cause => .error (.file path cause)
  | .ok text => (parse text).mapError .settings

-- A project without the file has the standard settings.
def discover (disk : Disk) (directory : Path) : Except Problem Settings :=
  let path := directory.join ⟨fileName⟩
  if disk.isFile path then load disk path else .ok standard

end SpringSkeleton.Settings
