import SpringSkeleton.FeatureModule.Basic
import SpringSkeleton.Settings
import SpringSkeleton.Tree.Writing

namespace SpringSkeleton.FeatureModule

def packageDirectory (spec : FeatureModule) (settings : Settings) : Path :=
  (spec.projectRoot.join ⟨settings.sourceRoot⟩).join (Name.packagePath spec.basePackage)

def featureDirectory (spec : FeatureModule) (settings : Settings) : Path :=
  (spec.packageDirectory settings).join ⟨spec.feature⟩

-- The paths of the artifacts are relative to the directory of the base package.
def writeIn (disk : Disk) (spec : FeatureModule) (artifacts : List Artifact) (settings : Settings)
    (mode : WriteMode) : Except Problem (List Path) × Disk :=
  match disk.makeDirectoriesFor (spec.featureDirectory settings) with
  | (.error problem, disk) => (.error problem, disk)
  | (.ok (), disk) => disk.writeArtifacts (spec.packageDirectory settings) artifacts mode

end SpringSkeleton.FeatureModule
