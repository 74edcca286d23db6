import MixinIndex.Config.Yaml
import MixinIndex.Resource.Tree

/-!
# Configuration files

## Main definitions

* `Config.ofContent`: the configuration in a file
-/

namespace MixinIndex.Config

/-- The configuration in a file, given what was found under its path. -/
def ofContent : Disk.Content → Except Error Config
  | .text text => ofText text
  | .missing => .error .unreadableFile
  | .unreadable => .error .unreadableFile

end MixinIndex.Config
