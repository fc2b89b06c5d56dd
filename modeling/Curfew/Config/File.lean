import Curfew.Config.Source
import Curfew.Host

/-!
Config files.
-/

namespace Curfew

/-- Why a file gives no config. -/
inductive FileFault where
  | missing (path : Path)
  | disk (fault : DiskFault)
  | source (fault : SourceFault)

namespace Document

/-- What a missing file is reported as. -/
def missingMessage (path : Path) : String := s!"Watchdog config not found: {path}"

/-- The mapping of a file, checked if wanted. -/
def ofFile (h : Host) (path : Path) (validate : Bool) : Told FileFault Entries := do
  if ← Told.ofExcept ((h.leadsSomewhere path).mapError .disk) then
    let bytes ← Told.ofExcept ((h.content path).mapError .disk)
    let source := Yaml.Source.ofContent (.ofBytes bytes)
    (ofSource source true (some path.text) validate).mapFault .source
  else Told.fail (.missing path)

end Document

end Curfew
