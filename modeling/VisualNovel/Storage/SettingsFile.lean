import VisualNovel.Settings
import VisualNovel.Storage.DocumentFile

/-!
# The settings file

A settings file that is missing, cannot be read or holds no table gives the default settings.
-/

namespace VisualNovel.Disk

/-- Loads the settings. -/
def loadSettings (disk : Disk) (path : Path) : Logged Settings :=
  match disk.loadDocument path with
  | ⟨log, .error (.load fault)⟩ => ⟨log ++ [.settingsDefaulted fault], .ok {}⟩
  | ⟨log, .error fault⟩ => ⟨log, .error fault⟩
  | ⟨log, .ok (.table fields)⟩ => ⟨log, .ok (.ofFields fields)⟩
  | ⟨log, .ok _⟩ => ⟨log ++ [.settingsIgnored path], .ok {}⟩

/-- Writes the settings. -/
def saveSettings (disk : Disk) (path : Path) (settings : Settings) : Written :=
  disk.saveDocument path settings.toDocument

end VisualNovel.Disk
