import VisualNovel.Storage.Path

/-!
# Where a user's files are

Settings, saves and unlocks live in one folder of the user's, which depends on the system's customs.
-/

namespace VisualNovel

/-- What the system says about its user. -/
structure User where
  home : String
  /-- Whether the system has a folder for application data. -/
  windows : Bool := false
  /-- That folder, if the system names it. -/
  appData : Option String := none
deriving DecidableEq, Repr

/-- The home folder is not known. -/
structure UnknownHome where
deriving DecidableEq, Repr

def UnknownHome.message (_ : UnknownHome) : String :=
  "Could not determine home directory."

namespace User

/-- The text of the home folder without slashes at the end, unless that leaves nothing. -/
def trimHome (home : String) : String :=
  let trimmed := (home.toList.reverse.dropWhile (· = '/')).reverse
  if trimmed.isEmpty then "/" else String.ofList trimmed

def homePath (user : User) : Except UnknownHome Path :=
  let home := trimHome user.home
  if home.toList.head? = some '~' then .error {} else .ok (.ofText home)

/-- The folder for everything that is kept for the user. -/
def folder (user : User) : Except UnknownHome Path :=
  if user.windows then
    match user.appData with
    | some base =>
      if base = "" then user.homePath.map (·.child "NarrativeRuntime")
      else .ok ((Path.ofText base).child "NarrativeRuntime")
    | none => user.homePath.map (·.child "NarrativeRuntime")
  else user.homePath.map fun home => (home.child ".config").child "narrative_runtime"

def settingsPath (user : User) : Except UnknownHome Path :=
  user.folder.map (·.child "config.json")

def saveFolder (user : User) : Except UnknownHome Path :=
  user.folder.map (·.child "saves")

def unlocksPath (user : User) : Except UnknownHome Path :=
  user.saveFolder.map (·.child "unlocks.json")

end User

end VisualNovel
