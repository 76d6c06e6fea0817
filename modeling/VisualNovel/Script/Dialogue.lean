import VisualNovel.Document.Basic

/-!
# Dialogue

A line of dialogue and who says it. The expression and the animation that go with a line are handed
on to whoever draws the scene.
-/

namespace VisualNovel

/-- What sort of voice says a line. -/
inductive Voice where
  | character
  | narrator
  | system
  /-- A word that is none of the three. -/
  | other (name : String)
deriving DecidableEq, Repr

def Voice.ofName (name : String) : Voice :=
  if name = "character" then .character
  else if name = "narrator" then .narrator
  else if name = "system" then .system
  else .other name

def Voice.name : Voice → String
  | .character => "character"
  | .narrator => "narrator"
  | .system => "system"
  | .other name => name

/-- Who says a line. -/
structure Speaker where
  voice : Voice := .narrator
  characterId : Option String := none
deriving DecidableEq, Repr

namespace Speaker

def narrator : Speaker := ⟨.narrator, none⟩

def system : Speaker := ⟨.system, none⟩

def character (id : String) : Speaker := ⟨.character, some id⟩

/-- The speaker with an author's name. -/
def parse (name : String) : Speaker :=
  if name = "" || name = "narrator" || name = "Narrator" then narrator
  else if name = "system" || name = "System" then system
  else character name

/-- The name shown above a line. -/
def displayName (speaker : Speaker) : String :=
  match speaker.voice, speaker.characterId with
  | .character, some id => if id = "" then "Narrator" else id
  | .system, _ => "System"
  | _, _ => "Narrator"

end Speaker

/-- A line of dialogue. -/
structure Dialogue where
  speaker : Speaker
  text : String
  expression : Option String := none
  animation : Document := .null

namespace Dialogue

def narration (text : String) : Dialogue := ⟨.narrator, text, none, .null⟩

def spoken (characterId text : String) : Dialogue := ⟨.character characterId, text, none, .null⟩

end Dialogue

end VisualNovel
