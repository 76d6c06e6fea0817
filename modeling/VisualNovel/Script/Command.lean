import VisualNovel.Condition
import VisualNovel.Operation
import VisualNovel.Script.Dialogue
import VisualNovel.Script.Transition

/-!
# Commands

The commands that make up a scene. They fall into those that change what the story remembers, those
that move the play head (`Flow`), those that change what is on stage (`StageCommand`), those that are
heard (`AudioCommand`), and lines, choices and pauses that wait for the player.
-/

namespace VisualNovel

/-- An option of a choice, offered when all its conditions hold. -/
structure ChoiceOption where
  text : String
  nextScene : String
  conditions : List Condition := []
  flagsToSet : List String := []

/-- A choice put to the player. -/
structure Choice where
  options : List ChoiceOption
  prompt : Option String := none

/-- A move of the play head. -/
inductive Flow where
  | jump (scene : String)
  /-- Enters `scene`, to be left again for `returnScene`. -/
  | call (scene returnScene : String)
  | back
  | finish
deriving DecidableEq, Repr

/-- A change of what is on stage. -/
inductive StageCommand where
  | showBackground (asset : String) (transition : Option Transition)
  | hideBackground (transition : Option Transition)
  | showCg (asset : String) (transition : Option Transition)
  | hideCg (transition : Option Transition)
  | showCharacter (id sprite position : String) (expression : Option String)
      (transition : Option Transition)
  | hideCharacter (id : String) (transition : Option Transition)
  | moveCharacter (id position : String) (duration : Float)
  | changeExpression (id expression : String)
  | changeSprite (id sprite : String)
deriving DecidableEq

/-- Music, sound effects and voices. -/
inductive AudioCommand where
  | playBgm (asset : String) (volume fadeIn : Float)
  | stopBgm (fadeOut : Float)
  | playSe (asset : String) (volume : Float)
  | playVoice (asset : String) (volume : Float)
deriving DecidableEq

/-- A command of a scene. -/
inductive Command where
  | say (line : Dialogue)
  | setFlag (name : String) (value : Bool)
  | setVariable (name : String) (value : Value)
  | modifyVariable (name : String) (operation : Operation)
  | branch (condition : Condition) (thenDo elseDo : List Command)
  | offer (choice : Choice)
  | flow (move : Flow)
  | wait (seconds : Float)
  | stage (change : StageCommand)
  | audio (sound : AudioCommand)
  /-- Something that is no command; the text is what the author wrote. -/
  | unknown (text : String)

/-! ## The words for commands in messages -/

def Flow.name : Flow → String
  | .jump _ => "JumpToSceneCommand"
  | .call _ _ => "CallCommand"
  | .back => "ReturnCommand"
  | .finish => "EndCommand"

def StageCommand.name : StageCommand → String
  | .showBackground _ _ => "ShowBackgroundCommand"
  | .hideBackground _ => "HideBackgroundCommand"
  | .showCg _ _ => "ShowCGCommand"
  | .hideCg _ => "HideCGCommand"
  | .showCharacter _ _ _ _ _ => "ShowCharacterCommand"
  | .hideCharacter _ _ => "HideCharacterCommand"
  | .moveCharacter _ _ _ => "MoveCharacterCommand"
  | .changeExpression _ _ => "ChangeExpressionCommand"
  | .changeSprite _ _ => "ChangeSpriteCommand"

def AudioCommand.name : AudioCommand → String
  | .playBgm _ _ _ => "PlayBgmCommand"
  | .stopBgm _ => "StopBgmCommand"
  | .playSe _ _ => "PlaySeCommand"
  | .playVoice _ _ => "PlayVoiceCommand"

def Command.name : Command → String
  | .say _ => "DialogueCommand"
  | .setFlag _ _ => "SetFlagCommand"
  | .setVariable _ _ => "SetVariableCommand"
  | .modifyVariable _ _ => "ModifyVariableCommand"
  | .branch _ _ _ => "IfCommand"
  | .offer _ => "ShowChoiceCommand"
  | .flow move => move.name
  | .wait _ => "WaitCommand"
  | .stage change => change.name
  | .audio sound => sound.name
  | .unknown _ => "str"

end VisualNovel
