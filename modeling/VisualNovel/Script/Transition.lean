/-!
# Transitions

How a scene or a picture comes and goes. Transitions are handed on to whoever draws them; the kind is
a word of the drawing side's vocabulary and is not checked.
-/

namespace VisualNovel

/-- A kind of transition, and its duration in seconds. -/
structure Transition where
  kind : String := "none"
  duration : Float := 0.0
deriving DecidableEq

namespace Transition

def instant : Transition := ⟨"none", 0.0⟩

def quickFade : Transition := ⟨"fade", 0.3⟩

def fade : Transition := ⟨"fade", 0.5⟩

def slowFade : Transition := ⟨"fade", 1.0⟩

def crossfade : Transition := ⟨"crossfade", 0.5⟩

/-- The kinds behind the names that authors use. -/
def kindsByName : List (String × String) :=
  [("none", "none"), ("instant", "none"), ("fade", "fade"), ("fade_in", "fade"),
   ("fade_out", "fade"), ("fade_black", "fade"), ("fade_white", "fade_white"),
   ("crossfade", "crossfade"), ("dissolve", "crossfade"), ("slide_left", "slide_left"),
   ("slide_right", "slide_right"), ("slide_up", "slide_up"), ("slide_down", "slide_down"),
   ("wipe_left", "wipe_left"), ("wipe_right", "wipe_right"), ("wipe_up", "wipe_up"),
   ("wipe_down", "wipe_down")]

/-- The transition with an author's name for its kind; an unknown name is no transition at all. -/
def named (name : String) (duration : Float) : Transition :=
  ⟨(kindsByName.lookup name).getD "none", duration⟩

/-- Whether there is nothing to see of a transition. -/
def isInstant (transition : Transition) : Bool :=
  transition.kind = "none" || transition.duration ≤ 0.0

end Transition

end VisualNovel
