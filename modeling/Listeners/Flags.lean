/-
How a listener is registered: the three flags, from what was written and what is usual.

Options are written in the annotation and may say nothing about a flag.  Capturing has to
be asked for, and disabling takes an explicit `enabled: false`.  Whether a listener is
passive depends, unless it is written, on the event: those that fire often while the user
scrolls, drags or points are passive.
-/
import Listeners.Text.Lowercase
namespace Listeners

/-- The events that are listened to passively unless it is written otherwise. -/
def passiveEvents : List String := [
  "dragstart", "drag", "dragend", "dragenter", "dragover", "dragleave", "drop",
  "mouseenter", "mouseover", "mousemove", "mousedown", "mouseup", "mouseleave", "mouseout",
  "mousewheel",
  "pointerover", "pointerenter", "pointerdown", "pointermove", "pointerup", "pointercancel",
  "pointerout", "pointerleave",
  "resize", "scroll",
  "touchstart", "touchmove", "touchend", "touchenter", "touchleave", "touchcancel",
  "wheel"]

/-- Whether an event is usually listened to passively. -/
def isPassiveByDefault (event : String) : Bool := passiveEvents.contains (Text.lowercase event)

/-- The options of an annotation, as far as they are written. -/
structure WrittenOptions where
  capture : Option Bool
  passive : Option Bool
  enabled : Option Bool
  deriving DecidableEq, Repr

/-- No options are written. -/
def WrittenOptions.none : WrittenOptions := ⟨.none, .none, .none⟩

instance : Inhabited WrittenOptions := ⟨.none⟩

/-- The flags of a registration. -/
structure Flags where
  capture : Bool
  passive : Bool
  disabled : Bool
  deriving DecidableEq, Repr

/-- The flags of a listener to an event. -/
def WrittenOptions.resolve (options : WrittenOptions) (event : String) : Flags where
  capture := options.capture.getD false
  passive := options.passive.getD (isPassiveByDefault event)
  disabled := options.enabled == some false

end Listeners
