/-
The settings of an analysis.

Listeners are declared with annotations of one name.  A fatal diagnostic costs either the
listener that it is about, or everything that its file declares.
-/
namespace Listeners

/-- How far a fatal diagnostic reaches. -/
inductive FatalScope where
  /-- Only the listener that it is about is lost. -/
  | specifier
  /-- Everything in the file is lost. -/
  | file
  deriving DecidableEq, Repr

def FatalScope.name : FatalScope → String
  | specifier => "specifier"
  | file => "file"

structure Settings where
  annotationName : String
  fatalScope : FatalScope
  deriving DecidableEq, Repr

/-- The settings where nothing else is said. -/
def Settings.usual : Settings := ⟨"Listen", .specifier⟩

instance : Inhabited Settings := ⟨.usual⟩

end Listeners
