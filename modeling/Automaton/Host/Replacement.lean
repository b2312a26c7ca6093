import Automaton.Host.Basic
import Automaton.Path

/-!
# Replacing a file at once

A generated source takes the place of an older one in a single step: it is written to a *temporary
file* beside the destination, which is then moved over it.  Whoever reads the destination meets the
old text or the new one, and nothing in between.

The temporary file must not have been there before, so nobody else's file is ever touched.  If
anything fails once it has been made, it is removed again.
-/

namespace Automaton

/-- The name of the temporary file for a name, in a run. -/
def temporaryName (run : Nat) (name : String) : String :=
  "." ++ name ++ "." ++ toString run ++ ".tmp"

namespace Host

variable {m : Type → Type} [Monad m]

/-- Fills a file that has just been made and moves it to its destination. -/
def deliver (h : Host m) (temporary path : String) (contents : ByteArray) :
    m (Except FileFault Unit) := do
  match ← h.write temporary contents with
  | .error f => pure (.error f)
  | .ok () => h.rename temporary path

/-- **Replacing a file** by a text. -/
def replaceFile (h : Host m) (path text : String) : m (Except Error Unit) := do
  match Path.renamed? path (temporaryName h.run) with
  | none =>
    pure (.error (.settings ("Destination " ++ Text.displayed path ++ " is not a file path")))
  | some temporary =>
    match ← h.create temporary with
    | .error f => pure (.error f.error)
    | .ok () =>
      match ← h.deliver temporary path text.toUTF8 with
      | .ok () => pure (.ok ())
      | .error f =>
        let _ ← h.remove temporary
        pure (.error f.error)

end Host

end Automaton
