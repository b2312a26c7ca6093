import Automaton.Filter.Cat
import Automaton.Filter.Condition
import Automaton.Filter.Printing
import Automaton.Filter.Sed
import Automaton.Filter.Tr

/-!
# Programs at hand

The programs that a shell can call besides shells themselves.
-/

namespace Automaton.Filter

/-- The programs other than the shell. -/
def programs : List (String × Program) :=
  [ ("cat", cat),
    ("echo", echo),
    ("false", fun _ _ input => ⟨1, [], [], input⟩),
    ("printf", printf),
    ("sed", sed),
    ("sleep", fun _ _ input => ⟨0, [], [], input⟩),
    ("test", test),
    ("[", test),
    ("tr", tr),
    ("true", fun _ _ input => ⟨0, [], [], input⟩) ]

end Automaton.Filter
