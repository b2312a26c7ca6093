import Automaton.Target.Go
import Automaton.Target.Rust

/-!
# Keywords

Each emitter comes with a list of words that it refuses.  What the words have to be is a matter of
the language: `Target.keywords` lists them without regard to any emitter, and `GoSource.keywords_eq`
and `RustSource.keywords_eq` say that nothing is missing from the emitters' lists and nothing there
is too much.

In Rust, a word may be reserved before it has a meaning, and it may be a keyword in some editions
only.  A source does not say for which edition it is, so all of them count.
-/

namespace Automaton

/-- **The keywords of a language**, and words that it reserves. -/
def Target.keywords : Target → List String
  | go =>
    ["break", "case", "chan", "const", "continue", "default", "defer", "else", "fallthrough", "for",
      "func", "go", "goto", "if", "import", "interface", "map", "package", "range", "return",
      "select", "struct", "switch", "type", "var"]
  | rust =>
    -- words with a meaning, in some edition at least
    ["as", "async", "await", "break", "const", "continue", "crate", "dyn", "else", "enum", "extern",
      "false", "fn", "for", "gen", "if", "impl", "in", "let", "loop", "match", "mod", "move", "mut",
      "pub", "ref", "return", "self", "Self", "static", "struct", "super", "trait", "true", "try",
      "type", "unsafe", "use", "where", "while"] ++
    -- reserved words
    ["abstract", "become", "box", "do", "final", "macro", "override", "priv", "typeof", "unsized",
      "virtual", "yield"]

/-- The words that are refused in Go are its keywords. -/
theorem GoSource.keywords_eq : keywords = Target.keywords .go := rfl

/-- The words that are refused in Rust are its keywords. -/
theorem RustSource.keywords_eq : keywords = Target.keywords .rust := rfl

end Automaton
