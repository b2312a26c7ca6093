import Automaton.Digest.Blake2s

/-!
# Naming a table by its text

The header of a generated source names the exact text it was generated from, by the name of the
digest and its bytes in hexadecimal.
-/

namespace Automaton

/-- Two lower case hexadecimal digits. -/
def hexByte (b : UInt8) : List Char :=
  [Nat.digitChar (b.toNat / 16), Nat.digitChar (b.toNat % 16)]

/-- **The name of a text**, for the header of a generated source. -/
def textDigest (bytes : ByteArray) : String :=
  "blake2s-256:" ++ String.ofList ((Blake2s.digest bytes).flatMap hexByte)

end Automaton
