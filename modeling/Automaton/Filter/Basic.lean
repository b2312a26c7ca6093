import Automaton.Path

/-!
# Filters

A *filter* is a program that reads an input and writes an output.  The filters of this library need
no processes: each is a function from its arguments and its input to what it has done
(`Filter.Result`).

Filters belong to the outermost layer.  Generation is stated for any toolbox, as any program may be
what a source is filtered with; these are the ones that the main program is given.  So nothing is
proved about what they do to a text.

## Characters of one byte

Filters know nothing of encodings.  What they read and write are bytes, and each byte counts as one
character, as in the plainest of locales.  So a text is a list of characters below 256
(`Filter.Chars`), `Filter.ofBytes` and `Filter.toBytes` lead there and back, and character classes
have members in ASCII only.
-/

namespace Automaton.Filter

/-- **A text of bytes**, one character for each. -/
abbrev Chars := List Char

/-- The characters of bytes. -/
def ofBytes (bytes : List UInt8) : Chars :=
  bytes.map fun b => Char.ofNat b.toNat

/-- The bytes of characters. -/
def toBytes (cs : Chars) : List UInt8 :=
  cs.map fun c => UInt8.ofNat c.toNat

/-- The characters of a text, by the bytes of its usual encoding. -/
def ofString (s : String) : Chars :=
  ofBytes s.toUTF8.toList

@[simp]
theorem length_ofBytes (bytes : List UInt8) : (ofBytes bytes).length = bytes.length := by
  simp [ofBytes]

/-- Bytes come back from their characters. -/
@[simp]
theorem toBytes_ofBytes (bytes : List UInt8) : toBytes (ofBytes bytes) = bytes := by
  have back (b : UInt8) : UInt8.ofNat (Char.ofNat b.toNat).toNat = b := by
    have hb : b.toNat.isValidChar := Or.inl (by have := b.toNat_lt; omega)
    rw [Char.ofNat, dif_pos hb]
    exact UInt8.ofNat_toNat
  simp only [ofBytes, toBytes, List.map_map, Function.comp_def, back, List.map_id']

@[simp]
theorem length_toBytes (cs : Chars) : (toBytes cs).length = cs.length := by
  simp [toBytes]

/-- **What a program has done.** -/
structure Result where
  /-- Zero for success. -/
  status : Nat
  /-- What it has written. -/
  output : Chars
  /-- What it has complained. -/
  complaints : Chars
  /-- What it has left of the input. -/
  rest : Chars
  deriving DecidableEq, Repr

namespace Result

/-- A program that has read all its input. -/
def done (output : Chars) : Result :=
  ⟨0, output, [], []⟩

/-- A program that has given up before reading. -/
def refused (status : Nat) (complaint : String) (input : Chars) : Result :=
  ⟨status, [], complaint.toList ++ ['\n'], input⟩

end Result

/-- **A program**: what it does under the name that it is called by, with its arguments and its
input. -/
abbrev Program := String → List Chars → Chars → Result

/-! ### Characters -/

/-- A digit of base eight. -/
def isOctal (c : Char) : Bool :=
  '0' ≤ c && c ≤ '7'

/-- A visible character or a space. -/
def isPrintable (c : Char) : Bool :=
  ' ' ≤ c && c ≤ '~'

/-- A visible character that is neither letter nor digit. -/
def isPunctuation (c : Char) : Bool :=
  isPrintable c && c != ' ' && !c.isAlphanum

/-- A blank or a character that moves the paper. -/
def isSpace (c : Char) : Bool :=
  c == ' ' || ('\t' ≤ c && c ≤ '\r')

/-- A digit of base sixteen. -/
def isHex (c : Char) : Bool :=
  c.isDigit || ('a' ≤ c && c ≤ 'f') || ('A' ≤ c && c ≤ 'F')

/-- A letter, a digit or an underscore. -/
def isWordPart (c : Char) : Bool :=
  c.isAlphanum || c == '_'

/-- **The character classes**, by name. -/
def classes : List (String × (Char → Bool)) :=
  [ ("alnum", Char.isAlphanum),
    ("alpha", Char.isAlpha),
    ("blank", fun c => c == ' ' || c == '\t'),
    ("cntrl", fun c => c < ' ' || c == '\x7f'),
    ("digit", Char.isDigit),
    ("graph", fun c => isPrintable c && c != ' '),
    ("lower", Char.isLower),
    ("print", isPrintable),
    ("punct", isPunctuation),
    ("space", isSpace),
    ("upper", Char.isUpper),
    ("xdigit", isHex) ]

/-- All characters, in order. -/
def allChars : Chars :=
  (List.range 256).map Char.ofNat

/-- The characters from one to another. -/
def charRange (first last : Char) : Chars :=
  (List.range (last.toNat + 1 - first.toNat)).map fun k => Char.ofNat (first.toNat + k)

/-- The control character that a letter stands for behind a backslash. -/
def controlOf : Char → Option Char
  | 'a' => some '\x07'
  | 'b' => some '\x08'
  | 'f' => some '\x0c'
  | 'n' => some '\n'
  | 'r' => some '\r'
  | 't' => some '\t'
  | 'v' => some '\x0b'
  | _ => none

/-- The value of a digit in a base up to sixteen. -/
def digitOf (c : Char) : Nat :=
  if c.isDigit then c.toNat - '0'.toNat
  else if c.isLower then c.toNat - 'a'.toNat + 10
  else c.toNat - 'A'.toNat + 10

/-- The number that digits denote in a base. -/
def numeral (base : Nat) (digits : Chars) : Nat :=
  digits.foldl (fun n c => base * n + digitOf c) 0

/-- The number of at most so many leading digits, if there are any, and what follows. -/
def leadingNumber (base most : Nat) (isDigit : Char → Bool) (cs : Chars) : Option (Nat × Chars) :=
  match (cs.take most).takeWhile isDigit with
  | [] => none
  | digits => some (numeral base digits, cs.drop digits.length)

/-- The character with a number, which counts modulo 256. -/
def charOf (n : Nat) : Char :=
  Char.ofNat (n % 256)

/-! ### Lines -/

/-- **A line**: its text, and whether it has an end. -/
structure Line where
  text : Chars
  complete : Bool
  deriving DecidableEq, Repr

/-- The lines of a text; only the last one may lack its end. -/
def linesOf (lineEnd : Char) (cs : Chars) : List Line :=
  cs.foldr (fun c lines =>
    if c = lineEnd then ⟨[], true⟩ :: lines
    else match lines with
      | [] => [⟨[c], false⟩]
      | l :: lines => { l with text := c :: l.text } :: lines) []

/-- Lines as one text. -/
def joinLines (lineEnd : Char) (lines : List Line) : Chars :=
  lines.flatMap fun l => if l.complete then l.text ++ [lineEnd] else l.text

/-! ### Files

There are no files but those that every system has.
-/

/-- **What a file name leads to.** -/
inductive Source where
  /-- The input of the program. -/
  | input
  /-- A file with nothing in it. -/
  | nothing
  /-- A directory. -/
  | directory
  /-- A program. -/
  | program (name : String)
  /-- Nothing. -/
  | missing
  deriving DecidableEq, Repr

/-- Directories that every system has. -/
def directories : List String :=
  ["/", "/bin", "/dev", "/etc", "/home", "/lib", "/opt", "/proc", "/root", "/sbin", "/srv", "/sys",
    "/tmp", "/usr", "/usr/bin", "/usr/lib", "/usr/local", "/usr/local/bin", "/usr/local/sbin",
    "/usr/sbin", "/var", "/var/tmp"]

/-- The programs that are installed. -/
def installed : List String :=
  ["[", "cat", "dash", "echo", "env", "false", "printf", "sed", "sh", "sleep", "test", "tr", "true"]

/-- The directories that programs are in. -/
def programDirectories : List Chars :=
  ["/bin".toList, "/usr/bin".toList]

/-- Where programs are looked for, unless something else has been said. -/
def usualPath : Chars :=
  "/usr/local/sbin:/usr/local/bin:/usr/sbin:/usr/bin:/sbin:/bin".toList

/-- A file name without the parts that lead nowhere and those that lead back, if it begins at the
root. -/
def straight (name : Chars) : Chars :=
  if name.head? ≠ some '/' then name
  else
    let parts := (Path.partsList name).foldl (fun before part =>
      if part = [] ∨ part = ['.'] then before
      else if part = ['.', '.'] then before.drop 1
      else part :: before) []
    '/' :: ['/'].intercalate parts.reverse

namespace Source

/-- What a file name leads to. -/
def ofName (name : Chars) : Source :=
  let path := straight name
  let isProgram (k : String) : Bool :=
    programDirectories.any fun d => d ++ '/' :: k.toList == path
  if name = ['.'] ∨ name = ['.', '.'] ∨ directories.any (·.toList == path) then .directory
  else if name.getLast? = some '/' then .missing
  else if path = "/dev/stdin".toList then .input
  else if path = "/dev/null".toList then .nothing
  else match installed.find? isProgram with
    | some k => .program k
    | none => .missing

/-- What the name of a program leads to: without a slash it is looked for in some directories, which
colons separate. -/
def ofProgram (directories name : Chars) : Source :=
  if name.contains '/' then ofName name
  else
    let places := (linesOf ':' directories).map fun l => straight l.text
    let here := places.any programDirectories.contains
    match if here then installed.find? (·.toList == name) else none with
    | some k => .program k
    | none => .missing

/-- Whether a file name lies in a directory; slashes at its end count for nothing. -/
def hasPlace (name : Chars) : Bool :=
  match ((name.reverse.dropWhile (· == '/')).dropWhile (· != '/')).reverse with
  | [] => true
  | place => ofName place == .directory

end Source

/-- What the system says of a file that is not there. -/
def missingText : String :=
  "No such file or directory"

/-! ### Complaints -/

/-- A character by its number in base eight. -/
def inOctal (c : Char) : Chars :=
  let n := c.toNat
  ['\\', Nat.digitChar (n / 64), Nat.digitChar (n / 8 % 8), Nat.digitChar (n % 8)]

/-- A character made visible. -/
def escaped (c : Char) : Chars :=
  if c = '\\' then ['\\', '\\']
  else if isPrintable c then [c]
  else match ['a', 'b', 'f', 'n', 'r', 't', 'v'].find? fun l => controlOf l == some c with
    | some l => ['\\', l]
    | none => inOctal c

/-- A quoted text, as complaints show it. -/
def quoted (cs : Chars) : String :=
  "'" ++ String.ofList (cs.flatMap fun c => if c = '\x27' then ['\\', c] else escaped c) ++ "'"

/-- A file name as complaints show it: in quotes only if it could be mistaken. -/
def shownName (cs : Chars) : String :=
  let plain (c : Char) : Bool := c.isAlphanum || "%+,-./:=@_".toList.contains c
  if !cs.isEmpty ∧ cs.all plain then String.ofList cs
  else if cs.contains '\x27' then "\"" ++ String.ofList cs ++ "\""
  else "'" ++ String.ofList cs ++ "'"

/-- The line that follows a complaint about how a program was called. -/
def helpHint (name : String) : String :=
  s!"Try '{name} --help' for more information."

end Automaton.Filter
