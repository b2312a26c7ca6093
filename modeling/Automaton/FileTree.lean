import Automaton.Catalog
import Automaton.Host.Basic
import Automaton.Path

/-!
# Files in memory

A `FileTree` holds files and directories by name, and is a host for commands: what a command does to
the tree can be looked at afterwards.

Every place in the tree has one *address*: the names that lead to it from the working directory,
without detours.  Only at its beginning may an address lead out of the working directory, by two
dots or, for absolute paths, by a slash; those places are directories.

A path is walked part by part (`FileTree.walk`), and every part but the last must lead to a
directory.  The walk is what tells a missing file from a path that passes through a file.
-/

namespace Automaton

/-- **What is at a place.** -/
inductive FileTree.Entry where
  /-- A file with its bytes. -/
  | file (contents : ByteArray)
  /-- A directory. -/
  | directory

/-- **Files and directories** by address. -/
structure FileTree where
  /-- The entries, apart from the directories that every tree has. -/
  entries : Catalog FileTree.Entry

namespace FileTree

/-- A tree without files. -/
def empty : FileTree := ⟨Catalog.empty⟩

/-- An address: the names that lead to a place, the last one first. -/
abbrev Address := List String

/-- The working directory. -/
def here : Address := []

/-- The directory that contains all others. -/
def top : Address := ["/"]

/-- The text of an address. -/
def spelled (a : Address) : String :=
  Text.joined "/" a.reverse

/-- What is at an address. -/
def get? (t : FileTree) (a : Address) : Option Entry :=
  match a with
  | [] => some .directory
  | name :: _ =>
    if name = Path.back ∨ a = top then some .directory else t.entries.get? (spelled a)

/-- Puts an entry at an address. -/
def insert (t : FileTree) (a : Address) (e : Entry) : FileTree :=
  ⟨t.entries.insert (spelled a) e⟩

/-- Removes the entry at an address. -/
def erase (t : FileTree) (a : Address) : FileTree :=
  ⟨t.entries.erase (spelled a)⟩

/-! ### Walking along a path -/

/-- The most bytes that a name may have. -/
def longestName : Nat := 255

/-- The most bytes that a path may have. -/
def longestPath : Nat := 4095

/-- The address that a part leads to. -/
def follow (a : Address) (part : String) : Address :=
  if Path.isIdle part then a
  else if part = Path.back then
    match a with
    | [] => [Path.back]
    | name :: rest =>
      if name = Path.back then Path.back :: a
      else if a = top then a
      else rest
  else part :: a

/-- **Walking** from a directory along parts, all of which have to lead to directories. -/
def walk (t : FileTree) (a : Address) : List String → Except FileFault Address
  | [] => .ok a
  | part :: parts =>
    if longestName < part.utf8ByteSize then .error .tooLong
    else match t.get? (follow a part) with
      | none => .error .missing
      | some (.file _) => .error .notDirectory
      | some .directory => t.walk (follow a part) parts

/-- **Where a path leads.** -/
inductive Goal where
  /-- To a directory, by a path that does not end in its name. -/
  | directory (a : Address)
  /-- To a name in a directory.  A slash behind the name asks for a directory. -/
  | named (a : Address) (slash : Bool)

/-- **Finding the goal of a path.** -/
def goal (t : FileTree) (path : String) : Except FileFault Goal :=
  let parts := Path.parts path
  let start := if path.toList.head? = some '/' then top else here
  if path = "" then .error .missing
  else if path.toList.contains '\x00' then .error .nulInPath
  else if longestPath < path.utf8ByteSize then .error .tooLong
  else match parts.reverse.dropWhile (· == "") with
    | [] => .ok (.directory start)
    | last :: before => do
      if last = "." ∨ last = Path.back then
        pure (.directory (← t.walk start (before.reverse ++ [last])))
      else
        let a ← t.walk start before.reverse
        if longestName < last.utf8ByteSize then .error .tooLong
        else pure (.named (last :: a) (parts.getLast? == some ""))

/-! ### Reading and writing -/

/-- The bytes of a file. -/
def read (t : FileTree) (path : String) : Except FileFault ByteArray := do
  match ← t.goal path with
  | .directory _ => .error .isDirectory
  | .named a slash => match t.get? a with
    | none => .error .missing
    | some .directory => .error .isDirectory
    | some (.file contents) => if slash then .error .notDirectory else .ok contents

/-- Whether there is anything at a path. -/
def isPresent (t : FileTree) (path : String) : Bool :=
  match t.goal path with
  | .error _ => false
  | .ok (.directory _) => true
  | .ok (.named a slash) => match t.get? a with
    | none => false
    | some .directory => true
    | some (.file _) => !slash

/-- Makes an empty file where there was nothing. -/
def create (t : FileTree) (path : String) : Except FileFault FileTree := do
  match ← t.goal path with
  | .directory _ => .error .present
  | .named a slash =>
    if slash then .error .isDirectory
    else match t.get? a with
      | none => .ok (t.insert a (.file ByteArray.empty))
      | some _ => .error .present

/-- Fills a file, which is made if it is missing. -/
def write (t : FileTree) (path : String) (contents : ByteArray) : Except FileFault FileTree := do
  match ← t.goal path with
  | .directory _ => .error .isDirectory
  | .named a slash =>
    if slash then .error .isDirectory
    else match t.get? a with
      | some .directory => .error .isDirectory
      | _ => .ok (t.insert a (.file contents))

/-- Moves a file to another path, in the place of a file that may be there. -/
def rename (t : FileTree) (source target : String) : Except FileFault FileTree := do
  let contents ← t.read source
  match ← t.goal source, ← t.goal target with
  | .named a _, .named b slash =>
    if slash then .error .notDirectory
    else match t.get? b with
      | some .directory => .error .isDirectory
      | _ => .ok ((t.erase a).insert b (.file contents))
  | _, _ => .error .busy

/-- Removes a file. -/
def remove (t : FileTree) (path : String) : Except FileFault FileTree := do
  let _ ← t.read path
  match ← t.goal path with
  | .named a _ => .ok (t.erase a)
  | .directory _ => .error .isDirectory

/-- Whether a path leads to a directory. -/
def leadsToDirectory (t : FileTree) (path : String) : Bool :=
  match t.goal path with
  | .error _ => false
  | .ok (.directory _) => true
  | .ok (.named a _) => match t.get? a with
    | some .directory => true
    | _ => false

/-- Makes a directory, unless there is one. -/
def makeLast (t : FileTree) (path : String) : Except FileFault FileTree :=
  if t.leadsToDirectory path then .ok t
  else do
    match ← t.goal path with
    | .directory _ => .error .present
    | .named a _ => match t.get? a with
      | none => .ok (t.insert a .directory)
      | some _ => .error .present

/-- The parts of a path that lead somewhere, the last one first. -/
def along (path : String) : Address :=
  ((Path.parts path).filter (!Path.isIdle ·)).reverse ++
    (if path.toList.head? = some '/' then top else here)

/-- The files in the working directory and below, by path. -/
def files (t : FileTree) : List (String × ByteArray) :=
  t.entries.entries.filterMap fun (address, e) =>
    match e with
    | .directory => none
    | .file contents =>
      match Path.parts address with
      | part :: _ => if part = Path.back ∨ part = "" then none else some (address, contents)
      | [] => none

/-- The files that are not in an earlier tree, or have other bytes there. -/
def filesSince (t earlier : FileTree) : List (String × ByteArray) :=
  t.files.filter fun f => !earlier.files.contains f

/-! ### As a host -/

/-- An operation that leaves a new tree, or the old one if it is refused. -/
def attempt (operation : FileTree → Except FileFault FileTree) :
    StateM FileTree (Except FileFault Unit) := do
  match operation (← get) with
  | .ok t =>
    set t
    pure (.ok ())
  | .error f => pure (.error f)

/-- Makes a directory and, if that is why it cannot be made, the ones on the way to it, whose names
are given last one first.  They stay even if the directory is refused. -/
def makeAlong (path : String) : Address → StateM FileTree (Except FileFault Unit)
  | [] => attempt (·.makeLast path)
  | name :: names => do
    match ← attempt (·.makeLast path) with
    | .error .missing =>
      match ← makeAlong (spelled (name :: names)) names with
      | .ok () => attempt (·.makeLast path)
      | refused => pure refused
    | result => pure result

/-- **Making a directory**, with all directories on the way to it. -/
def makeDirectory (path : String) : StateM FileTree (Except FileFault Unit) :=
  if path = "" then pure (.ok ()) else makeAlong path (along path).tail

/-- **Putting a file** into the tree, with all directories on the way to it. -/
def put (path : String) (contents : ByteArray) : StateM FileTree (Except FileFault Unit) := do
  match ← makeDirectory (spelled (along path).tail) with
  | .ok () => attempt (·.write path contents)
  | refused => pure refused

/-- **A tree as a host.** -/
def host (home : Option String) (run : Nat) (tools : Toolbox) : Host (StateM FileTree) where
  read path := do pure ((← get).read path)
  isPresent path := do pure ((← get).isPresent path)
  create path := attempt (·.create path)
  write path contents := attempt (·.write path contents)
  rename source target := attempt (·.rename source target)
  remove path := attempt (·.remove path)
  home
  run
  tools

end FileTree

end Automaton
