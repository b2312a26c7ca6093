import Automaton.Filter.Basic

/-!
# Conditions

`test` succeeds if a condition on its arguments holds: on texts, on numbers or on files, also
several of them with signs between.  Which arguments are operators hangs on how many there are, so
that a text that looks like an operator can still be tested.
-/

namespace Automaton.Filter

namespace Condition

/-- The operators between two operands. -/
def comparisons : List String :=
  ["=", "!=", "<", ">", "-eq", "-ne", "-ge", "-gt", "-le", "-lt", "-nt", "-ot", "-ef"]

/-- The operators before one operand. -/
def unary : List String :=
  ["-r", "-w", "-x", "-e", "-f", "-d", "-c", "-b", "-p", "-u", "-g", "-k", "-s", "-t", "-z", "-n",
    "-h", "-O", "-G", "-L", "-S"]

/-- The number that a text is. -/
def numberOf (cs : Chars) : Except String Int :=
  let fault : Except String Int := .error s!"Illegal number: {String.ofList cs}"
  let trimmed := cs.dropWhile isSpace
  let (negative, digits) := match trimmed with
    | '-' :: ds => (true, ds)
    | '+' :: ds => (false, ds)
    | ds => (false, ds)
  match leadingNumber 10 digits.length Char.isDigit digits with
  | none => fault
  | some (n, rest) =>
    if rest.all isSpace then .ok (if negative then -n else n) else fault

/-- What a file is. -/
def isFile (operator : String) (name : Chars) : Bool :=
  match operator, Source.ofName name with
  | _, .missing => false
  | "-e", _ | "-r", _ | "-w", _ | "-O", _ | "-G", _ => true
  | "-d", .directory | "-x", .directory | "-s", .directory => true
  | "-f", .program _ | "-x", .program _ | "-s", .program _ => true
  | "-c", .nothing => true
  | "-p", .input => true
  | _, _ => false

/-- A condition with an operator before its operand. -/
def holdsOf (operator : String) (a : Chars) : Except String Bool :=
  match operator with
  | "-n" => .ok (!a.isEmpty)
  | "-z" => .ok a.isEmpty
  | "-t" => (numberOf a).map fun _ => false
  | _ => .ok (isFile operator a)

/-- A condition with an operator between its operands. -/
def holdsBetween (operator : String) (a b : Chars) : Except String Bool :=
  let compared (p : Int → Int → Bool) : Except String Bool := do
    return p (← numberOf a) (← numberOf b)
  match operator with
  | "=" => .ok (a == b)
  | "!=" => .ok (a != b)
  | "<" => .ok (String.ofList a < String.ofList b)
  | ">" => .ok (String.ofList b < String.ofList a)
  | "-eq" => compared (· == ·)
  | "-ne" => compared (· != ·)
  | "-ge" => compared fun m n => n ≤ m
  | "-gt" => compared fun m n => n < m
  | "-le" => compared fun m n => m ≤ n
  | "-lt" => compared fun m n => m < n
  | _ => .ok false

/-- **How far a condition has been read**: whether it holds, the argument that was read last, and
those that are left. -/
structure Reading where
  holds : Bool
  last : Chars
  left : List Chars

/-- The operator that an argument is, given the arguments behind it. -/
def operator? (a : Chars) (behind : List Chars) : Option String :=
  let s := String.ofList a
  if unary.contains s then
    match behind with
    | [] => none
    | [_] => some s
    | b :: _ => if comparisons.contains (String.ofList b) then none else some s
  else if s = "(" ∧ behind.isEmpty then none
  else if s = "(" ∨ s = "!" then some s
  else none

/-- The comparison that comes next. -/
def comparison? : List Chars → Option (String × List Chars)
  | a :: rest =>
    let s := String.ofList a
    if comparisons.contains s then some (s, rest) else none
  | [] => none

/-- A condition that begins with an operand. -/
def compared (a : Chars) (rest : List Chars) : Except String Reading :=
  match comparison? rest with
  | none => .ok ⟨!a.isEmpty, a, rest⟩
  | some (s, []) => .error s!"{s}: argument expected"
  | some (s, b :: rest) => do return ⟨← holdsBetween s a b, b, rest⟩

mutual

/-- Conditions of which one has to hold. -/
def anyOf : Nat → List Chars → Except String Reading
  | 0, _ => .ok ⟨false, [], []⟩
  | fuel + 1, arguments => do
    let r ← allOf fuel arguments
    match r.left with
    | ['-', 'o'] :: rest =>
      let r' ← anyOf fuel rest
      pure { r' with holds := r.holds || r'.holds }
    | _ => pure r

/-- Conditions that all have to hold. -/
def allOf : Nat → List Chars → Except String Reading
  | 0, _ => .ok ⟨false, [], []⟩
  | fuel + 1, arguments => do
    let r ← single fuel arguments
    match r.left with
    | ['-', 'a'] :: rest =>
      let r' ← allOf fuel rest
      pure { r' with holds := r.holds && r'.holds }
    | _ => pure r

/-- A single condition. -/
def single : Nat → List Chars → Except String Reading
  | 0, _ => .ok ⟨false, [], []⟩
  | _ + 1, [] => .ok ⟨false, [], []⟩
  | fuel + 1, a :: rest => do
    match operator? a rest with
    | some "!" =>
      let r ← single fuel rest
      pure { r with holds := !r.holds }
    | some "(" =>
      match rest with
      | [')'] :: rest => pure ⟨false, [')'], rest⟩
      | rest =>
        let r ← anyOf fuel rest
        match r.left with
        | [')'] :: rest => pure { r with last := [')'], left := rest }
        | _ => throw "closing paren expected"
    | some s =>
      if unary.contains s then
        match rest with
        | [] => throw s!"{s}: argument expected"
        | b :: rest => return ⟨← holdsOf s b, b, rest⟩
      else compared a rest
    | none => compared a rest

end

/-- **Whether a condition holds.** -/
def holds : Nat → List Chars → Except String Bool
  | 0, _ => .ok false
  | fuel + 1, arguments =>
    let whole (arguments : List Chars) : Except String Bool := do
      let r ← anyOf (10 * arguments.length + 10) arguments
      if r.left.isEmpty then pure r.holds
      else throw s!"{String.ofList r.last}: unexpected operator"
    let short (arguments : List Chars) : Except String Bool :=
      match arguments with
      | ['!'] :: rest => (holds fuel rest).map (!·)
      | ['('] :: rest =>
        if rest.getLast? = some [')'] then whole rest.dropLast else whole arguments
      | _ => whole arguments
    match arguments with
    | [] => .ok false
    -- with an operator in the middle, the outer arguments are texts whatever they look like
    | [a, o, b] =>
      if comparisons.contains (String.ofList o) then holdsBetween (String.ofList o) a b
      else short arguments
    | [_, _, _, _] => short arguments
    | _ => whole arguments

/-- The verdict on the arguments of `test` or, under the name of a bracket, of those in front of the
closing one. -/
def verdict (name : String) (arguments : List Chars) : Except String Bool :=
  if name = "[" then
    if arguments.getLast? = some [']'] then holds 9 arguments.dropLast else .error "missing ]"
  else holds 9 arguments

end Condition

/-- **Succeeds if a condition holds.** -/
def test : Program := fun name arguments input =>
  match Condition.verdict name arguments with
  | .ok holds => ⟨if holds then 0 else 1, [], [], input⟩
  | .error fault => .refused 2 s!"{name}: {fault}" input

end Automaton.Filter
