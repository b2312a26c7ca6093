import Automaton.Filter.Shell.Script

/-!
# Arithmetic in shell scripts

Expressions are read into trees (`Arithmetic.Tree`) by the strength of their operators and then
evaluated over the variables of the shell.  Numbers are words of 64 bits with a sign.
-/

namespace Automaton.Filter.Shell.Arithmetic

/-- **An expression.** -/
inductive Tree where
  /-- A number. -/
  | number (n : Int)
  /-- The value of a variable. -/
  | reference (name : Chars)
  /-- A sign before an expression. -/
  | sign (s : String) (a : Tree)
  /-- Two expressions with an operator between them. -/
  | operation (s : String) (a b : Tree)
  /-- One of two expressions. -/
  | choice (condition yes no : Tree)
  /-- Gives a value to a variable. -/
  | assign (name : Chars) (s : String) (a : Tree)
  deriving Repr, Inhabited

/-- **A token.** -/
inductive Token where
  | number (n : Int)
  | name (cs : Chars)
  | sign (s : String)
  /-- A character that belongs to none. -/
  | stray
  deriving DecidableEq, Repr

/-- All signs, longer ones first. -/
def signs : List String :=
  ["<<=", ">>=", "<<", ">>", "<=", ">=", "==", "!=", "&&", "||", "+=", "-=", "*=", "/=", "%=",
    "&=", "|=", "^=", "+", "-", "*", "/", "%", "&", "|", "^", "~", "!", "<", ">", "=", "?", ":",
    "(", ")"]

/-- The number that a text begins with, in base eight behind a zero and in base sixteen behind
`0x`. -/
def leading : Chars → Option (Nat × Chars)
  | '0' :: 'x' :: cs => (leadingNumber 16 cs.length isHex cs).orElse fun _ => some (0, 'x' :: cs)
  | '0' :: cs => (leadingNumber 8 cs.length isOctal cs).orElse fun _ => some (0, cs)
  | cs => leadingNumber 10 cs.length Char.isDigit cs

/-- A number as a word of 64 bits. -/
def wrap (n : Int) : Int :=
  Int.bmod n (Nat.pow 2 64)

/-- The tokens of a text. -/
def tokens : Nat → Chars → List Token
  | 0, _ => []
  | fuel + 1, cs => match cs with
    | [] => []
    | c :: rest =>
      if isSpace c then tokens fuel rest
      else if isNameStart c then
        let name := cs.takeWhile isWordPart
        .name name :: tokens fuel (cs.drop name.length)
      else match leading cs with
        | some (n, rest) => .number (wrap n) :: tokens fuel rest
        | none => match signs.find? fun s => s.toList.isPrefixOf cs with
          | some s => .sign s :: tokens fuel (cs.drop s.length)
          | none => .stray :: tokens fuel rest

/-- Operators by their strength, the weakest ones first. -/
def levels : List (List String) :=
  [["||"], ["&&"], ["|"], ["^"], ["&"], ["==", "!="], ["<", ">", "<=", ">="], ["<<", ">>"],
    ["+", "-"], ["*", "/", "%"]]

/-- Reading from tokens. -/
abbrev Read := StateT (List Token) (Except String)

mutual

/-- An expression. -/
def whole : Nat → Read Tree
  | 0 => throw "expecting primary"
  | fuel + 1 => do
    match ← get with
    | .name x :: .sign s :: ts =>
      if s = "=" ∨ ["+=", "-=", "*=", "/=", "%=", "&=", "|=", "^=", "<<=", ">>="].contains s then
        set ts
        return .assign x (String.ofList s.toList.dropLast) (← whole fuel)
      else chosen fuel
    | _ => chosen fuel

/-- An expression without assignments. -/
def chosen : Nat → Read Tree
  | 0 => throw "expecting primary"
  | fuel + 1 => do
    let a ← level fuel levels
    match ← get with
    | .sign "?" :: ts =>
      set ts
      let b ← whole fuel
      match ← get with
      | .sign ":" :: ts =>
        set ts
        return .choice a b (← chosen fuel)
      | _ => throw "expecting ':'"
    | _ => pure a

/-- An expression with operators of some strengths only. -/
def level : Nat → List (List String) → Read Tree
  | 0, _ => throw "expecting primary"
  | fuel + 1, [] => primary fuel
  | fuel + 1, operators :: levels => do
    let a ← level fuel levels
    more fuel operators levels a

/-- What follows an expression with operators of one strength. -/
def more : Nat → List String → List (List String) → Tree → Read Tree
  | 0, _, _, a => pure a
  | fuel + 1, operators, levels, a => do
    match ← get with
    | .sign s :: ts =>
      if operators.contains s then
        set ts
        let b ← level fuel levels
        more fuel operators levels (.operation s a b)
      else pure a
    | _ => pure a

/-- An expression without operators. -/
def primary : Nat → Read Tree
  | 0 => throw "expecting primary"
  | fuel + 1 => do
    match ← get with
    | .number n :: ts => set ts; pure (.number n)
    | .name x :: ts => set ts; pure (.reference x)
    | .sign "(" :: ts =>
      set ts
      let a ← whole fuel
      match ← get with
      | .sign ")" :: ts => set ts; pure a
      | _ => throw "expecting ')'"
    | .sign s :: ts =>
      if ["-", "+", "!", "~"].contains s then
        set ts
        return .sign s (← primary fuel)
      else throw "expecting primary"
    | _ => throw "expecting primary"

end

/-- The variables of a shell. -/
abbrev Variables := List (Chars × Chars)

/-- **Why an expression has no value.** -/
inductive Fault where
  /-- The expression makes no sense. -/
  | senseless (reason : String)
  /-- The value of a variable is no number. -/
  | noNumber (text : Chars)
  /-- A variable keeps its value. -/
  | constant (name : Chars)
  deriving DecidableEq, Repr

/-- What is said about a fault in a written expression. -/
def Fault.message (expression : Chars) : Fault → String
  | senseless reason => s!"arithmetic expression: {reason}: \"{String.ofList expression}\""
  | noNumber text => s!"Illegal number: {String.ofList text}"
  | constant name => s!"{String.ofList name}: is read only"

/-- The value of an operation. -/
def operate (s : String) (a b : Int) : Except Fault Int :=
  let truth (p : Bool) : Int := if p then 1 else 0
  match s with
  | "+" => .ok (wrap (a + b))
  | "-" => .ok (wrap (a - b))
  | "*" => .ok (wrap (a * b))
  | "/" => if b = 0 then .error (.senseless "division by zero") else .ok (wrap (a.tdiv b))
  | "%" => if b = 0 then .error (.senseless "division by zero") else .ok (a.tmod b)
  | "<<" => .ok (wrap (a * Nat.pow 2 (b % 64).toNat))
  | ">>" => .ok (a.fdiv (Nat.pow 2 (b % 64).toNat))
  | "<" => .ok (truth (a < b))
  | ">" => .ok (truth (b < a))
  | "<=" => .ok (truth (a ≤ b))
  | ">=" => .ok (truth (b ≤ a))
  | "==" => .ok (truth (a == b))
  | "!=" => .ok (truth (a != b))
  | "&" => .ok ((BitVec.ofInt 64 a &&& BitVec.ofInt 64 b).toInt)
  | "|" => .ok ((BitVec.ofInt 64 a ||| BitVec.ofInt 64 b).toInt)
  | "^" => .ok ((BitVec.ofInt 64 a ^^^ BitVec.ofInt 64 b).toInt)
  | _ => .ok b

/-- The number that the value of a variable is. -/
def numberOf (cs : Chars) : Except Fault Int :=
  let cs := cs.dropWhile isSpace
  let (negative, digits) := match cs with
    | '-' :: ds => (true, ds)
    | '+' :: ds => (false, ds)
    | ds => (false, ds)
  match leading digits with
  | none => if cs.isEmpty then .ok 0 else .error (.noNumber cs)
  | some (n, rest) =>
    if rest.all isSpace then .ok (wrap (if negative then -n else n))
    else .error (.noNumber cs)

/-- The text of a number. -/
def textOf (n : Int) : Chars :=
  (toString n).toList

/-- The value of a variable. -/
def fetch (name : Chars) : StateT Variables (Except Fault) Int := do
  match (← get).lookup name with
  | none => pure 0
  | some cs => numberOf cs

/-- **The value of an expression**; assignments change the variables, except constants. -/
def Tree.value (constants : List Chars) : Tree → StateT Variables (Except Fault) Int
  | number n => pure n
  | reference x => fetch x
  | sign s a => do
    let n ← a.value constants
    pure (match s with
      | "-" => wrap (-n)
      | "~" => -n - 1
      | "!" => if n = 0 then 1 else 0
      | _ => n)
  | operation s a b => do
    let n ← a.value constants
    if s = "&&" ∧ n = 0 then pure 0
    else if s = "||" ∧ n ≠ 0 then pure 1
    else
      let m ← b.value constants
      if s = "&&" ∨ s = "||" then pure (if m = 0 then 0 else 1)
      else operate s n m
  | choice c a b => do
    if (← c.value constants) ≠ 0 then a.value constants else b.value constants
  | assign x s a => do
    let m ← a.value constants
    let n ← if s.isEmpty then pure m else fetch x
    let r ← operate s n m
    if constants.contains x then throw (.constant x)
    modify fun vs => (x, textOf r) :: vs.filter (·.1 != x)
    pure r

/-- The value of a written expression, and the variables then. -/
def evaluate (cs : Chars) (constants : List Chars) (bindings : Variables) :
    Except String (Int × Variables) :=
  let ts := tokens (cs.length + 1) cs
  let value : Except Fault (Int × Variables) :=
    match (whole (40 * ts.length + 40)).run ts with
    | .error reason => .error (.senseless reason)
    | .ok (_, _ :: _) => .error (.senseless "expecting EOF")
    | .ok (tree, []) => (tree.value constants).run bindings
  value.mapError (Fault.message cs)

end Automaton.Filter.Shell.Arithmetic
