import Automaton.Filter.Shell.Token

/-!
# Reading shell scripts

A script is read line by line, where a line goes on as long as a command in it does.  So a fault in
a later line does not keep the earlier ones from being carried out (`Shell.readLines`).

What ends a word hangs on where it stands, so there is no reading of tokens before that of commands:
the two take turns.  Every function gets a count that bounds how deep it may go; the length of the
script bounds how deep it has to.
-/

namespace Automaton.Filter.Shell

mutual

/-- The pieces of a word from here on. -/
def pieces : Nat → Place → Read Word
  | 0, _ => pure []
  | fuel + 1, place => do
    let quoted := place.isQuoted
    match ← peek? with
    | none => match place with
      | .bare | .document => pure []
      | .quotes => fail "Syntax error: Unterminated quoted string"
      | .braces _ => fail "Syntax error: Missing '\x7d'"
      | .expression _ => fail "Syntax error: Missing '))'"
    | some c =>
      let plain (place : Place) : Read Word := do
        drop
        return (Piece.text [c] quoted).before (← pieces fuel place)
      match c with
      | '\\' =>
        drop
        match (← get).rest.head? with
        | none => return [.text ['\\'] quoted]
        | some d =>
          if place.escapable d then
            drop
            return (Piece.text [d] true).before (← pieces fuel place)
          else return (Piece.text ['\\'] true).before (← pieces fuel place)
      | '$' =>
        drop
        let p ← dollar fuel quoted
        return p.before (← pieces fuel place)
      | '\x60' =>
        drop
        let r ← get
        match backQuoted quoted r.rest with
        | none => failAtEnd "Syntax error: EOF in backquote substitution"
        | some (text, rest) =>
          -- a script of its own, which knows nothing of the lines around it; what cannot follow its
          -- statements is passed over
          set { r with rest := text, line := 1, early := 0, ahead := none }
          let body ← statements fuel true
          set { r with rest, line := r.line + (r.rest.count '\n' - rest.count '\n') }
          return .output body quoted :: (← pieces fuel place)
      | '\x27' =>
        if quoted then plain place
        else
          drop
          let r ← get
          match singleQuoted r.rest with
          | none => failAtEnd "Syntax error: Unterminated quoted string"
          | some (text, rest) =>
            set { r with rest, line := r.line + text.count '\n' }
            return (Piece.text text true).before (← pieces fuel place)
      | '"' => match place with
        | .quotes => drop; pure []
        | .document | .expression _ => plain place
        | _ =>
          drop
          let inner ← pieces fuel .quotes
          let rest ← pieces fuel place
          match inner with
          | [.value ['@'] .all _] => return inner ++ rest
          -- quotes make a word even of nothing
          | inner => return (Piece.text [] true).before (inner.foldr Piece.before rest)
      | c => match place with
        | .bare => if endsWord c then pure [] else plain place
        | .braces _ => if c = '\x7d' then drop; pure [] else plain place
        | .expression depth =>
          if c = '(' then plain (.expression (depth + 1))
          else if c ≠ ')' then plain place
          else if depth ≠ 0 then plain (.expression (depth - 1))
          else
            drop
            if ← take? ')' then pure []
            else return (Piece.text [')'] quoted).before (← pieces fuel place)
        | _ => plain place

/-- The piece behind a dollar sign. -/
def dollar : Nat → Bool → Read Piece
  | 0, quoted => pure (.text ['$'] quoted)
  | fuel + 1, quoted => do
    match ← peek? with
    | some '(' =>
      drop
      if ← take? '(' then return .sum (← pieces fuel (.expression 0)) quoted
      else
        let outer := (← get).ahead
        modify fun r => { r with ahead := none }
        let body ← statements fuel true
        match ← token fuel with
        | .sign ")" => pure ()
        | t => unexpected t "\")\""
        modify fun r => { r with ahead := outer }
        return .output body quoted
    | some '\x7b' =>
      drop
      inBraces fuel quoted
    | some c =>
      if isNameStart c then return .value (← takeWhile isWordPart fuel) .all quoted
      else if c.isDigit ∨ isSpecial c then
        drop
        return .value [c] .all quoted
      else pure (.text ['$'] quoted)
    | none => pure (.text ['$'] quoted)

/-- The value in braces. -/
def inBraces : Nat → Bool → Read Piece
  | 0, _ => pure default
  | fuel + 1, quoted => do
    let senseless : Read Piece := do
      let _ ← pieces fuel (.braces quoted)
      return .value [] .senseless quoted
    let parameter : Read Chars := do
      match ← peek? with
      | some c =>
        if isNameStart c then takeWhile isWordPart fuel
        else if c.isDigit then takeWhile Char.isDigit fuel
        else if isSpecial c then drop; pure [c]
        else pure []
      | none => pure []
    let name ← parameter
    if name = ['#'] then
      -- either the length of what follows, or the number of parameters
      match ← peek? with
      | some c =>
        if isWordPart c ∨ (isSpecial c ∧ (← get).rest[1]? = some '\x7d') then
          let name ← parameter
          if ← take? '\x7d' then return .value name .length quoted
          else return ← senseless
      | none => pure ()
    if name.isEmpty then senseless
    else if ← take? '\x7d' then return .value name .all quoted
    else
      let trimmed (atEnd : Bool) (sign : Char) : Read Piece := do
        drop
        let longest ← take? sign
        return .value name (.trimmed atEnd longest (← pieces fuel (.braces false))) quoted
      match ← peek? with
      | some '%' => trimmed true '%'
      | some '#' => trimmed false '#'
      | _ =>
        let orEmpty ← take? ':'
        let fallback? : Option Fallback := match ← peek? with
          | some '-' => some .use
          | some '=' => some .assign
          | some '?' => some .complain
          | some '+' => some .replace
          | _ => none
        match fallback? with
        | none => senseless
        | some fallback =>
          drop
          return .value name (.instead fallback orEmpty (← pieces fuel (.braces quoted))) quoted

/-- The next token. -/
def token : Nat → Read Token
  | 0 => pure .finish
  | fuel + 1 => do
    match (← get).ahead with
    | some t =>
      modify fun r => { r with ahead := none }
      pure t
    | none =>
      let redirect (channel : Nat) (sign : Char) : Read Token := do
        drop
        if sign = '>' then
          if ← take? '>' then pure (.redirection channel .targetEnd false)
          else if ← take? '&' then pure (.redirection channel .copy false)
          else
            let _ ← take? '|'
            pure (.redirection channel .target false)
        else if ← take? '<' then pure (.redirection channel .document (← take? '-'))
        else if ← take? '&' then pure (.redirection channel .copy false)
        else if ← take? '>' then pure (.redirection channel .targetEnd false)
        else pure (.redirection channel .source false)
      let doubled (c : Char) : Read Token := do
        drop
        if ← take? c then pure (.sign (String.ofList [c, c]))
        else pure (.sign (String.singleton c))
      match ← peek? with
      | none => pure .finish
      | some '\n' => drop; pure .newline
      | some '#' =>
        modify fun r => { r with rest := r.rest.dropWhile (· != '\n') }
        token fuel
      | some c =>
        if c = ' ' ∨ c = '\t' then drop; token fuel
        else if c = '&' ∨ c = '|' ∨ c = ';' then doubled c
        else if c = '(' ∨ c = ')' then drop; pure (.sign (String.singleton c))
        else if c = '>' then redirect 1 c
        else if c = '<' then redirect 0 c
        else match (← get).rest with
          | d :: e :: _ =>
            if d.isDigit ∧ (e = '<' ∨ e = '>') then
              drop
              redirect (digitOf d) e
            else return .word (← pieces fuel .bare)
          | _ => return .word (← pieces fuel .bare)

/-- The next token that is not the end of a line. -/
def tokenBeyond : Nat → Read Token
  | 0 => pure .finish
  | fuel + 1 => do
    match ← token fuel with
    | .newline => tokenBeyond fuel
    | t => pure t

/-- The redirections from here on. -/
def redirections : Nat → Read (List Redirection)
  | 0 => pure []
  | fuel + 1 => do
    match ← token fuel with
    | .redirection channel direction indented =>
      let r ← redirection fuel channel direction indented
      return r :: (← redirections fuel)
    | t => giveBack t; pure []

/-- The rest of a redirection. -/
def redirection : Nat → Nat → Direction → Bool → Read Redirection
  | 0, channel, direction, _ => pure (.mk channel direction [])
  | fuel + 1, channel, direction, indented => do
    match ← token fuel with
    | .word w =>
      if direction ≠ .document then return .mk channel direction w
      let (last, quoted) := writtenText w
      let text ← takeDocument indented last
      -- a quoted last line turns off all meaning within the text
      if quoted then return .mk channel .document [.text text true]
      let r ← get
      set { r with rest := text }
      let body ← pieces fuel .document
      set r
      return .mk channel .document body
    | t => unexpected t ""

/-- A simple command from here on, or the definition of a function. -/
def simple : Nat → Nat → List (Chars × Word) → List Word → List Redirection → Read Command
  | 0, _, _, _, _ => pure .idle
  | fuel + 1, line, assignments, words, rs => do
    match ← token fuel with
    | .word w => match if words.isEmpty then assignment? w else none with
      | some a => simple fuel line (assignments ++ [a]) words rs
      | none => simple fuel line assignments (words ++ [w]) rs
    | .redirection channel direction indented =>
      let r ← redirection fuel channel direction indented
      simple fuel line assignments words (rs ++ [r])
    | .sign "(" => match words, assignments, rs with
      | [w], [], [] =>
        match ← token fuel with
        | .sign ")" => pure ()
        | t => unexpected t "\")\""
        -- parentheses behind a first word make it the name of a function
        let name := (writtenText w).1
        if !isName name then fail "Syntax error: Bad function name"
        giveBack (← tokenBeyond fuel)
        return .define name (← command fuel)
      | _, _, _ =>
        giveBack (.sign "(")
        return .simple line assignments words rs
    | t =>
      giveBack t
      return .simple line assignments words rs

/-- Takes a keyword. -/
def expect : Nat → String → Read Unit
  | 0, _ => pure ()
  | fuel + 1, k => do
    let t ← token fuel
    if t.keyword? ≠ some k then unexpected t s!"\"{k}\""

/-- The rest of a choice, from behind its first keyword. -/
def choice : Nat → Read Command
  | 0 => pure .idle
  | fuel + 1 => do
    let condition ← statements fuel false
    expect fuel "then"
    let yes ← statements fuel false
    let t ← token fuel
    match t.keyword? with
    | some "elif" => return .choice condition yes (← choice fuel)
    | some "else" => return .choice condition yes (← statements fuel false)
    | _ =>
      giveBack t
      return .choice condition yes .idle

/-- Words up to the first token that is none. -/
def words : Nat → Read (List Word)
  | 0 => pure []
  | fuel + 1 => do
    match ← token fuel with
    | .word w => return w :: (← words fuel)
    | t => giveBack t; pure []

/-- The patterns of a branch, up to the parenthesis behind them; the first token has been read. -/
def patterns : Nat → Token → Read (List Word)
  | 0, _ => pure []
  | fuel + 1, t => do
    let w := match t with
      | .word w => w
      | _ => []
    match ← token fuel with
    | .sign "|" => return w :: (← patterns fuel (← token fuel))
    | .sign ")" => return [w]
    | t => unexpected t "\")\""

/-- The branches of a selection, up to its end. -/
def branches : Nat → Read (List (List Word × Command))
  | 0 => pure []
  | fuel + 1 => do
    let t ← tokenBeyond fuel
    if t.keyword? = some "esac" then pure []
    else
      let first ← match t with
        | .sign "(" => token fuel
        | t => pure t
      let ws ← patterns fuel first
      let body ← statements fuel true
      let t ← tokenBeyond fuel
      match t with
      | .sign ";;" => return (ws, body) :: (← branches fuel)
      | t =>
        if t.keyword? = some "esac" then return [(ws, body)]
        else unexpected t "\";;\""

/-- A command. -/
def command : Nat → Read Command
  | 0 => pure .idle
  | fuel + 1 => do
    let t ← token fuel
    let line := (← get).line
    let finished (c : Command) : Read Command := do
      match ← redirections fuel with
      | [] => pure c
      | rs => pure (.redirected line c rs)
    match t with
    | .sign "(" =>
      let body ← statements fuel false
      match ← token fuel with
      | .sign ")" => finished (.apart body)
      | t => unexpected t "\")\""
    | .redirection _ _ _ =>
      giveBack t
      simple fuel line [] [] []
    | .word _ => match t.keyword? with
      | none =>
        giveBack t
        simple fuel line [] [] []
      | some "if" =>
        let c ← choice fuel
        expect fuel "fi"
        finished c
      | some "while" =>
        let condition ← statements fuel false
        expect fuel "do"
        let body ← statements fuel false
        expect fuel "done"
        finished (.loop false condition body)
      | some "until" =>
        let condition ← statements fuel false
        expect fuel "do"
        let body ← statements fuel false
        expect fuel "done"
        finished (.loop true condition body)
      | some "\x7b" =>
        let body ← statements fuel false
        expect fuel "\x7d"
        finished body
      | some "for" =>
        let name ← match ← token fuel with
          | .word w => match plainText? w with
            | some cs =>
              if isName cs then pure cs else fail "Syntax error: Bad for loop variable"
            | none => fail "Syntax error: Bad for loop variable"
          | _ => fail "Syntax error: Bad for loop variable"
        let t ← tokenBeyond fuel
        let ws ← if t.keyword? = some "in" then do
            let ws ← words fuel
            match ← token fuel with
            | .newline | .sign ";" => pure ws
            | t => unexpected t ""
          else do
            match t with
            | .sign ";" => pure ()
            | t => giveBack t
            -- without words, the parameters with numbers
            pure [[Piece.value ['@'] .all true]]
        giveBack (← tokenBeyond fuel)
        expect fuel "do"
        let body ← statements fuel false
        expect fuel "done"
        finished (.each line name ws body)
      | some "case" =>
        match ← token fuel with
        | .word w =>
          let t ← tokenBeyond fuel
          if t.keyword? ≠ some "in" then unexpected t "\"in\""
          finished (.select line w (← branches fuel))
        | t => unexpected t "word"
      | some _ => unexpected t ""
    | t => unexpected t ""

/-- The commands of a pipeline behind the first one. -/
def piped : Nat → Read (List Command)
  | 0 => pure []
  | fuel + 1 => do
    match ← token fuel with
    | .sign "|" =>
      giveBack (← tokenBeyond fuel)
      let c ← command fuel
      return c :: (← piped fuel)
    | t => giveBack t; pure []

/-- A pipeline. -/
def pipeline : Nat → Read Command
  | 0 => pure .idle
  | fuel + 1 => do
    let t ← token fuel
    let negated := t.keyword? == some "!"
    if !negated then giveBack t
    let c ← command fuel
    let c ← match ← piped fuel with
      | [] => pure c
      | cs => pure (.pipeline (c :: cs))
    pure (if negated then .negated c else c)

/-- What follows a pipeline under conditions. -/
def joined : Nat → Command → Read Command
  | 0, c => pure c
  | fuel + 1, c => do
    match ← token fuel with
    | .sign "&&" =>
      giveBack (← tokenBeyond fuel)
      joined fuel (.both c (← pipeline fuel))
    | .sign "||" =>
      giveBack (← tokenBeyond fuel)
      joined fuel (.either c (← pipeline fuel))
    | t => giveBack t; pure c

/-- A pipeline with others that follow it under conditions. -/
def statement : Nat → Read Command
  | 0 => pure .idle
  | fuel + 1 => do joined fuel (← pipeline fuel)

/-- Statements up to a token that cannot begin one. -/
def statementList : Nat → Bool → Read (List Command)
  | 0, _ => pure []
  | fuel + 1, mayEnd => do
    let t ← tokenBeyond fuel
    giveBack t
    let ends : Bool := match t with
      | .finish | .sign ")" | .sign ";;" => true
      | t => match t.keyword? with
        | some k => ["\x7d", "do", "done", "elif", "else", "esac", "fi", "then"].contains k
        | none => false
    let isFinish : Bool := match t with
      | .finish => true
      | _ => false
    if (mayEnd ∧ ends) ∨ isFinish then pure []
    else
      let c ← statement fuel
      match ← token fuel with
      | .sign "&" => return .background c :: (← statementList fuel true)
      | .sign ";" | .newline => return c :: (← statementList fuel true)
      | t => giveBack t; pure [c]

/-- Statements one after the other. -/
def statements : Nat → Bool → Read Command
  | 0, _ => pure .idle
  | fuel + 1, mayEnd => do
    match ← statementList fuel mayEnd with
    | [c] => pure c
    | cs => pure (.sequence cs)

end

/-- The statements of a line. -/
def lineList : Nat → Nat → Read (List Command)
  | 0, _ => pure []
  | steps + 1, fuel => do
    match ← token fuel with
    | .newline => pure []
    | .finish => giveBack .finish; pure []
    | t =>
      giveBack t
      let c ← statement fuel
      match ← token fuel with
      | .sign "&" => return .background c :: (← lineList steps fuel)
      | .sign ";" => return c :: (← lineList steps fuel)
      | .newline => pure [c]
      | .finish => giveBack .finish; pure [c]
      | t => unexpected t ""

/-- The lines from here on, and the fault that ends them. -/
def linesFrom (fuel : Nat) : Nat → Reading → List Command × Option Fault
  | 0, _ => ([], none)
  | steps + 1, r => match (lineList fuel fuel).run r with
    | .error fault => ([], some fault)
    | .ok (cs, r) => match r.ahead with
      | some .finish => (cs, none)
      | _ => let (ds, fault) := linesFrom fuel steps r; (cs ++ ds, fault)

/-- **Reading a script**: the commands of all lines in front of the first fault, and the fault. -/
def readLines (script : Chars) : List Command × Option Fault :=
  let fuel := 20 * script.length + 100
  linesFrom fuel (script.length + 2) ⟨script, 1, 0, none⟩

end Automaton.Filter.Shell
