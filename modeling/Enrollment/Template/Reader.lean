/-
Reading a template from its source.

Expressions bind, from loosest to tightest: `if … else`, `or`, `and`, `not`, `==`, `+`, `~`, then
members, filters and tests.  Of statements there is the choice, `if … elif … else … endif`.

A reader takes tokens from the front of those that are left.  `depth` bounds how deep readers call
each other; `read` starts with more than the tokens can use up.
-/
import Enrollment.Template.Token

namespace Enrollment.Template

open Enrollment.Text

/-- A reader of tokens. -/
abbrev Reader := StateT (List Token) (Except Fault)

namespace Reader

/-- How messages call what comes next. -/
def nextName : List Token → String
  | [] => "end of template"
  | t :: _ => t.describe

/-- The source is no template. -/
def fail {α : Type} (message : String) : Reader α := throw (.malformed message)

/-- Something else was expected than what comes next. -/
def expected {α : Type} (what : String) : Reader α := do
  match ← get with
  | [] => fail ("unexpected end of template, expected " ++ quoted what ++ ".")
  | t :: _ => fail ("expected token " ++ quoted what ++ ", got " ++ quoted t.describe)

/-- What comes next must be readable. -/
def check : Reader Unit := do
  match ← get with
  | .broken fault :: _ => throw fault
  | _ => pure ()

/-- Drops the next token. -/
def skip : Reader Unit := do
  modify List.tail
  check

/-- Whether the next token is the given sign. -/
def atSign (s : String) : Reader Bool := do
  match ← get with
  | .sign t :: _ => return t = s
  | _ => return false

/-- Whether the next token is the given word. -/
def atWord (s : String) : Reader Bool := do
  match ← get with
  | .name t :: _ => return t = s
  | _ => return false

/-- The given sign. -/
def sign (s : String) : Reader Unit := do
  if ← atSign s then skip else expected s

/-- A name. -/
def name : Reader String := do
  match ← get with
  | .name s :: _ => skip; return s
  | _ => expected "name"

/-- The end of a printed value. -/
def printEnd : Reader Unit := do
  match ← get with
  | .printEnd :: _ => skip
  | _ => expected Token.printEnd.describe

/-- The end of a statement. -/
def blockEnd : Reader Unit := do
  match ← get with
  | .blockEnd :: _ => skip
  | _ => expected Token.blockEnd.describe

end Reader

open Reader

/-- The constants that are written as words. -/
def constantWords : List (String × Json) :=
  [("true", .bool true), ("True", .bool true), ("false", .bool false), ("False", .bool false),
    ("none", .null), ("None", .null)]

/-- A name or a constant written as a word. -/
def wordExpr (s : String) : Expr :=
  match constantWords.find? (·.1 = s) with
  | some (_, j) => .constant j
  | none => .name s

/-- A value passed through the filter of a name. -/
def filterNamed (e : Expr) (s : String) : Reader Expr :=
  match Filter.ofName? s with
  | some f => return .filtered f e
  | none => throw (.unknownName ("No filter named " ++ quoted s ++ "."))

/-- A value put to the test of a name. -/
def testNamed (e : Expr) (s : String) : Reader Expr :=
  if s = "defined" then return .isDefined e
  else if s = "undefined" then return .negate (.isDefined e)
  else throw (.unknownName ("No test named " ++ quoted s ++ "."))

/-- The members, filters and tests that follow an expression; `fuel` bounds their number. -/
def readTail : (fuel : Nat) → Expr → Reader Expr
  | 0, e => pure e
  | fuel + 1, e => do
    if ← atSign "." then
      skip
      readTail fuel (.member e (← name))
    else if ← atSign "|" then
      skip
      readTail fuel (← filterNamed e (← name))
    else if ← atWord "is" then
      skip
      if ← atWord "not" then
        skip
        return .negate (← readTail fuel (← testNamed e (← name)))
      else readTail fuel (← testNamed e (← name))
    else pure e

/-- The text of adjacent strings. -/
def readStrings : (fuel : Nat) → String → Reader String
  | 0, s => pure s
  | fuel + 1, s => do
    match ← get with
    | .string t :: _ => skip; readStrings fuel (s ++ t)
    | _ => pure s

mutual

/-- A name, a constant, or an expression in parentheses. -/
def readPrimary (depth : Nat) : Reader Expr := do
  match depth with
  | 0 => fail "expression too deep"
  | depth + 1 =>
    match ← get with
    | .name s :: _ => skip; return wordExpr s
    | .string s :: rest => skip; return .constant (.str (← readStrings rest.length s))
    | .whole n :: _ => skip; return .constant (.int n)
    | .real x :: _ => skip; return .constant (.real x)
    | .sign "(" :: _ =>
      skip
      let e ← readExpr depth
      sign ")"
      return e
    | .sign "\x7b" :: _ =>
      skip
      if ← atSign "\x7d" then
        skip
        return .constant (.obj [])
      else
        let _ ← readExpr depth
        sign ":"
        fail "only the empty table can be written"
    | ts => fail ("unexpected " ++ quoted (nextName ts))

/-- Values as texts, one after the other. -/
def readJoin (depth : Nat) : Reader Expr := do
  match depth with
  | 0 => fail "expression too deep"
  | depth + 1 =>
    let first ← readPrimary depth
    let first ← readTail (← get).length first
    if ← atSign "~" then
      skip
      return .join first (← readJoin depth)
    else return first

/-- The values added to a first one. -/
def readSum (depth : Nat) (first : Expr) : Reader Expr := do
  match depth with
  | 0 => fail "expression too deep"
  | depth + 1 =>
    if ← atSign "+" then
      skip
      readSum depth (.add first (← readJoin depth))
    else return first

/-- A sum, compared with another one or not. -/
def readComparison (depth : Nat) : Reader Expr := do
  match depth with
  | 0 => fail "expression too deep"
  | depth + 1 =>
    let first ← readSum depth (← readJoin depth)
    if ← atSign "==" then
      skip
      return .equal first (← readSum depth (← readJoin depth))
    else if ← atSign "!=" then
      skip
      return .negate (.equal first (← readSum depth (← readJoin depth)))
    else return first

/-- A comparison, negated or not. -/
def readNegation (depth : Nat) : Reader Expr := do
  match depth with
  | 0 => fail "expression too deep"
  | depth + 1 =>
    if ← atWord "not" then
      skip
      return .negate (← readNegation depth)
    else readComparison depth

/-- Expressions that must all hold. -/
def readBoth (depth : Nat) (first : Expr) : Reader Expr := do
  match depth with
  | 0 => fail "expression too deep"
  | depth + 1 =>
    if ← atWord "and" then
      skip
      readBoth depth (.both first (← readNegation depth))
    else return first

/-- Expressions of which one must hold. -/
def readEither (depth : Nat) (first : Expr) : Reader Expr := do
  match depth with
  | 0 => fail "expression too deep"
  | depth + 1 =>
    if ← atWord "or" then
      skip
      readEither depth (.either first (← readBoth depth (← readNegation depth)))
    else return first

/-- An expression. -/
def readExpr (depth : Nat) : Reader Expr := do
  match depth with
  | 0 => fail "expression too deep"
  | depth + 1 =>
    let first ← readEither depth (← readBoth depth (← readNegation depth))
    if ← atWord "if" then
      skip
      let test ← readEither depth (← readBoth depth (← readNegation depth))
      if ← atWord "else" then
        skip
        return .choose test first (← readExpr depth)
      else return .choose test first (.constant (.str ""))
    else return first

end

/-- The whole expression of a tag; there must be one. -/
def readTagExpr (depth : Nat) : Reader Expr := do
  match ← get with
  | .printEnd :: _ => missing
  | .blockEnd :: _ => missing
  | _ => readExpr depth
where
  /-- The tag ends where its expression should begin. -/
  missing : Reader Expr := do
    fail ("Expected an expression, got " ++ quoted (nextName (← get)))

/-! ### Statements -/

/-- The statements that end the piece of a choice that is being read, the innermost first. -/
abbrev Looking := List (List String)

/-- The ends of the first pieces of a choice. -/
def choiceEnds : List String := ["elif", "else", "endif"]

/-- The end of the last piece of a choice. -/
def lastEnds : List String := ["endif"]

/-- The names of statements in a message. -/
def orList (names : List String) : String := " or ".intercalate (names.map quoted)

/-- What is said of the choices that are still open. -/
def openText (found : Option String) : Looking → String
  | [] => ""
  | ends :: outer =>
    (if found.any fun s => (ends :: outer).any (s ∈ ·) then
      " You probably made a nesting mistake. Jinja is expecting this tag, but currently looking for " ++
        orList ends ++ "."
    else " Jinja was looking for the following tags: " ++ orList ends ++ ".") ++
      " The innermost block that needs to be closed is 'if'."

/-- The name of the statement that the tokens start with. -/
def statementName? : List Token → Option String
  | .blockBegin :: .name s :: _ => some s
  | _ => none

mutual

/-- The nodes up to a statement that ends them, or to the end of the source. -/
def readNodes (depth : Nat) (looking : Looking) : Reader (List Node) := do
  match depth with
  | 0 => fail "template too long"
  | depth + 1 =>
    match ← get with
    | [] => return []
    | .text s :: _ => skip; return .text s :: (← readNodes depth looking)
    | .printBegin :: _ =>
      skip
      let e ← readTagExpr depth
      printEnd
      return .value e :: (← readNodes depth looking)
    | .blockBegin :: rest =>
      if (statementName? (.blockBegin :: rest)).any (· ∈ looking.headD []) then return []
      else
        skip
        let n ← readStatement depth looking
        blockEnd
        return n :: (← readNodes depth looking)
    | ts => fail ("unexpected " ++ quoted (nextName ts))

/-- A statement, after the opening of its tag and up to the end of its last tag. -/
def readStatement (depth : Nat) (looking : Looking) : Reader Node := do
  match depth with
  | 0 => fail "template too long"
  | depth + 1 =>
    match ← get with
    | .name "if" :: _ => skip; readChoice depth looking
    | .name s :: _ =>
      fail ("Encountered unknown tag " ++ quoted s ++ "." ++ openText (some s) looking)
    | _ => fail "tag name expected"

/-- A choice, after the word that opens it. -/
def readChoice (depth : Nat) (looking : Looking) : Reader Node := do
  match depth with
  | 0 => fail "template too long"
  | depth + 1 =>
    let test ← readTagExpr depth
    let yes ← readPiece depth (choiceEnds :: looking)
    match ← name with
    | "elif" => return .choice test yes [← readChoice depth looking]
    | "else" =>
      let no ← readPiece depth (lastEnds :: looking)
      let _ ← name
      return .choice test yes no
    | _ => return .choice test yes []

/-- A piece of a choice; the tag that ends it has been opened. -/
def readPiece (depth : Nat) (looking : Looking) : Reader (List Node) := do
  match depth with
  | 0 => fail "template too long"
  | depth + 1 =>
    blockEnd
    let nodes ← readNodes depth looking
    match ← get with
    | [] => fail ("Unexpected end of template." ++ openText none looking)
    | _ => skip; return nodes

end

/-- The template of a list of tokens. -/
def readAll (ts : List Token) : Except Fault Template :=
  (do check; readNodes (16 * ts.length + 16) [] : Reader Template).run' ts

/-- The template that a source spells. -/
def read (source : String) : Except Fault Template := readAll (tokens source)

end Enrollment.Template
