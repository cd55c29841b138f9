/-
Command lines: what words a command accepts, and how they are read.

A word that starts with a dash is an option, up to the word `--`; other words are operands.  An
option's value is the part after `=`, or the next word.  The options that were given are examined in
the order in which they were given, then the operands, then the other options; the first fault ends
the reading.  A secret that is not given is asked for, twice, until both entries agree.

Main definitions: `Grammar.scan`, which takes the words apart, and `Grammar.read`.
-/
import Enrollment.Text.Digit
import Enrollment.Text.Quoted
import Enrollment.Text.Similarity

namespace Enrollment.Cli

/-- What an option takes as its value. -/
inductive Takes where
  | nothing
  | text
  | whole
  | oneOf (choices : List String)
deriving DecidableEq

/-- An option. -/
structure Opt where
  name : String
  takes : Takes := .text
  required : Bool := false
  /-- What the option is called when it is asked for, if it is a secret. -/
  secret : Option String := none
deriving DecidableEq

/-- An operand. -/
structure Operand where
  name : String
  required : Bool := true
deriving DecidableEq

/-- What words a command accepts. -/
structure Grammar where
  options : List Opt := []
  operands : List Operand := []
  /-- Whether options may follow an operand. -/
  mixed : Bool := true
deriving DecidableEq

/-- The option that asks for help. -/
def helpOption : String := "--help"

/-- The option that asks for the version. -/
def versionOption : String := "--version"

/-- The options that are heeded before all others. -/
def urgentOptions : List String := [helpOption, versionOption]

/-! ### Faults -/

/-- Why a command line is refused. -/
inductive UsageError where
  | commandMissing
  | unknownCommand (name : String)
  | unknownOption (name : String) (proposals : List String)
  | valueMissing (option : String)
  | valueNotWanted (option : String)
  | optionMissing (option : String)
  | operandMissing (operand : String)
  | superfluous (operands : List String)
  | notWhole (option value : String)
  | notAChoice (option value : String) (choices : List String)
  /-- A value to be stored is missing. -/
  | nothingToStore
deriving DecidableEq

/-- How a proposal for a mistyped option reads. -/
def proposalText : List String → String
  | [] => ""
  | [p] => " Did you mean " ++ p ++ "?"
  | ps => " (Possible options: " ++ ", ".intercalate ps ++ ")"

/-- How a refusal reads. -/
def UsageError.message : UsageError → String
  | .commandMissing => "Missing command."
  | .unknownCommand name => "No such command " ++ Text.quoted name ++ "."
  | .unknownOption name proposals => "No such option: " ++ name ++ proposalText proposals
  | .valueMissing option => "Option " ++ Text.quoted option ++ " requires an argument."
  | .valueNotWanted option => "Option " ++ Text.quoted option ++ " does not take a value."
  | .optionMissing option => "Missing option '" ++ option ++ "'."
  | .operandMissing operand => "Missing argument '" ++ operand ++ "'."
  | .superfluous operands =>
    "Got unexpected extra argument" ++ (if operands.length = 1 then "" else "s") ++ " (" ++
      " ".intercalate operands ++ ")"
  | .notWhole option value =>
    "Invalid value for '" ++ option ++ "': " ++ Text.quoted value ++ " is not a valid integer."
  | .notAChoice option value choices =>
    "Invalid value for '" ++ option ++ "': " ++ Text.quoted value ++ " is not one of " ++
      ", ".intercalate (choices.map Text.quoted) ++ "."
  | .nothingToStore => "VALUE is required unless --unset is given"

/-! ### Taking the words apart -/

/-- The options that were given, in order, and the operands. -/
structure Scanned where
  given : List (String × Option String) := []
  operands : List String := []
deriving DecidableEq

/-- Whether a word is an option. -/
def isOptionWord (word : String) : Bool := word.toList.head? = some '-' && word ≠ "-"

/-- The name of an option word, and the value attached to it. -/
def cutOption (word : String) : String × Option String :=
  let (name, value) := Text.cutAt '=' word.toList
  (String.ofList name, value.map String.ofList)

/-- The refusal of a word that is no option of the command. -/
def Grammar.unknown (g : Grammar) (word : String) : UsageError :=
  match word.toList with
  | '-' :: '-' :: _ =>
    let name := (cutOption word).1
    .unknownOption name (Text.proposals name (helpOption :: g.options.map (·.name)))
  | cs => .unknownOption (String.ofList (cs.take 2)) []

/-- The option of a name; every command has the one that asks for help. -/
def Grammar.option? (g : Grammar) (name : String) : Option Opt :=
  ({ name := helpOption, takes := .nothing } :: g.options).find? (·.name = name)

/-- An option in front of what else was found. -/
def Scanned.withOption (s : Scanned) (name : String) (value : Option String) : Scanned :=
  { s with given := (name, value) :: s.given }

/-- An operand in front of what else was found. -/
def Scanned.withOperand (s : Scanned) (word : String) : Scanned :=
  { s with operands := word :: s.operands }

/-- Takes the words of a command line apart. -/
def Grammar.scan (g : Grammar) : List String → Except UsageError Scanned
  | [] => .ok {}
  | word :: rest =>
    if word = "--" then .ok { operands := rest }
    else if isOptionWord word then
      let (name, attached) := cutOption word
      match g.option? name with
      | none => .error (g.unknown word)
      | some o =>
        if o.takes = .nothing then
          if attached.isSome then .error (.valueNotWanted name)
          else (g.scan rest).map (·.withOption name none)
        else
          match attached, rest with
          | some value, rest => (g.scan rest).map (·.withOption name (some value))
          | none, value :: rest => (g.scan rest).map (·.withOption name (some value))
          | none, [] => .error (.valueMissing name)
    else if g.mixed then (g.scan rest).map (·.withOperand word)
    else .ok { operands := word :: rest }

/-! ### Secrets -/

/-- What is shown while secrets are asked for, and the lines that are still to be entered. -/
structure Dialogue where
  shown : String := ""
  lines : List String := []
deriving DecidableEq

/-- The dialogue for a text that is entered. -/
def Dialogue.ofInput (input : String) : Dialogue :=
  { lines := (Text.bodyLines input.toList).map String.ofList }

/-- How often a question was put until something was entered, what that was, and what is left. -/
def firstEntry : List String → Nat × Option (String × List String)
  | [] => (1, none)
  | line :: rest =>
    if line = "" then
      let (n, entry) := firstEntry rest
      (n + 1, entry)
    else (1, some (line, rest))

/-- Asks a question until something is entered; nothing when the input ends before. -/
def Dialogue.ask (d : Dialogue) (question : String) : Option String × Dialogue :=
  let (n, entry) := firstEntry d.lines
  let asked := d.shown ++ String.join (List.replicate n (question ++ ": \n"))
  match entry with
  | none => (none, ⟨asked ++ "\n", []⟩)
  | some (line, rest) => (some line, ⟨asked, rest⟩)

/-- The question for the second entry of a secret. -/
def repetition : String := "Repeat for confirmation"

/-- What is shown when the two entries of a secret differ. -/
def mismatch : String := "Error: The two entered values do not match.\n"

/-- Asks for a secret until two entries agree; `fuel` bounds the number of rounds. -/
def Dialogue.askSecret (question : String) : (fuel : Nat) → Dialogue → Option String × Dialogue
  | 0, d => (none, d)
  | fuel + 1, d =>
    match d.ask question with
    | (none, d) => (none, d)
    | (some first, d) =>
      match d.ask repetition with
      | (none, d) => (none, d)
      | (some second, d) =>
        if first = second then (some first, d)
        else askSecret question fuel { d with shown := d.shown ++ mismatch }

/-! ### Reading -/

/-- Why the reading of a command line ends without a command. -/
inductive Stop where
  | refused (e : UsageError)
  /-- The input ended while a secret was asked for. -/
  | aborted
  /-- Help is shown, either because it was asked for or for want of a command. -/
  | help (asked : Bool)
  | version
deriving DecidableEq

/-- Reading that may ask questions. -/
abbrev Reading := ExceptT Stop (StateM Dialogue)

/-- The value of an option or operand. -/
inductive Value where
  | set
  | text (s : String)
  | whole (n : Int)
deriving DecidableEq

/-- The values of a command line. -/
abbrev Values := List (String × Value)

/-- Whether an option was given. -/
def Values.isSet (vs : Values) (name : String) : Bool := vs.any fun v => v.1 = name

/-- The text of an option or operand. -/
def Values.text? (vs : Values) (name : String) : Option String :=
  vs.findSome? fun v => match v with
    | (n, .text s) => if n = name then some s else none
    | _ => none

/-- The text of an option or operand that is never missing. -/
def Values.text (vs : Values) (name : String) : String := (vs.text? name).getD ""

/-- The whole number of an option. -/
def Values.whole? (vs : Values) (name : String) : Option Int :=
  vs.findSome? fun v => match v with
    | (n, .whole k) => if n = name then some k else none
    | _ => none

/-- The value that a text is for an option. -/
def Opt.value (o : Opt) (s : String) : Except UsageError Value :=
  match o.takes with
  | .nothing => .ok .set
  | .text => .ok (.text s)
  | .whole =>
    match Text.readInteger? s with
    | some n => .ok (.whole n)
    | none => .error (.notWhole o.name s)
  | .oneOf choices =>
    if s ∈ choices then .ok (.text s) else .error (.notAChoice o.name s choices)

/-- Examines an option, given as often as it was; the last value counts. -/
def Opt.examine (o : Opt) (given : List (String × Option String)) : Reading Values := do
  match given.reverse.find? fun v => v.1 = o.name with
  | some (_, s) =>
    match o.value (s.getD "") with
    | .ok v => return [(o.name, v)]
    | .error e => throw (.refused e)
  | none =>
    match o.secret with
    | some question =>
      let d ← get
      let (entry, d) := d.askSecret question (d.lines.length + 1)
      set d
      match entry with
      | some s => return [(o.name, .text s)]
      | none => throw .aborted
    | none => if o.required then throw (.refused (.optionMissing o.name)) else return []

/-- Examines the operands, and gives what is left of the words. -/
def examineOperands : List Operand → List String → Except UsageError (Values × List String)
  | [], words => .ok ([], words)
  | o :: os, [] =>
    if o.required then .error (.operandMissing o.name) else examineOperands os []
  | o :: os, word :: words => do
    let (vs, left) ← examineOperands os words
    return ((o.name, .text word) :: vs, left)

/-- The options of a list in the order in which they were first given. -/
def inGivenOrder (options : List Opt) : List (String × Option String) → List Opt
  | [] => []
  | (name, _) :: rest =>
    (options.filter (·.name = name)) ++ inGivenOrder (options.filter (·.name ≠ name)) rest

/-- Reads the words of a command line: the values, and the words that no operand took. -/
def Grammar.read (g : Grammar) (words : List String) : Reading (Values × List String) := do
  match g.scan words with
  | .error e => throw (.refused e)
  | .ok s =>
    match s.given.find? fun v => v.1 ∈ urgentOptions with
    | some (name, _) => throw (if name = versionOption then .version else .help true)
    | none =>
      let first := inGivenOrder g.options s.given
      let later := g.options.filter (· ∉ first)
      let given ← first.mapM (·.examine s.given)
      match examineOperands g.operands s.operands with
      | .error e => throw (.refused e)
      | .ok (operands, left) =>
        let others ← later.mapM (·.examine s.given)
        return (given.flatten ++ operands ++ others.flatten, left)

end Enrollment.Cli
