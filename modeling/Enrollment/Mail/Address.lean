/-
The addresses in a header, and the form in which they are shown.

An address list is read generously: comments and surplus blanks are dropped, names may be quoted or
encoded, and what is no address is skipped up to the next comma and shown as an empty one.
-/
import Enrollment.Mail.EncodedWord
import Enrollment.Text.Blank

namespace Enrollment.Mail

open Enrollment.Text

/-- An address with the name in front of it. -/
structure Mailbox where
  name : String := ""
  localPart : String := ""
  domain : String := ""
deriving DecidableEq

/-- One entry of an address list: an address, or a named group of addresses. -/
inductive Recipient where
  | mailbox (m : Mailbox)
  | group (name : String) (members : List Mailbox)

/-! ### Character classes -/

/-- The characters with a meaning of their own. -/
def specials : List Char :=
  ['(', ')', '<', '>', '@', ',', ':', ';', '.', '\\', '\x22', '[', ']']

/-- The characters that end a phrase. -/
def phraseEnds : List Char := [')', '<', '>', '@', ',', ':', ';', '\\', '[', ']']

/-- A blank inside a header. -/
def isHeaderBlank (c : Char) : Bool := c = ' ' || c = '\t'

/-- The characters that end an atom. -/
def endsAtom (c : Char) : Bool := c ∈ specials || isHeaderBlank c

/-- The characters that end a run of atoms and dots. -/
def endsDotAtom (c : Char) : Bool := c ≠ '.' && endsAtom c

/-! ### Writing -/

/-- A text in double quotes. -/
def inQuotes (s : String) : String :=
  "\"" ++ String.ofList (s.toList.flatMap fun c =>
    if c = '\x22' ∨ c = '\\' then ['\\', c] else [c]) ++ "\""

/-- A display name as shown. -/
def shownName (s : String) : String := if s.toList.any (· ∈ specials) then inQuotes s else s

/-- An address without its name. -/
def Mailbox.address (m : Mailbox) : String :=
  let part := if m.localPart.toList.any endsDotAtom then inQuotes m.localPart else m.localPart
  if m.domain ≠ "" then part ++ "@" ++ m.domain else if part = "" then "<>" else part

/-- An address as shown. -/
def Mailbox.shown (m : Mailbox) : String :=
  if m.name = "" then m.address
  else shownName m.name ++ " <" ++ (if m.address = "<>" then "" else m.address) ++ ">"

/-- An entry as shown. -/
def Recipient.shown : Recipient → String
  | .mailbox m => m.shown
  | .group name members =>
    let list := ", ".intercalate (members.map Mailbox.shown)
    shownName name ++ ":" ++ (if list = "" then "" else " " ++ list) ++ ";"

/-! ### Reading -/

/-- A piece of a phrase: text, a dot, or a stretch of blanks and comments. -/
inductive Piece where
  | text (s : List Char)
  | dot
  | blank
deriving DecidableEq

/-- A piece as part of a name. -/
def Piece.chars : Piece → List Char
  | .text s => s
  | .dot => ['.']
  | .blank => [' ']

/-- The characters after blanks and comments; `depth` is how many comments are open. -/
def skipComments (depth : Nat) : List Char → List Char
  | [] => []
  | c :: rest =>
    if depth = 0 then
      if isBlank c then skipComments 0 rest
      else if c = '(' then skipComments 1 rest
      else c :: rest
    else
      match c, rest with
      | '\\', _ :: more => skipComments depth more
      | ')', rest => skipComments (depth - 1) rest
      | '(', rest => skipComments (depth + 1) rest
      | _, rest => skipComments depth rest

/-- A stretch of blanks and comments in front, if there is one. -/
def takeBlank (cs : List Char) : List Piece × List Char :=
  match cs with
  | [] => ([], [])
  | c :: _ => if isHeaderBlank c || c = '(' then ([.blank], skipComments 0 cs) else ([], cs)

/-- The text of an encoded word in front, and what follows it. -/
def takeEncoded? (cs : List Char) : Option (List Char × List Char) :=
  match cs with
  | '=' :: '?' :: rest => do
    let (charset, rest) ← cut rest
    let (method, rest) ← cut rest
    let (text, rest) ← cut rest
    match rest with
    | '=' :: rest =>
      let s ← EncodedWord.decode? charset method text
      return (s.toList, rest)
    | _ => none
  | _ => none
where
  /-- What stands before and after the next question mark. -/
  cut (cs : List Char) : Option (List Char × List Char) :=
    match cutAt '?' cs with
    | (a, some b) => some (a, b)
    | (_, none) => none

/-- The text up to the closing quote and what follows it.  An encoded word is read where a word
begins (`fresh`); `fuel` bounds the number of steps. -/
def quotedText : (fuel : Nat) → (fresh : Bool) → List Char → List Char × List Char
  | 0, _, cs => ([], cs)
  | _, _, [] => ([], [])
  | _, _, '\x22' :: rest => ([], rest)
  | fuel + 1, fresh, c :: rest =>
    let (s, rest) := match if fresh then takeEncoded? (c :: rest) else none, c, rest with
      | some (s, rest), _, _ => (s, rest)
      | none, '\\', d :: rest => ([d], rest)
      | none, '\\', [] => ([], [])
      | none, c, rest => ([c], rest)
    let (t, rest) := quotedText fuel (isHeaderBlank c) rest
    (s ++ t, rest)

/-- A word: an atom or a quoted text, with the blanks around it. -/
def takeWord? (cs : List Char) : Option (List Piece × List Char) :=
  let (before, cs) := takeBlank cs
  match cs with
  | [] => none
  | '\x22' :: rest =>
    let (s, rest) := quotedText rest.length true rest
    let (after, rest) := takeBlank rest
    some (before ++ .text s :: after, rest)
  | c :: _ =>
    if endsAtom c then none
    else
      let (s, rest) := (takeEncoded? cs).getD
        (cs.takeWhile (!endsAtom ·), cs.dropWhile (!endsAtom ·))
      let (after, rest) := takeBlank rest
      some (before ++ .text s :: after, rest)

/-- The pieces of a phrase; `fuel` bounds their number. -/
def takePhrase : (fuel : Nat) → List Char → List Piece × List Char
  | 0, cs => ([], cs)
  | _, [] => ([], [])
  | fuel + 1, c :: rest =>
    if c ∈ phraseEnds then ([], c :: rest)
    else if c = '.' then
      let (ps, rest) := takePhrase fuel rest
      (.dot :: ps, rest)
    else
      match takeWord? (c :: rest) with
      | some (w, rest) =>
        let (ps, rest) := takePhrase fuel rest
        (w ++ ps, rest)
      | none =>
        match takeBlank (c :: rest) with
        | ([], rest) => ([], rest)
        | (b, rest) =>
          let (ps, rest) := takePhrase fuel rest
          (b ++ ps, rest)

/-- Pieces without blanks at the two ends. -/
def trimPieces (ps : List Piece) : List Piece :=
  ((ps.dropWhile (· = .blank)).reverse.dropWhile (· = .blank)).reverse

/-- Pieces as a name. -/
def nameOf (ps : List Piece) : String := String.ofList ((trimPieces ps).flatMap Piece.chars)

/-- Pieces without the blanks beside dots. -/
def closeDots : List Piece → List Piece
  | .blank :: .dot :: rest => closeDots (.dot :: rest)
  | .dot :: .blank :: rest => closeDots (.dot :: rest)
  | p :: rest => p :: closeDots rest
  | [] => []

/-- The pieces of a phrase in which a backslash stands for itself; `fuel` bounds their number. -/
def takeLocalPieces : (fuel : Nat) → List Char → List Piece × List Char
  | 0, cs => ([], cs)
  | fuel + 1, cs =>
    match takePhrase fuel cs with
    | (ps, '\\' :: rest) =>
      let (qs, rest) := takeLocalPieces fuel rest
      (ps ++ .text ['\\'] :: qs, rest)
    | found => found

/-- The part of an address before the at sign. -/
def takeLocal? (cs : List Char) : Option (String × List Char) :=
  let cs := (takeBlank cs).2
  match cs with
  | [] => none
  | c :: _ =>
    if c ∈ phraseEnds ∧ c ≠ '\\' then none
    else
      let (ps, rest) := takeLocalPieces (cs.length + 2) cs
      some (String.ofList ((closeDots (trimPieces ps)).flatMap Piece.chars), rest)

/-- Atoms with dots between them, without the blanks around them; `fuel` bounds their number. -/
def takeDottedAtoms? : (fuel : Nat) → List Char → Option (List Char × List Char)
  | 0, _ => none
  | fuel + 1, cs =>
    let cs := (takeBlank cs).2
    let atom := cs.takeWhile (!endsAtom ·)
    if atom.isEmpty then none
    else match (takeBlank (cs.drop atom.length)).2 with
      | '.' :: rest => do
        let (atoms, rest) ← takeDottedAtoms? fuel rest
        some (atom ++ '.' :: atoms, rest)
      | rest => some (atom, rest)

/-- The part of an address after the at sign. -/
def takeDomain? (cs : List Char) : Option (String × List Char) :=
  match (takeBlank cs).2 with
  | '[' :: rest =>
    let inner := rest.takeWhile fun c => c ≠ ']' ∧ c ≠ '['
    let text := String.ofList ('[' :: inner ++ [']'])
    match rest.drop inner.length with
    | ']' :: rest => some (text, (takeBlank rest).2)
    | rest => some (text, rest)
  | cs =>
    match takeDottedAtoms? cs.length cs with
    | none => none
    | some (_, '@' :: _) => none
    | some (atoms, rest) => some (String.ofList (atoms.filter (!isBlank ·)), rest)

/-- An address without a name. -/
def takeAddress? (cs : List Char) : Option (Mailbox × List Char) := do
  let (part, rest) ← takeLocal? cs
  match rest with
  | '@' :: rest =>
    let (domain, rest) ← takeDomain? rest
    return ({ localPart := part, domain }, rest)
  | rest => return ({ localPart := part }, rest)

/-- An address in angle brackets. -/
def takeAngle? (cs : List Char) : Option (Mailbox × List Char) :=
  match (takeBlank cs).2 with
  | '<' :: '>' :: rest => some ({}, rest)
  | '<' :: rest => do
    let (m, rest) ← takeAddress? rest
    let rest := match rest with
      | '>' :: rest => rest
      | rest => rest
    return (m, (takeBlank rest).2)
  | _ => none

/-- An address, with or without a name. -/
def takeMailbox? (cs : List Char) : Option (Mailbox × List Char) :=
  let (ps, rest) := takePhrase (cs.length + 1) cs
  match takeAngle? rest with
  | some (m, rest) => some ({ m with name := nameOf ps }, rest)
  | none => takeAddress? cs

/-- What follows the words and signs in front of the next separator; `fuel` bounds their number. -/
def dropRest (ends : List Char) : (fuel : Nat) → List Char → List Char
  | 0, cs => cs
  | _, [] => []
  | fuel + 1, c :: rest =>
    if c ∈ ends then c :: rest
    else if c ∈ phraseEnds then dropRest ends fuel rest
    else dropRest ends fuel (takePhrase (rest.length + 2) (c :: rest)).2

/-- The addresses of a group, up to the semicolon. -/
def takeMembers : (fuel : Nat) → List Char → List Mailbox × List Char
  | 0, cs => ([], cs)
  | _, [] => ([], [])
  | _, ';' :: rest => ([], rest)
  | fuel + 1, cs =>
    match cs with
    | ',' :: rest => takeMembers fuel rest
    | cs =>
      match takeMailbox? cs with
      | some (m, rest) =>
        let (ms, rest) := takeMembers fuel (dropRest [',', ';'] (rest.length + 1) rest)
        (m :: ms, rest)
      | none =>
        match (takeBlank cs).2 with
        | [] => ([], [])
        | ';' :: rest => ([], rest)
        | ',' :: rest => takeMembers fuel rest
        | cs =>
          let (ms, rest) := takeMembers fuel (dropRest [',', ';'] (cs.length + 1) cs)
          ({} :: ms, rest)

/-- One entry of an address list; nothing where there is only blank. -/
def takeRecipient (cs : List Char) : Option Recipient × List Char :=
  let (ps, rest) := takePhrase (cs.length + 1) cs
  match rest with
  | ':' :: rest =>
    let (ms, rest) := takeMembers (rest.length + 1) rest
    (some (.group (nameOf ps) ms), (takeBlank rest).2)
  | _ =>
    match takeMailbox? cs with
    | some (m, rest) => (some (.mailbox m), rest)
    | none =>
      match (takeBlank cs).2 with
      | [] => (none, [])
      | ',' :: rest => (none, ',' :: rest)
      | rest => (some (.mailbox {}), rest)

/-- The entries of an address list; `fuel` bounds their number. -/
def recipientsFrom : (fuel : Nat) → List Char → List Recipient
  | 0, _ => []
  | _, [] => []
  | fuel + 1, cs =>
    let (r, rest) := takeRecipient cs
    let rest := (dropRest [','] (rest.length + 1) rest).drop 1
    match r with
    | some r => r :: recipientsFrom fuel rest
    | none => recipientsFrom fuel rest

/-- The entries of an address list. -/
def recipients (s : String) : List Recipient := recipientsFrom (s.length + 1) s.toList

end Enrollment.Mail
