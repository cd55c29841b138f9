/-
The stored configuration: texts under keys, each with an optional description.

A key has at most one entry.  Setting a key that has one replaces the text and, when a description
is given, the description too; a key that was erased starts afresh.  `Configuration.sorted` lists
the entries in ascending order of their keys.
-/
namespace Enrollment.Policy

/-- One stored text. -/
structure Entry where
  key : String
  value : Option String
  description : Option String := none
deriving DecidableEq

/-- An entry with another text, and another description if one is given. -/
def Entry.revise (e : Entry) (value description : Option String) : Entry :=
  { e with value := value, description := description.or e.description }

/-- The stored entries, in the order in which their keys came. -/
abbrev Configuration := List Entry

namespace Configuration

/-- The entry of a key. -/
def entry? (c : Configuration) (key : String) : Option Entry := c.find? (·.key = key)

/-- The text stored under a key. -/
def value? (c : Configuration) (key : String) : Option String := (c.entry? key).bind (·.value)

/-- The configuration with a text stored under a key. -/
def set (c : Configuration) (key : String) (value description : Option String) : Configuration :=
  if c.any (·.key = key) then
    c.map fun e => if e.key = key then e.revise value description else e
  else c ++ [⟨key, value, description⟩]

/-- The configuration without a key. -/
def erase (c : Configuration) (key : String) : Configuration := c.filter (·.key ≠ key)

/-- The entries in ascending order of their keys, characters compared by code point. -/
def sorted (c : Configuration) : List Entry := c.mergeSort fun a b => a.key ≤ b.key

end Configuration
end Enrollment.Policy
