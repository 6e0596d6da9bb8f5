import SinkKeeper.Entries

/-!
# Environments

The variables that a process runs with. A variable may be set to the empty text.
-/

namespace SinkKeeper

/-! ## Variables that cannot be set -/

/-- Why a variable cannot be set. -/
inductive VariableFlaw
  | nullCharacter
  | equalsSign
deriving DecidableEq, Repr

namespace VariableFlaw

def message : VariableFlaw → String
  | .nullCharacter => "embedded null byte"
  | .equalsSign => "illegal environment variable name"

/-- Why a variable cannot be set to a value, if it cannot: neither may hold a null character, nor the name
an equals sign. -/
def of? (name value : String) : Option VariableFlaw :=
  if (name.toList ++ value.toList).contains '\x00' then some .nullCharacter
  else if name.toList.contains '=' then some .equalsSign
  else none

end VariableFlaw

/-! ## Environments -/

/-- The variables, each once. -/
structure Environment where
  entries : List (String × String)
deriving Repr

namespace Environment

def empty : Environment := ⟨[]⟩

/-- The value of a variable, if it is set. -/
def get? (env : Environment) (name : String) : Option String := env.entries.lookup name

def isSet (env : Environment) (name : String) : Bool := (env.get? name).isSome

def set (env : Environment) (name value : String) : Environment := ⟨Entries.put name value env.entries⟩

/-- The variables of a list, a later one counting before an earlier one of its name. -/
def ofList (entries : List (String × String)) : Environment := ⟨Entries.ofList entries⟩

def names (env : Environment) : List String := env.entries.map (·.1)

theorem get?_set_self (env : Environment) (name value : String) :
    (env.set name value).get? name = some value :=
  Entries.lookup_put_self name value env.entries

theorem get?_set_of_ne (env : Environment) {name other : String} (h : other ≠ name) (value : String) :
    (env.set name value).get? other = env.get? other :=
  Entries.lookup_put_of_ne h value env.entries

end Environment

end SinkKeeper
