import EventScript.Names
import EventScript.Value

/-!
# Symbol tables

The variables and constants of one scope. A constant hides a variable of its name and refuses
assignments. A table under observation keeps a journal of its assignments.
-/

namespace EventScript

structure SymbolTable where
  /-- The variables with their values. -/
  bindings : Names Value := ∅
  constants : Names Value := ∅
  /-- The assignments so far, oldest first, if the table is observed. -/
  journal : Option (List (String × Value)) := none

namespace SymbolTable

def empty : SymbolTable := {}

instance : Inhabited SymbolTable := ⟨empty⟩

def observed : SymbolTable := { journal := some [] }

def ofBindings (bindings : Names Value) : SymbolTable := { bindings }

def lookup (table : SymbolTable) (name : String) : Option Value :=
  table.constants[name]?.or table.bindings[name]?

def getAs (table : SymbolTable) (name : String) (kind : Kind) : Value :=
  (table.lookup name).getD kind.sentinel

def get (table : SymbolTable) (name : String) : Value := table.getAs name .number

def contains (table : SymbolTable) (name : String) : Bool := (table.lookup name).isSome

def isConstant (table : SymbolTable) (name : String) : Bool := table.constants.contains name

/-- Assigns a variable. The names of constants are refused. -/
def assign? (table : SymbolTable) (name : String) (value : Value) : Option SymbolTable :=
  if table.isConstant name then none
  else some
    { table with
      bindings := table.bindings.insert name value
      journal := table.journal.map (· ++ [(name, value)]) }

def declare (table : SymbolTable) (name : String) (value : Value) : SymbolTable :=
  { table with constants := table.constants.insert name value }

def erase (table : SymbolTable) (name : String) : SymbolTable :=
  { table with bindings := table.bindings.erase name }

def keys (table : SymbolTable) : List String :=
  (table.constants.foldl (fun names name value => names.insert name value) table.bindings).keys

def size (table : SymbolTable) : Nat := table.bindings.size

def display (table : SymbolTable) : String :=
  String.join <| table.keys.map fun name =>
    let mark := if table.isConstant name then " (const)" else ""
    s!"{name} = {(table.get name).display}{mark}\n"

end SymbolTable

end EventScript
