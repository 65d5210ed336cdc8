import Mathlib.Data.List.Defs

/-!
# Serialisable values

The values tool results and audit payloads are made of: scalars, lists of texts, and
flat objects.  An object is its list of fields, in the order they are written.
-/

namespace SettlementOps

inductive Scalar
  | null
  | bool (b : Bool)
  | num (n : Int)
  | str (s : String)
  deriving DecidableEq, Repr

abbrev Row := List (String × Scalar)

inductive Json
  | scalar (s : Scalar)
  | strs (items : List String)
  | row (fields : Row)
  | rows (items : List Row)
  deriving DecidableEq, Repr

abbrev JsonObject := List (String × Json)

namespace Json

def null : Json := .scalar .null
def bool (b : Bool) : Json := .scalar (.bool b)
def num (n : Int) : Json := .scalar (.num n)
def str (s : String) : Json := .scalar (.str s)

/-- A text that may be missing. -/
def str? : Option String → Json
  | none => null
  | some s => str s

end Json

/-- The value of a field, if the object has it. -/
def JsonObject.field? (o : JsonObject) (name : String) : Option Json :=
  (o.find? (fun p => p.1 == name)).map (·.2)

end SettlementOps
