import SlideGraph.Json.Number

/-!
# Values

A document as a tree. An object is the list of its members in the order of the text, so a key may
be there more than once.
-/

namespace SlideGraph.Json

/-- A JSON value. -/
inductive Value
  | null
  | bool (b : Bool)
  | number (n : Number)
  | string (s : String)
  | array (items : List Value)
  | object (members : List (String × Value))
deriving Repr

namespace Value

/-- The value of an integer without a sign. -/
def nat (n : Nat) : Value := .number (.natural n)

/-- The value of an integer. -/
def int (i : Int) : Value := .number (.ofInt i)

def strings (xs : List String) : Value := .array (xs.map .string)

/-- The members of which each is there only if there is a value for it. -/
def members (ms : List (String × Option Value)) : Value :=
  .object (ms.filterMap fun (k, v) => v.map (k, ·))

/-! ### Taking a value apart -/

/-- The truth value that a value is. -/
def bool? : Value → Option Bool
  | .bool b => some b
  | _ => none

/-- The string that a value is. -/
def string? : Value → Option String
  | .string s => some s
  | _ => none

/-- The integer that a value is. -/
def int? : Value → Option Int
  | .number n => n.toInt?
  | _ => none

/-- The integer from `lo` up to `hi` that a value is. -/
def intBetween? (lo hi : Int) (v : Value) : Option Int :=
  v.int?.filter fun i => lo ≤ i ∧ i ≤ hi

/-- The integer without a sign, of at most 64 bits, that a value is. -/
def count? (v : Value) : Option Nat := (v.intBetween? 0 (UInt64.size - 1)).map Int.toNat

/-- The items of an array, each taken apart by `f`. -/
def list? {α : Type} (f : Value → Option α) : Value → Option (List α)
  | .array vs => vs.mapM f
  | _ => none

/-- Nothing for null, otherwise what `f` makes of the value. -/
def optional? {α : Type} (f : Value → Option α) : Value → Option (Option α)
  | .null => some none
  | v => (f v).map some

end Value

/-! ### Fields of a record -/

/-- What a record is decoded from when its text has been read whole: the items of an array, by
position, or the members of an object, by name. -/
inductive Payload
  | items (vs : List Value)
  | members (ms : List (String × Value))
deriving Repr

namespace Payload

/-- The payload that a container holds. -/
def ofValue? : Value → Option Payload
  | .array vs => some (.items vs)
  | .object ms => some (.members ms)
  | _ => none

/-- Whether a record of the given fields can be read at all: no more items than fields, no field
given twice. -/
def fits (names : List String) : Payload → Bool
  | .items vs => vs.length ≤ names.length
  | .members ms => names.all fun k => (ms.filter fun m => m.1 == k).length ≤ 1

/-- The value of the field at a position with a name. -/
def field? (position : Nat) (name : String) : Payload → Option Value
  | .items vs => vs[position]?
  | .members ms => ms.lookup name

/-- A field that has to be there. -/
def required {α : Type} (p : Payload) (position : Nat) (name : String)
    (f : Value → Option α) : Option α :=
  (p.field? position name).bind f

/-- A field that has a default. -/
def withDefault {α : Type} (p : Payload) (position : Nat) (name : String) (default : α)
    (f : Value → Option α) : Option α :=
  match p.field? position name with
  | none => some default
  | some v => f v

end Payload

end SlideGraph.Json
