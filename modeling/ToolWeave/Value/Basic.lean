import ToolWeave.Number.Basic
import ToolWeave.Entries

/-!
# Values

JSON data is the only thing tools exchange.  A `Value` is null, a boolean, a number, a string, an
array or an object whose fields keep their order.

## Main definitions

* `Value.kind`: the six kinds of values and their names.
* `Value.isFinite`: every number inside is finite, which is what makes a value a JSON value.
* `Value.nestedWithin`: arrays and objects are nested at most so many levels deep.
-/

namespace ToolWeave

/-- A JSON value.  The fields of an object keep the order they came in. -/
inductive Value where
  | null
  | bool (value : Bool)
  | number (value : Number)
  | string (value : String)
  | array (items : List Value)
  | object (fields : List (String × Value))

/-- The fields of an object. -/
abbrev Fields : Type := Entries Value

namespace Value

/-- What holds of a value whenever it holds of its members holds of every value. -/
@[elab_as_elim]
theorem induction {motive : Value → Prop} (null : motive null) (bool : ∀ b, motive (bool b))
    (number : ∀ n, motive (number n)) (string : ∀ s, motive (string s))
    (array : ∀ items, (∀ item ∈ items, motive item) → motive (array items))
    (object : ∀ fields : Fields, (∀ entry ∈ fields, motive entry.2) → motive (object fields))
    (value : Value) : motive value := by
  refine @Value.rec motive (fun items => ∀ item ∈ items, motive item)
    (fun fields => ∀ entry ∈ fields, motive entry.2) (fun entry => motive entry.2)
    null bool number string array object ?_ ?_ ?_ ?_ (fun _ _ ih => ih) value
  · intro item hitem
    cases hitem
  · intro item rest hitem hrest
    exact List.forall_mem_cons.mpr ⟨hitem, hrest⟩
  · intro entry hentry
    cases hentry
  · intro entry rest hentry hrest
    exact List.forall_mem_cons.mpr ⟨hentry, hrest⟩

/-- The kinds of values, in the order in which values of different kinds compare. -/
inductive Kind where
  | array
  | boolean
  | null
  | number
  | object
  | string
  deriving DecidableEq

/-- The name of a kind, as messages give it. -/
def Kind.name : Kind → String
  | array => "array"
  | boolean => "boolean"
  | null => "null"
  | number => "number"
  | object => "object"
  | string => "string"

/-- The position of a kind among all kinds. -/
def Kind.rank : Kind → Nat
  | array => 0
  | boolean => 1
  | null => 2
  | number => 3
  | object => 4
  | string => 5

/-- The kind of a value. -/
def kind : Value → Kind
  | null => .null
  | bool _ => .boolean
  | number _ => .number
  | string _ => .string
  | array _ => .array
  | object _ => .object

/-- An integer as a value. -/
def int (i : Int) : Value := number (.int i)

/-- A double as a value. -/
def double (d : Double) : Value := number (.double d)

/-- A list of strings as a value. -/
def strings (texts : List String) : Value := array (texts.map string)

/-- The value, unless it is null. -/
def nonNull? : Value → Option Value
  | null => none
  | v => some v

/-- The string a value is, if it is one. -/
def string? : Value → Option String
  | string s => some s
  | _ => none

/-- The field of an object, if the value is an object that has it. -/
def field? (name : String) : Value → Option Value
  | object fields => Entries.get? name fields
  | _ => none

/-- Whether a value counts as given where something optional is asked for: null, `false`, zero and
everything empty do not. -/
def isGiven : Value → Bool
  | null => false
  | bool b => b
  | number n => !n.isZero
  | string s => s != ""
  | array items => !items.isEmpty
  | object fields => !fields.isEmpty

mutual

/-- Whether every number inside a value is finite. -/
def isFinite : Value → Bool
  | number n => n.isFinite
  | array items => allFinite items
  | object fields => fieldsFinite fields
  | _ => true

/-- Whether every number inside the items is finite. -/
def allFinite : List Value → Bool
  | [] => true
  | item :: rest => item.isFinite && allFinite rest

/-- Whether every number inside the fields is finite. -/
def fieldsFinite : List (String × Value) → Bool
  | [] => true
  | (_, content) :: rest => content.isFinite && fieldsFinite rest

end

/-- Whether arrays and objects are nested at most `levels` deep. -/
def nestedWithin : (levels : Nat) → Value → Bool
  | 0, array _ => false
  | 0, object _ => false
  | levels + 1, array items => items.all (nestedWithin levels)
  | levels + 1, object fields => fields.all fun entry => nestedWithin levels entry.2
  | _, _ => true

end Value

end ToolWeave
