import ToolWeave.Value.Basic

/-!
# Equality and order of values

Two values are equal when they hold the same data, whatever the order of object fields; they
compare first by kind, then arrays and objects by size, then part by part.

## Main definitions

* `Value.sortFields`: the value with the fields of every object in increasing order of name.
* `Value.equal`: structural equality, blind to the order of fields.
* `Value.order`: the total order of values.

## Design notes

**Sorting first.**  Both relations walk the fields of two objects in order of name.  The fields are
put into that order once, throughout the value, so that the walk itself is recursion on the data.
-/

namespace ToolWeave

namespace Value

mutual

/-- The value with the fields of every object inside in increasing order of name. -/
def sortFields : Value → Value
  | array items => array (sortItems items)
  | object fields => object ((sortContents fields).mergeSort fun a b => decide (a.1 ≤ b.1))
  | v => v

/-- The items, each with its fields in order. -/
def sortItems : List Value → List Value
  | [] => []
  | item :: rest => item.sortFields :: sortItems rest

/-- The fields where they stand, the content of each with its fields in order. -/
def sortContents : List (String × Value) → List (String × Value)
  | [] => []
  | (name, content) :: rest => (name, content.sortFields) :: sortContents rest

end

mutual

/-- Equality of values whose fields are in order. -/
def equalSorted : Value → Value → Bool
  | null, null => true
  | bool a, bool b => a == b
  | number a, number b => a.equal b
  | string a, string b => a == b
  | array xs, array ys => equalItems xs ys
  | object xs, object ys => equalContents xs ys
  | _, _ => false

/-- Equality of items, one by one. -/
def equalItems : List Value → List Value → Bool
  | [], [] => true
  | x :: xs, y :: ys => equalSorted x y && equalItems xs ys
  | _, _ => false

/-- Equality of fields, one by one. -/
def equalContents : List (String × Value) → List (String × Value) → Bool
  | [], [] => true
  | (k, x) :: xs, (l, y) :: ys => k == l && (equalSorted x y && equalContents xs ys)
  | _, _ => false

end

/-- Structural equality.  A boolean never equals a number, an integer equals the double of the same
value, and the order of the fields of an object does not matter. -/
def equal (a b : Value) : Bool := equalSorted a.sortFields b.sortFields

mutual

/-- The order of values whose fields are in order. -/
def orderSorted : Value → Value → Ordering
  | null, null => .eq
  | bool a, bool b => compare a.toNat b.toNat
  | number a, number b => a.order b
  | string a, string b => compare a b
  | array xs, array ys => (compare xs.length ys.length).then (orderItems xs ys)
  | object xs, object ys => (compare xs.length ys.length).then (orderContents xs ys)
  | a, b => compare a.kind.rank b.kind.rank

/-- The order of equally many items: that of the first two that differ. -/
def orderItems : List Value → List Value → Ordering
  | x :: xs, y :: ys => (orderSorted x y).then (orderItems xs ys)
  | _, _ => .eq

/-- The order of equally many fields: at each place first the names, then the contents. -/
def orderContents : List (String × Value) → List (String × Value) → Ordering
  | (k, x) :: xs, (l, y) :: ys =>
    (compare k l).then ((orderSorted x y).then (orderContents xs ys))
  | _, _ => .eq

end

/-- The total order of values.  Kinds order as array, boolean, null, number, object, string; arrays
and objects compare by size first, objects then field by field in order of name. -/
def order (a b : Value) : Ordering := orderSorted a.sortFields b.sortFields

mutual

/-- The value with every boolean inside counted: one for `true`, zero for `false`. -/
def countBooleans : Value → Value
  | bool b => int b.toNat
  | array items => array (countItems items)
  | object fields => object (countContents fields)
  | v => v

/-- The items with every boolean inside counted. -/
def countItems : List Value → List Value
  | [] => []
  | item :: rest => item.countBooleans :: countItems rest

/-- The fields with every boolean inside counted. -/
def countContents : List (String × Value) → List (String × Value)
  | [] => []
  | (name, content) :: rest => (name, content.countBooleans) :: countContents rest

end

/-- An order as a number: minus one, zero or one. -/
def sign : Ordering → Int
  | .lt => -1
  | .eq => 0
  | .gt => 1

end Value

end ToolWeave
