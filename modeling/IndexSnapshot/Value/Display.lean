/-
# IndexSnapshot.Value.Display -- the stable text of a value

Members of a set and keys of a map are sorted by their natural order, and by their own
texts where the natural order does not compare them.  So the text of a value in a
snapshot does not depend on the order in which sets and maps were filled, as long as of
any two members one comes before the other or none of them are compared at all.

* `display` is the text of a value with its integers written however long they are.
* `isWritable` says whether they may be: a value with an integer of too many digits has no text.
-/
import IndexSnapshot.Decimal.Notation
import IndexSnapshot.Text.Digit
import IndexSnapshot.Text.Quoted
import IndexSnapshot.Value.Order

namespace IndexSnapshot

set_option autoImplicit false

namespace Value

/-! ## Integers -/

mutual

/-- The integers that are written in the text of a value. -/
def integers : Value → List Int
  | .int n => [n]
  | .list items => integersOfAll items
  | .tuple items => integersOfAll items
  | .set members => integersOfAll members
  | .map entries => integersOfEntries entries
  | .constant value _ => integers value
  | .described value => integers value
  | _ => []

/-- The integers of the values of a list. -/
def integersOfAll : List Value → List Int
  | [] => []
  | v :: rest => integers v ++ integersOfAll rest

/-- The integers of the keys and values of a list. -/
def integersOfEntries : List (Value × Value) → List Int
  | [] => []
  | (k, v) :: rest => integers k ++ integers v ++ integersOfEntries rest

end

/-- Whether every integer in a value has few enough digits to be written. -/
def isWritable (v : Value) : Bool :=
  v.integers.all Text.isWritable

/-! ## Texts -/

/-- Texts with commas between them, in brackets. -/
def bracketed (left right : String) (texts : List String) : String :=
  left ++ ", ".intercalate texts ++ right

mutual

/-- The stable text of a value. -/
def display : Value → String
  | .none => "None"
  | .bool b => if b then "true" else "false"
  | .int n => toString n
  | .float v => v.plain
  | .text s => Text.json s
  | .bytes b => Bytes.hex b
  | .list items => bracketed "[" "]" (displayAll items)
  | .tuple items => bracketed "[" "]" (displayAll items)
  | .set members =>
      bracketed "\x7b" "\x7d"
        ((sortedBy Prod.fst Prod.snd (members.zip (displayAll members))).map Prod.snd)
  | .map entries =>
      bracketed "\x7b" "\x7d"
        ((sortedBy Prod.fst (fun e => e.2.1)
            ((entries.map Prod.fst).zip (displayEntries entries))).map
          fun (_, key, value) => key ++ ": " ++ value)
  | .docids s => bracketed "[" "]" (s.toList.map fun i => toString i.toNat)
  | .constant value _ => display value
  | .described value => display value
  | .path p => p.toString
  | .date d => d.iso
  | .timestamp t => t.plain

/-- The stable texts of the values of a list. -/
def displayAll : List Value → List String
  | [] => []
  | v :: rest => display v :: displayAll rest

/-- The stable texts of the keys and values of a list. -/
def displayEntries : List (Value × Value) → List (String × String)
  | [] => []
  | (k, v) :: rest => (display k, display v) :: displayEntries rest

end

end Value

end IndexSnapshot
