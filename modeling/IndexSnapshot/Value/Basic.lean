/-
# IndexSnapshot.Value.Basic -- values of settings

Settings and configuration entries hold values of many kinds, nested to any depth.
Members of a set and keys of a map keep the order in which they came.

* `same` is equality of values: numbers are compared by what they are worth, so true
  equals one and one equals 1.0; sets and maps do not care about order.  A constant equals
  nothing but itself, whatever it stands for: constants of one name are the same constant,
  and one without a name is like no other.  An object that describes itself equals nothing
  but itself either, so two of them in one value are different things.
* `before?` is the natural order of two values, if they have one: numbers among each
  other, texts by code point, byte strings bytewise, sequences by their first
  difference, sets by inclusion, paths by their names.
* `setOf` and `mapOf` build sets and maps without repetitions.
-/
import IndexSnapshot.Calendar.Timestamp
import IndexSnapshot.Decimal.Double
import IndexSnapshot.Docids.Basic
import IndexSnapshot.Path.Basic

namespace IndexSnapshot

set_option autoImplicit false

/-- A value of a setting or of a configuration entry. -/
inductive Value where
  | none
  | bool (b : Bool)
  | int (n : Int)
  | float (v : Double)
  | text (s : String)
  | bytes (b : Bytes)
  | list (items : List Value)
  | tuple (items : List Value)
  | set (members : List Value)
  | map (entries : List (Value × Value))
  | docids (s : IdSet)
  /-- A constant that stands for a value. -/
  | constant (value : Value) (name : Option String := Option.none)
  /-- An object that describes itself by a value. -/
  | described (value : Value)
  | path (p : Path)
  | date (d : Date)
  | timestamp (t : Timestamp)

namespace Value

/-! ## Numbers -/

/-- Whether the value is a number; truth values are. -/
def isNumber : Value → Bool
  | .bool _ => true
  | .int _ => true
  | .float _ => true
  | _ => false

/-- Where a number stands on the number line; `none` for what is not a number. -/
def place? : Value → Option Double.Place
  | .bool b => some (.ofInt (if b then 1 else 0))
  | .int n => some (.ofInt n)
  | .float v => v.place?
  | _ => .none

/-- Whether two numbers stand at one place. -/
def samePlace (v w : Value) : Bool :=
  match v.place?, w.place? with
  | some p, some q => p == q
  | _, _ => false

/-- Whether one number stands to the left of another. -/
def placeBefore (v w : Value) : Bool :=
  match v.place?, w.place? with
  | some p, some q => p.before q
  | _, _ => false

/-! ## Equality -/

mutual

/-- Whether two values are equal. -/
def same : Value → Value → Bool
  | .none, .none => true
  | .text s, .text t => s == t
  | .bytes b, .bytes c => b == c
  | .list xs, .list ys => sameAll xs ys
  | .tuple xs, .tuple ys => sameAll xs ys
  | .set xs, .set ys => xs.length == ys.length && allIn xs ys
  | .map xs, .map ys => xs.length == ys.length && allEntriesIn xs ys
  | .docids s, .docids t => s == t
  | .path p, .path q => p == q
  | .date d, .date e => d == e
  | .timestamp t, .timestamp u => t.same u
  | .constant _ (some m), .constant _ (some n) => m == n
  | v, w => v.isNumber && w.isNumber && samePlace v w

/-- Whether two lists of values are equal one by one. -/
def sameAll : List Value → List Value → Bool
  | [], [] => true
  | x :: xs, y :: ys => same x y && sameAll xs ys
  | _, _ => false

/-- Whether each value of the first list equals one of the second. -/
def allIn : List Value → List Value → Bool
  | [], _ => true
  | x :: xs, ys => ys.any (same x) && allIn xs ys

/-- Whether each entry of the first list equals one of the second. -/
def allEntriesIn : List (Value × Value) → List (Value × Value) → Bool
  | [], _ => true
  | (k, v) :: xs, ys => ys.any (fun e => same k e.1 && same v e.2) && allEntriesIn xs ys

end

/-! ## Sets and maps -/

/-- Adds a member behind the others unless an equal one is there. -/
def addMember (members : List Value) (v : Value) : List Value :=
  if members.any (same · v) then members else members ++ [v]

/-- The set of the values of a list; of equal ones the first stays. -/
def setOf (values : List Value) : Value :=
  .set (values.foldl addMember [])

/-- Sets the value of a key: in its place if an equal key is there, which stays, else
behind the others. -/
def putEntry (key value : Value) : List (Value × Value) → List (Value × Value)
  | [] => [(key, value)]
  | (k, v) :: rest =>
      if same k key then (k, value) :: rest else (k, v) :: putEntry key value rest

/-- The map of the entries of a list, put in one after another. -/
def mapOf (entries : List (Value × Value)) : Value :=
  .map (entries.foldl (fun entries (key, value) => putEntry key value entries) [])

/-- The value of a text key. -/
def lookup? (name : String) (entries : List (Value × Value)) : Option Value :=
  (entries.find? fun (k, _) => same k (.text name)).map Prod.snd

/-- Whether the value counts as something: not nothing, false, zero, or empty. -/
def isTruthy : Value → Bool
  | .none => false
  | .bool b => b
  | .int n => n != 0
  | .float v => v.place? != some (.ofInt 0)
  | .text s => s != ""
  | .bytes b => !b.isEmpty
  | .list items => !items.isEmpty
  | .tuple items => !items.isEmpty
  | .set members => !members.isEmpty
  | .map entries => !entries.isEmpty
  | .docids s => !s.toList.isEmpty
  | _ => true

/-! ## Order -/

/-- The order of two lists in which nothing is different: the shorter one first. -/
def lexBefore {α : Type} (before : α → α → Bool) (same : α → α → Bool) :
    List α → List α → Bool
  | _, [] => false
  | [], _ :: _ => true
  | x :: xs, y :: ys => if same x y then lexBefore before same xs ys else before x y

/-- The names of a path, its anchor first. -/
def pathNames (p : Path) : List String :=
  match p.anchor with
  | .here => p.names
  | .root => "/" :: p.names
  | .doubleRoot => "//" :: p.names

mutual

/-- Whether the first value comes before the second; `none` if they have no order. -/
def before? : Value → Value → Option Bool
  | .text s, .text t => some (decide (s < t))
  | .bytes b, .bytes c => some (decide (b < c))
  | .list xs, .list ys => beforeAll? xs ys
  | .tuple xs, .tuple ys => beforeAll? xs ys
  | .set xs, .set ys => some (decide (xs.length < ys.length) && allIn xs ys)
  | .docids s, .docids t =>
      some (decide (s.size < t.size) && s.toList.all t.toList.contains)
  | .path p, .path q => some (lexBefore (fun a b => decide (a < b)) (· == ·) (pathNames p) (pathNames q))
  | v, w => if v.isNumber && w.isNumber then some (placeBefore v w) else .none

/-- The order of the first two items that differ, or of the lengths. -/
def beforeAll? : List Value → List Value → Option Bool
  | _, [] => some false
  | [], _ :: _ => some true
  | x :: xs, y :: ys => if same x y then beforeAll? xs ys else before? x y

end

/-- Whether of every two values of a list exactly one comes before the other. -/
def isChain : List Value → Bool
  | [] => true
  | v :: rest =>
      rest.all (fun w =>
        match before? v w, before? w v with
        | some left, some right => left != right
        | _, _ => false) && isChain rest

end Value

end IndexSnapshot
