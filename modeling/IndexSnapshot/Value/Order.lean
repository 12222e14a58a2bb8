/-
# IndexSnapshot.Value.Order -- sorting by an order that may have gaps

Where of any two things one comes before the other, there is one sorted list of them.
The natural order of values has gaps: two sets may have no order by inclusion, what is
not a number comes neither before nor after anything, and values of different kinds are
not compared at all.  Then the sorted list depends on which things are compared.

* `insertionSort?` compares as follows.  The things at the start that ascend or descend
  already are a run; each later thing is put in place by halving the things before it.
  There is no answer if two things are compared that have no order.  This is how fewer than
  64 things are sorted; more are sorted in several runs that are merged, and then other
  pairs are compared, which may have an order where these have none, or none where these
  have one.
* `Value.sortedBy` sorts things by values, and by texts where the values do not allow it.
-/
import IndexSnapshot.Value.Basic

namespace IndexSnapshot

set_option autoImplicit false

/-! ## Insertion by halving -/

namespace InsertionSort

variable {α : Type}

/-- Goes on with a run, whose latest thing is the first of `run`.  In a descending run
each thing comes before the one ahead of it, in an ascending run none does. -/
def extendRun? (before? : α → α → Option Bool) (descending : Bool) (latest : α) :
    List α → List α → Option (List α × List α)
  | run, [] => some (run, [])
  | run, next :: rest => do
      if (← before? next latest) = descending then
        extendRun? before? descending next (next :: run) rest
      else return (run, next :: rest)

/-- The run at the start of a list, in ascending order, and what comes after it. -/
def firstRun? (before? : α → α → Option Bool) : List α → Option (List α × List α)
  | first :: second :: rest => do
      let descending ← before? second first
      let (run, rest) ← extendRun? before? descending second [second, first] rest
      return (if descending then run else run.reverse, rest)
  | things => some (things, [])

/-- The place of a thing among sorted ones, found between two bounds. -/
def place? (before? : α → α → Option Bool) (sorted : List α) (thing : α) (low high : Nat) :
    Option Nat :=
  if low < high then
    let middle := (low + high) / 2
    match sorted[middle]? with
    | none => some low
    | some other => do
        if ← before? thing other then place? before? sorted thing low middle
        else place? before? sorted thing (middle + 1) high
  else some low
termination_by high - low

/-- Puts a thing in its place among sorted ones. -/
def insert? (before? : α → α → Option Bool) (sorted : List α) (thing : α) :
    Option (List α) := do
  let place ← place? before? sorted thing 0 sorted.length
  return sorted.take place ++ thing :: sorted.drop place

end InsertionSort

/-- The things of a list, sorted. -/
def insertionSort? {α : Type} (before? : α → α → Option Bool) (things : List α) :
    Option (List α) := do
  let (run, rest) ← InsertionSort.firstRun? before? things
  rest.foldlM (InsertionSort.insert? before?) run

/-! ## Sorting by values -/

namespace Value

/-- Things in the natural order of a value of each.  There is no answer if values are
compared that have no order. -/
def naturallySorted? {α : Type} (value : α → Value) (things : List α) : Option (List α) :=
  if isChain (things.map value) then
    some (things.mergeSort fun a b => before? (value b) (value a) != some true)
  else insertionSort? (fun a b => before? (value a) (value b)) things

/-- Things sorted by a value of each, or by a text of each where the values have no
order. -/
def sortedBy {α : Type} (value : α → Value) (text : α → String) (things : List α) : List α :=
  match naturallySorted? value things with
  | some sorted => sorted
  | Option.none => things.mergeSort fun a b => !decide (text b < text a)

end Value

end IndexSnapshot
