/-
# IndexSnapshot.Path.Basic -- file paths as names

A path is where it starts from -- the working directory, the root, or the root
written with two slashes -- and the names on the way.  Names are never empty and
never a single dot; two dots are a name like any other until a path is folded.

* `ofString` reads a path and `toString` writes it; repeated slashes, single dots and
  a slash at the end vanish.
* `join` goes on from a path, unless the other one starts at the root.
* `relativeTo?` strips a leading path, comparing names only.
* `folded` resolves two dots by the names alone.
-/

namespace IndexSnapshot

set_option autoImplicit false

/-- Where a path starts from. -/
inductive Anchor where
  | here
  | root
  /-- Exactly two slashes, which are kept apart from one. -/
  | doubleRoot
  deriving DecidableEq, Repr

/-- A path: an anchor and the names from there. -/
structure Path where
  anchor : Anchor
  names : List String
  deriving DecidableEq, Repr

namespace Path

/-! ## Text -/

/-- Puts a character in front of names that slashes separate. -/
def consName (c : Char) (names : List (List Char)) : List (List Char) :=
  match names with
  | [] => [[c]]
  | name :: rest => if c = '/' then [] :: name :: rest else (c :: name) :: rest

/-- What stands between slashes. -/
def splitSlashes (chars : List Char) : List (List Char) :=
  chars.foldr consName [[]]

/-- A name that means something: neither nothing nor a single dot. -/
def isName (name : List Char) : Bool :=
  !name.isEmpty && name != ['.']

/-- The anchor of a text: two slashes count only if there is no third one. -/
def anchorOf (chars : List Char) : Anchor :=
  match (chars.takeWhile (· == '/')).length with
  | 0 => .here
  | 2 => .doubleRoot
  | _ => .root

/-- The path that a text stands for. -/
def ofString (text : String) : Path :=
  let chars := text.toList
  ⟨anchorOf chars, ((splitSlashes chars).filter isName).map String.ofList⟩

def Anchor.text : Anchor → String
  | .here => ""
  | .root => "/"
  | .doubleRoot => "//"

/-- The anchor, then the names with slashes between them; a single dot for nothing. -/
def toString (p : Path) : String :=
  match p.anchor, p.names with
  | .here, [] => "."
  | anchor, names => Anchor.text anchor ++ "/".intercalate names

instance : ToString Path where
  toString := Path.toString

/-! ## Operations -/

def isAbsolute (p : Path) : Bool :=
  p.anchor != .here

/-- The path from `p` on, unless `q` starts at the root. -/
def join (p q : Path) : Path :=
  if q.isAbsolute then q else ⟨p.anchor, p.names ++ q.names⟩

/-- The path from `p` on along the names of a text. -/
def child (p : Path) (text : String) : Path :=
  p.join (ofString text)

/-- The same path with a text after its last name. -/
def appendToName (p : Path) (suffix : String) : Path :=
  match p.names.getLast? with
  | none => p
  | some name => { p with names := p.names.dropLast ++ [name ++ suffix] }

/-- What is left of `names` after `start`, if they start so. -/
def stripNames? : List String → List String → Option (List String)
  | names, [] => some names
  | name :: names, other :: start => if name = other then stripNames? names start else none
  | [], _ :: _ => none

/-- The way from `start` to `p`, if the names of `p` begin with those of `start`. -/
def relativeTo? (p start : Path) : Option Path :=
  if p.anchor = start.anchor then (stripNames? p.names start.names).map (⟨.here, ·⟩) else none

/-- One more name behind folded names: two dots take the last name back.  At the root
they vanish; where there is nothing to take back they stay. -/
def foldName (anchor : Anchor) (folded : List String) (name : String) : List String :=
  if name = ".." then
    match folded.getLast? with
    | none => if anchor = .here then [name] else []
    | some last => if last = ".." then folded ++ [name] else folded.dropLast
  else folded ++ [name]

/-- The path with two dots resolved by the names alone. -/
def folded (p : Path) : Path :=
  ⟨p.anchor, p.names.foldl (foldName p.anchor) []⟩

/-- The path from the root, two dots resolved. -/
def absolute (workingDirectory p : Path) : Path :=
  (workingDirectory.join p).folded

end Path

end IndexSnapshot
