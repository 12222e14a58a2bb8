/-
# IndexSnapshot.Files.Tree -- the files that fixtures and configuration live in

A tree holds the contents of files under the paths that they have once two dots are
resolved, and the directories that were made for them.  A path reaches something only
through directories that exist, also where two dots lead back out of one, and only if
neither it nor one of its names is too long.

* `find` is what a path leads to, and `read?` the content of the file there.
* `write` puts a file where its path says and makes the directories on the way;
  `read?_write_self` says that the file is there afterwards, whatever was before.
* `erase` takes a file away and leaves its directory.
* `content?_write_of_ne` and `content?_erase_of_ne`: no other file changes.
* `makeDirectory` makes one directory, and `makeDirectories` those on the way to it, too.
-/
import IndexSnapshot.Bytes.Basic
import IndexSnapshot.Files.Fault
import IndexSnapshot.Path.Basic
import IndexSnapshot.Store.Entries

namespace IndexSnapshot

set_option autoImplicit false

/-! ## Paths that can exist -/

namespace Path

/-- The first names of a path, two dots resolved. -/
def start (p : Path) (count : Nat) : Path :=
  (⟨p.anchor, p.names.take count⟩ : Path).folded

/-- The directories that a path goes through. -/
def parents (p : Path) : List Path :=
  (List.range p.names.length).map p.start

/-- The path without its last name. -/
def parent (p : Path) : Path :=
  { p with names := p.names.dropLast }

/-- Whether the text of a path is longer than any path, in bytes. -/
def isTextTooLong (text : String) : Bool :=
  4096 ≤ text.utf8ByteSize

/-- Whether a name is longer than any name, in bytes. -/
def isNameTooLong (name : String) : Bool :=
  255 < name.utf8ByteSize

/-- Why no path can have a text. -/
def textFault? (text : String) : Option FileFault :=
  if text.toList.contains (Char.ofNat 0) then some .nullCharacter
  else if isTextTooLong text then some .nameTooLong
  else none

/-- Whether a path can exist. -/
def isPossible (p : Path) : Bool :=
  (textFault? p.toString).isNone && !p.names.any isNameTooLong

end Path

/-- Files by their resolved paths, and the directories that were made. -/
structure FileTree where
  files : Entries Path Bytes := []
  directories : List Path := []

/-- What a path leads to. -/
inductive Found where
  | file (content : Bytes)
  | directory
  deriving DecidableEq, Repr

namespace FileTree

/-! ## Looking -/

/-- Whether a resolved path is a directory.  Where everything starts is one, and so is
all that lies above it. -/
def isDirectory (t : FileTree) (p : Path) : Bool :=
  p.names.all (· == "..") || t.directories.contains p

/-- What a file holds, by its resolved path. -/
def content? (t : FileTree) (p : Path) : Option Bytes :=
  t.files.get? p

/-- Why a path cannot go on with its name at a place: the names before it lead to no
directory, or the name is too long. -/
def obstacleAt? (t : FileTree) (p : Path) (place : Nat) : Option FileFault :=
  if t.isDirectory (p.start place) then
    if p.names[place]?.any Path.isNameTooLong then some .nameTooLong else none
  else if (t.content? (p.start place)).isSome then some .notDirectory
  else some .missing

/-- Why a path leads nowhere, as far as not its last name decides. -/
def obstacle? (t : FileTree) (p : Path) : Option FileFault :=
  match Path.textFault? p.toString with
  | some fault => some fault
  | none => (List.range p.names.length).findSome? (t.obstacleAt? p)

/-- What a path leads to. -/
def find (t : FileTree) (p : Path) : Except FileFault Found :=
  match t.obstacle? p with
  | some fault => .error fault
  | none =>
      match t.content? p.folded with
      | some content => .ok (.file content)
      | none => if t.isDirectory p.folded then .ok .directory else .error .missing

/-- What the file holds that a path leads to. -/
def read? (t : FileTree) (p : Path) : Option Bytes :=
  match t.find p with
  | .ok (.file content) => some content
  | _ => none

/-- Whether a path leads to a directory. -/
def hasDirectory (t : FileTree) (p : Path) : Bool :=
  match t.find p with
  | .ok .directory => true
  | _ => false

/-- Whether a path leads to anything.  Of a path that is too long this cannot be said. -/
def has (t : FileTree) (p : Path) : Except FileFault Bool :=
  match t.find p with
  | .ok _ => .ok true
  | .error .nameTooLong => .error .nameTooLong
  | .error _ => .ok false

/-- The content of the file that a path leads to. -/
def readFile (t : FileTree) (p : Path) : Except FileFault Bytes :=
  match t.find p with
  | .ok (.file content) => .ok content
  | .ok .directory => .error .isDirectory
  | .error fault => .error fault

/-- Whether a text names a directory: it ends in a slash, or in a single dot behind one. -/
def namesDirectory (text : String) : Bool :=
  match text.toList.reverse with
  | '/' :: _ => true
  | '.' :: '/' :: _ => true
  | _ => false

/-- The content of the file that a text names. -/
def readNamed (t : FileTree) (text : String) : Except FileFault Bytes :=
  match Path.textFault? text with
  | some fault => .error fault
  | none => do
      let content ← t.readFile (.ofString text)
      if namesDirectory text then throw .notDirectory else return content

/-! ## Changing -/

/-- Writes a file, with the directories on the way to it. -/
def write (t : FileTree) (p : Path) (content : Bytes) : FileTree :=
  ⟨t.files.put p.folded content, p.parents ++ t.directories⟩

/-- Takes a file away. -/
def erase (t : FileTree) (p : Path) : FileTree :=
  { t with files := t.files.erase p.folded }

/-- The tree with a directory, and those on the way to it. -/
def withDirectory (t : FileTree) (p : Path) : FileTree :=
  { t with directories := p.folded :: p.parents ++ t.directories }

/-- Makes a directory within one that exists. -/
def makeDirectory (t : FileTree) (p : Path) : Except FileFault FileTree :=
  match t.find p with
  | .ok _ => .error .occupied
  | .error .missing =>
      if (t.obstacle? p).isNone then .ok (t.withDirectory p) else .error .missing
  | .error fault => .error fault

/-- Makes a directory unless it is there.  The fault comes with the path. -/
def ensureDirectory (t : FileTree) (p : Path) : Except (FileFault × Path) FileTree :=
  match t.makeDirectory p with
  | .ok t => .ok t
  | .error fault => if t.hasDirectory p then .ok t else .error (fault, p)

/-- Makes a directory unless it is there, and before it those on the way that are missing.
Directories that were made stay also if there is a fault later on.  Every step takes a
name from the path, so `fuel` is the number of names. -/
def makeDirectoriesFrom (t : FileTree) : Nat → Path → FileTree × Option (FileFault × Path)
  | fuel, p =>
      match t.ensureDirectory p with
      | .ok t => (t, none)
      | .error (.missing, _) =>
          match fuel with
          | 0 => (t, some (.missing, p))
          | fuel + 1 =>
              match t.makeDirectoriesFrom fuel p.parent with
              | (t, some fault) => (t, some fault)
              | (t, none) =>
                  match t.ensureDirectory p with
                  | .ok t => (t, none)
                  | .error fault => (t, some fault)
      | .error fault => (t, some fault)

/-- Makes a directory unless it is there, and those on the way to it. -/
def makeDirectories (t : FileTree) (p : Path) : FileTree × Option (FileFault × Path) :=
  t.makeDirectoriesFrom p.names.length p

/-- Why no file can be written at a path. -/
def writeFault? (t : FileTree) (p : Path) : Option FileFault :=
  match t.find p with
  | .ok (.file _) => none
  | .ok .directory => some .isDirectory
  | .error .missing => if (t.obstacle? p).isNone then none else some .missing
  | .error fault => some fault

/-- The files of a list, written one after another. -/
def ofList (files : List (Path × Bytes)) : FileTree :=
  files.foldl (fun t (p, content) => t.write p content) {}

/-! ## What changes and what does not -/

theorem content?_write_self (t : FileTree) (p : Path) (content : Bytes) :
    (t.write p content).content? p.folded = some content :=
  Entries.get?_put_self t.files p.folded content

theorem content?_write_of_ne (t : FileTree) {p q : Path} (content : Bytes)
    (ne : q ≠ p.folded) : (t.write p content).content? q = t.content? q :=
  Entries.get?_put_of_ne t.files content ne

theorem content?_erase_self (t : FileTree) (p : Path) :
    (t.erase p).content? p.folded = none :=
  Entries.get?_erase_self t.files p.folded

theorem content?_erase_of_ne (t : FileTree) {p q : Path} (ne : q ≠ p.folded) :
    (t.erase p).content? q = t.content? q :=
  Entries.get?_erase_of_ne t.files ne

theorem isDirectory_write_start (t : FileTree) (p : Path) (content : Bytes) {place : Nat}
    (h : place < p.names.length) : (t.write p content).isDirectory (p.start place) = true := by
  have : (t.write p content).directories.contains (p.start place) = true := by
    simp only [write, List.contains_eq_mem, decide_eq_true_eq]
    exact List.mem_append_left _ (List.mem_map_of_mem (List.mem_range.2 h))
  simp only [isDirectory, this, Bool.or_true]

theorem obstacle?_write_self (t : FileTree) {p : Path} (content : Bytes)
    (possible : p.isPossible = true) : (t.write p content).obstacle? p = none := by
  simp only [Path.isPossible, Bool.and_eq_true, Option.isNone_iff_eq_none,
    Bool.not_eq_true', List.any_eq_false] at possible
  simp only [obstacle?, possible.1, List.findSome?_eq_none_iff, List.mem_range]
  intro place h
  have short := possible.2 _ (List.getElem_mem h)
  rw [obstacleAt?, if_pos (isDirectory_write_start t p content h), List.getElem?_eq_getElem h]
  simp only [Option.any_some, short, Bool.false_eq_true, if_false]

theorem read?_write_self (t : FileTree) {p : Path} (content : Bytes)
    (possible : p.isPossible = true) : (t.write p content).read? p = some content := by
  simp only [read?, find, obstacle?_write_self t content possible, content?_write_self]

end FileTree

end IndexSnapshot
