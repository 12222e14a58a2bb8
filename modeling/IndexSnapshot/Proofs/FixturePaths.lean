/-
# IndexSnapshot.Proofs.FixturePaths -- fixtures lie side by side

The fixtures of a location are files of one directory, each with its pending file beside
it.  Their paths are all different once two dots are resolved, whatever the directory is.

* `Path.within` and its lemmas: files of one directory.
* `Location.folded_fixturePath_inj`: different names have different fixtures.
* `Location.folded_fixturePath_ne_pending`: no fixture is a pending file.
-/
import IndexSnapshot.Fixture.Comparison
import IndexSnapshot.Snapshot.Name

namespace IndexSnapshot

set_option autoImplicit false

/-! ## Files of one directory -/

/-- A text that is a name within a directory: without slashes and null characters. -/
def IsFileName (name : String) : Prop :=
  '/' ∉ name.toList ∧ Char.ofNat 0 ∉ name.toList

instance (name : String) : Decidable (IsFileName name) :=
  inferInstanceAs (Decidable (_ ∧ _))

theorem IsFileName.append {a b : String} (ha : IsFileName a) (hb : IsFileName b) :
    IsFileName (a ++ b) := by
  simp only [IsFileName, String.toList_append, List.mem_append, not_or]
  exact ⟨⟨ha.1, hb.1⟩, ha.2, hb.2⟩

theorem SnapshotName.isFileName_text (name : SnapshotName) : IsFileName name.text := by
  cases name with
  | table name => cases name <;> decide
  | _ => decide

namespace Path

/-- The path of a name in a directory. -/
def within (directory : Path) (name : String) : Path :=
  { directory with names := directory.names ++ [name] }

theorem splitSlashes_eq {chars : List Char} (plain : '/' ∉ chars) :
    splitSlashes chars = [chars] := by
  induction chars with
  | nil => rfl
  | cons c rest ih =>
      rw [List.mem_cons, not_or] at plain
      have cut : splitSlashes (c :: rest) = consName c (splitSlashes rest) := rfl
      rw [cut, ih plain.2, consName, if_neg (Ne.symm plain.1)]

/-- A text without slashes is a path of one name. -/
theorem ofString_eq {text : String} (plain : '/' ∉ text.toList)
    (named : isName text.toList = true) : ofString text = ⟨.here, [text]⟩ := by
  have start : text.toList.takeWhile (· == '/') = [] := by
    cases found : text.toList with
    | nil => rfl
    | cons c rest =>
        rw [found, List.mem_cons, not_or] at plain
        exact List.takeWhile_cons_of_neg (by simpa using Ne.symm plain.1)
  have single : [text.toList].filter isName = [text.toList] := by simp [named]
  rw [ofString, splitSlashes_eq plain, anchorOf, start, single, List.map_singleton,
    String.ofList_toList]
  rfl

theorem folded_within (d : Path) {name : String} (up : name ≠ "..") :
    (d.within name).folded = d.folded.within name := by
  simp only [folded, within, List.foldl_append, List.foldl_cons, List.foldl_nil, foldName,
    if_neg up]

theorem within_inj {d : Path} {a b : String} : d.within a = d.within b ↔ a = b := by
  simp only [within, Path.mk.injEq, true_and, List.append_cancel_left_eq, List.cons.injEq,
    and_true]

theorem appendToName_within (d : Path) (name suffix : String) :
    (d.within name).appendToName suffix = d.within (name ++ suffix) := by
  simp only [appendToName, within, List.getLast?_concat, List.dropLast_concat]

theorem start_within (d : Path) (name : String) {place : Nat} (h : place ≤ d.names.length) :
    (d.within name).start place = d.start place := by
  simp only [start, within, List.take_append_of_le_length h]

/-- The texts of all files of a directory begin alike. -/
theorem toString_within (d : Path) :
    ∃ start : String, ∀ name, (d.within name).toString = start ++ name := by
  have shown (name : String) : (d.within name).toString
      = Anchor.text d.anchor ++ "/".intercalate (d.names ++ [name]) := by
    rw [toString]
    split
    · rename_i empty
      simp [within] at empty
    · rfl
  by_cases top : d.names = []
  · refine ⟨Anchor.text d.anchor, fun name => ?_⟩
    rw [shown, top, List.nil_append, String.intercalate_singleton]
  · refine ⟨Anchor.text d.anchor ++ ("/".intercalate d.names ++ "/"), fun name => ?_⟩
    rw [shown, String.intercalate_append_of_ne_nil top (by simp), String.intercalate_singleton]
    simp only [String.append_assoc]

end Path

namespace Location

theorem fixturePath_eq (location : Location) {name : String} (plain : IsFileName name) :
    location.fixturePath name = location.directory.within (name ++ fixtureSuffix) := by
  have file : IsFileName (name ++ fixtureSuffix) := plain.append (by decide)
  have named : Path.isName (name ++ fixtureSuffix).toList = true := by
    have long : 5 ≤ (name ++ fixtureSuffix).toList.length := by
      rw [String.toList_append, List.length_append]
      exact Nat.le_add_left _ _
    generalize (name ++ fixtureSuffix).toList = chars at long
    match chars with
    | _ :: _ :: _ => simp [Path.isName]
  rw [fixturePath, Path.child, Path.ofString_eq file.1 named]
  rfl

theorem pending_fixturePath_eq (location : Location) {name : String} (plain : IsFileName name) :
    (location.fixturePath name).pending
      = location.directory.within (name ++ fixtureSuffix ++ pendingSuffix) := by
  rw [fixturePath_eq location plain, Path.pending, Path.appendToName_within]

theorem getLast?_fixtureName (name : String) :
    (name ++ fixtureSuffix).toList.getLast? = some 'p' := by
  rw [String.toList_append, List.getLast?_append]
  rfl

theorem getLast?_pendingName (name : String) :
    (name ++ fixtureSuffix ++ pendingSuffix).toList.getLast? = some 'w' := by
  rw [String.toList_append, List.getLast?_append]
  rfl

theorem folded_fixturePath (location : Location) {name : String} (plain : IsFileName name) :
    (location.fixturePath name).folded
      = location.directory.folded.within (name ++ fixtureSuffix) := by
  have up : name ++ fixtureSuffix ≠ ".." := fun same => by
    have last := getLast?_fixtureName name
    rw [same] at last
    exact absurd last (by decide)
  rw [fixturePath_eq location plain, Path.folded_within _ up]

theorem folded_pending (location : Location) {name : String} (plain : IsFileName name) :
    (location.fixturePath name).pending.folded
      = location.directory.folded.within (name ++ fixtureSuffix ++ pendingSuffix) := by
  have up : name ++ fixtureSuffix ++ pendingSuffix ≠ ".." := fun same => by
    have last := getLast?_pendingName name
    rw [same] at last
    exact absurd last (by decide)
  rw [pending_fixturePath_eq location plain, Path.folded_within _ up]

/-- Different names have different fixtures. -/
theorem folded_fixturePath_inj (location : Location) {a b : String} (ha : IsFileName a)
    (hb : IsFileName b) :
    (location.fixturePath a).folded = (location.fixturePath b).folded ↔ a = b := by
  rw [folded_fixturePath location ha, folded_fixturePath location hb, Path.within_inj,
    String.append_left_inj]

/-- No fixture is the pending file of another one. -/
theorem folded_fixturePath_ne_pending (location : Location) {a b : String} (ha : IsFileName a)
    (hb : IsFileName b) :
    (location.fixturePath a).folded ≠ (location.fixturePath b).pending.folded := by
  rw [folded_fixturePath location ha, folded_pending location hb, Ne, Path.within_inj]
  intro same
  have last := getLast?_fixtureName a
  rw [same, getLast?_pendingName] at last
  exact absurd last (by decide)

end Location

end IndexSnapshot
