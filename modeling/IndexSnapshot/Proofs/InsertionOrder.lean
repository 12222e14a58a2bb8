/-
# IndexSnapshot.Proofs.InsertionOrder -- texts do not tell in which order sets were filled

The stable text of a value shows members and keys in a sorted order.  Whether their natural order
sorts them is a property of what they are and not of the order in which they came (`GappedSort`).
Where it does not, they are sorted by their own texts, and members with one text look the same.
Keys with one text may have different values behind them, so of keys it is asked that their texts
differ.

* `WellKeyed`: values whose sets and maps have unequal keys, and whose maps show them all.
* `Reordering`: the members of one set, or the entries of one map, in another order, at any depth.
* `Alike`: a constant is compared by its name, so what changes inside it changes no comparison
  (`Reordering.alike`).
* `display_eq_of_reordered`: any number of reorderings leaves the text as it is.
-/
import IndexSnapshot.Value.Display
import IndexSnapshot.Proofs.NaturalOrder
import Mathlib.Data.List.Nodup
import Mathlib.Logic.Relation

namespace IndexSnapshot

set_option autoImplicit false

namespace Value

/-! ## Values and their reorderings -/

/-- A value made of plain values, constants, lists, tuples, sets and maps, in which the members of a
set are unequal, the keys of a map are too, and these have different texts. -/
inductive WellKeyed : Value → Prop where
  | none : WellKeyed .none
  | bool (b : Bool) : WellKeyed (.bool b)
  | int (n : Int) : WellKeyed (.int n)
  | float (v : Double) : WellKeyed (.float v)
  | text (s : String) : WellKeyed (.text s)
  | bytes (b : Bytes) : WellKeyed (.bytes b)
  | constant {value : Value} (name : Option String) (inner : WellKeyed value) :
      WellKeyed (.constant value name)
  | list {items : List Value} (inner : ∀ v ∈ items, WellKeyed v) : WellKeyed (.list items)
  | tuple {items : List Value} (inner : ∀ v ∈ items, WellKeyed v) : WellKeyed (.tuple items)
  | set {members : List Value} (inner : ∀ v ∈ members, WellKeyed v)
      (keys : DistinctKeys members) : WellKeyed (.set members)
  | map {entries : List (Value × Value)} (innerKeys : ∀ e ∈ entries, WellKeyed e.1)
      (inner : ∀ e ∈ entries, WellKeyed e.2) (keys : DistinctKeys (entries.map Prod.fst))
      (texts : ((entries.map Prod.fst).map display).Nodup) : WellKeyed (.map entries)

/-- The second value is the first one with the members of one set, or the entries of one map, in
another order. -/
inductive Reordering : Value → Value → Prop where
  | members {members others : List Value} (perm : members.Perm others) :
      Reordering (.set members) (.set others)
  | entries {entries others : List (Value × Value)} (perm : entries.Perm others) :
      Reordering (.map entries) (.map others)
  | inConstant {v w : Value} (name : Option String) (inside : Reordering v w) :
      Reordering (.constant v name) (.constant w name)
  | inList {v w : Value} (before after : List Value) (inside : Reordering v w) :
      Reordering (.list (before ++ v :: after)) (.list (before ++ w :: after))
  | inTuple {v w : Value} (before after : List Value) (inside : Reordering v w) :
      Reordering (.tuple (before ++ v :: after)) (.tuple (before ++ w :: after))
  | inSet {v w : Value} (before after : List Value) (inside : Reordering v w) :
      Reordering (.set (before ++ v :: after)) (.set (before ++ w :: after))
  | inKey {v w : Value} (before after : List (Value × Value)) (value : Value)
      (inside : Reordering v w) :
      Reordering (.map (before ++ (v, value) :: after)) (.map (before ++ (w, value) :: after))
  | inEntry {v w : Value} (before after : List (Value × Value)) (key : Value)
      (inside : Reordering v w) :
      Reordering (.map (before ++ (key, v) :: after)) (.map (before ++ (key, w) :: after))

/-! ## One item in place of another -/

section Replaced

variable {α : Type} {before after : List α} {v w : α}

theorem forall_mem_replaced {P : α → Prop} (all : ∀ x ∈ before ++ v :: after, P x) (this : P w) :
    ∀ x ∈ before ++ w :: after, P x := by
  simp only [List.forall_mem_append, List.forall_mem_cons] at all ⊢
  exact ⟨all.1, this, all.2.2⟩

theorem pairwise_replaced {R : α → α → Prop} (pairs : (before ++ v :: after).Pairwise R)
    (left : ∀ x, R v x → R w x) (right : ∀ x, R x v → R x w) :
    (before ++ w :: after).Pairwise R := by
  rw [List.pairwise_append, List.pairwise_cons] at pairs ⊢
  obtain ⟨first, ⟨next, last⟩, across⟩ := pairs
  refine ⟨first, ⟨fun x member => left x (next x member), last⟩, fun x member y among => ?_⟩
  rcases List.mem_cons.1 among with rfl | among
  · exact right x (across x member v List.mem_cons_self)
  · exact across x member y (List.mem_cons_of_mem _ among)

theorem forall₂_replaced {R : α → α → Prop} (refl : ∀ x, R x x) (this : R v w) :
    List.Forall₂ R (before ++ v :: after) (before ++ w :: after) :=
  List.rel_append (List.forall₂_same.2 fun x _ => refl x)
    (.cons this (List.forall₂_same.2 fun x _ => refl x))

theorem map_replaced {β : Type} {f : α → β} (this : f v = f w) :
    (before ++ v :: after).map f = (before ++ w :: after).map f := by
  simp only [List.map_append, List.map_cons, this]

end Replaced

/-! ## Values that are compared alike -/

/-- Two values that are compared alike with every value. -/
structure Alike (v w : Value) : Prop where
  sameLeft : ∀ x, same v x = same w x
  sameRight : ∀ x, same x v = same x w
  beforeLeft : ∀ x, before? v x = before? w x
  beforeRight : ∀ x, before? x v = before? x w

theorem Alike.refl (v : Value) : Alike v v :=
  ⟨fun _ => rfl, fun _ => rfl, fun _ => rfl, fun _ => rfl⟩

theorem Alike.constant {v w : Value} {name : Option String} :
    Alike (.constant v name) (.constant w name) := by
  constructor <;> intro x
  all_goals cases x with
    | constant other m => cases name <;> cases m <;> simp [same, before?, isNumber]
    | _ => simp [same, before?, isNumber]

section Tuple

variable {v w : Value} (before after : List Value)

theorem compareAll_replaced_left (alike : Alike v w) (ys : List Value) :
    sameAll (before ++ v :: after) ys = sameAll (before ++ w :: after) ys ∧
      beforeAll? (before ++ v :: after) ys = beforeAll? (before ++ w :: after) ys := by
  induction before generalizing ys with
  | nil => cases ys <;> simp [sameAll, beforeAll?, alike.sameLeft, alike.beforeLeft]
  | cons x before ih =>
      cases ys with
      | nil => simp [sameAll, beforeAll?]
      | cons y ys => simp [sameAll, beforeAll?, (ih ys).1, (ih ys).2]

theorem compareAll_replaced_right (alike : Alike v w) (xs : List Value) :
    sameAll xs (before ++ v :: after) = sameAll xs (before ++ w :: after) ∧
      beforeAll? xs (before ++ v :: after) = beforeAll? xs (before ++ w :: after) := by
  induction before generalizing xs with
  | nil => cases xs <;> simp [sameAll, beforeAll?, alike.sameRight, alike.beforeRight]
  | cons y before ih =>
      cases xs with
      | nil => simp [sameAll, beforeAll?]
      | cons x xs => simp [sameAll, beforeAll?, (ih xs).1, (ih xs).2]

theorem Alike.tuple (alike : Alike v w) :
    Alike (.tuple (before ++ v :: after)) (.tuple (before ++ w :: after)) := by
  have left := compareAll_replaced_left before after alike
  have right := compareAll_replaced_right before after alike
  constructor <;> intro x <;> cases x <;> simp [same, before?, isNumber, left, right]

end Tuple

/-- **What changes inside a key changes no comparison with it**, for it is inside a constant. -/
theorem Reordering.alike {v w : Value} (step : Reordering v w) (key : IsKey v) :
    IsKey w ∧ Alike v w := by
  induction step with
  | inConstant name inside _ => exact ⟨.constant _ name, .constant⟩
  | inTuple before after inside ih =>
      cases key with
      | number here => simp [place?] at here
      | tuple keys =>
          obtain ⟨key, alike⟩ := ih (keys _ (by simp))
          exact ⟨.tuple (forall_mem_replaced keys key), alike.tuple before after⟩
  | _ =>
      cases key with
      | number here => simp [place?] at here

theorem DistinctKeys.replaced {before after : List Value} {v w : Value}
    (keys : DistinctKeys (before ++ v :: after)) (key : IsKey w) (alike : Alike v w) :
    DistinctKeys (before ++ w :: after) where
  isKey := forall_mem_replaced keys.isKey key
  distinct := pairwise_replaced keys.distinct (fun x differ => alike.sameLeft x ▸ differ)
    fun x differ => alike.sameRight x ▸ differ

/-! ## Texts of sets and maps -/

theorem displayAll_eq_map (items : List Value) : displayAll items = items.map display := by
  induction items with
  | nil => rfl
  | cons v rest ih => rw [displayAll, ih, List.map_cons]

theorem displayEntries_eq_map (entries : List (Value × Value)) :
    displayEntries entries = entries.map fun e => (display e.1, display e.2) := by
  induction entries with
  | nil => rfl
  | cons e rest ih => rw [displayEntries, ih, List.map_cons]

/-- A member with its text. -/
def textedMember (v : Value) : Value × String :=
  (v, display v)

/-- A key with its text and that of its value. -/
def textedEntry (e : Value × Value) : Value × String × String :=
  (e.1, display e.1, display e.2)

theorem map_fst_textedMember (members : List Value) :
    (members.map textedMember).map Prod.fst = members := by
  rw [List.map_map]
  exact List.map_id members

theorem map_fst_textedEntry (entries : List (Value × Value)) :
    (entries.map textedEntry).map Prod.fst = entries.map Prod.fst := by
  rw [List.map_map]
  rfl

theorem display_set (members : List Value) :
    display (.set members) = bracketed "\x7b" "\x7d"
      ((sortedBy Prod.fst Prod.snd (members.map textedMember)).map Prod.snd) := by
  have pairs : members.zip (members.map display) = members.map textedMember := by
    have zipped : (members.map id).zip (members.map display) = members.map textedMember :=
      List.zip_map'
    rwa [List.map_id] at zipped
  rw [display, displayAll_eq_map, pairs]

theorem display_map (entries : List (Value × Value)) :
    display (.map entries) = bracketed "\x7b" "\x7d"
      ((sortedBy Prod.fst (fun e => e.2.1) (entries.map textedEntry)).map
        fun e => e.2.1 ++ ": " ++ e.2.2) := by
  rw [display, displayEntries_eq_map, List.zip_map']
  rfl

/-- The text of a set shows its members in some order. -/
theorem exists_display_set (members : List Value) : ∃ shown : List Value, shown.Perm members ∧
    display (.set members) = bracketed "\x7b" "\x7d" (shown.map display) := by
  have sorted := sortedBy_perm Prod.fst Prod.snd (members.map textedMember)
  obtain ⟨shown, texts, same⟩ := (congrFun₂ (List.eq_map_comp_perm textedMember) _ _).mpr sorted
  refine ⟨shown, same, ?_⟩
  rw [display_set, texts, List.map_map]
  rfl

/-- The text of a map shows its entries in some order. -/
theorem exists_display_map (entries : List (Value × Value)) :
    ∃ shown : List (Value × Value), shown.Perm entries ∧ display (.map entries) =
      bracketed "\x7b" "\x7d" (shown.map fun e => display e.1 ++ ": " ++ display e.2) := by
  have sorted := sortedBy_perm Prod.fst (fun e => e.2.1) (entries.map textedEntry)
  obtain ⟨shown, texts, same⟩ := (congrFun₂ (List.eq_map_comp_perm textedEntry) _ _).mpr sorted
  refine ⟨shown, same, ?_⟩
  rw [display_map, texts, List.map_map]
  rfl

/-- Keys whose texts differ are followed by the same value wherever they have the same text. -/
theorem textedEntry_ties {entries : List (Value × Value)}
    (texts : ((entries.map Prod.fst).map display).Nodup) :
    ∀ a ∈ entries.map textedEntry, ∀ b ∈ entries.map textedEntry, a.2.1 = b.2.1 →
      a.2.1 ++ ": " ++ a.2.2 = b.2.1 ++ ": " ++ b.2.2 := by
  intro a ha b hb tie
  obtain ⟨e, he, rfl⟩ := List.mem_map.1 ha
  obtain ⟨f, hf, rfl⟩ := List.mem_map.1 hb
  rw [List.map_map] at texts
  rw [List.inj_on_of_nodup_map texts he hf tie]

/-- Things with the same texts, beside values that are compared alike. -/
def Kin {τ : Type} (a b : Value × τ) : Prop :=
  Alike a.1 b.1 ∧ a.2 = b.2

theorem Kin.refl {τ : Type} (a : Value × τ) : Kin a a :=
  ⟨.refl a.1, rfl⟩

theorem Kin.beforeBy?_eq {τ : Type} {a b a' b' : Value × τ} (ha : Kin a a') (hb : Kin b b') :
    beforeBy? Prod.fst a b = beforeBy? Prod.fst a' b' :=
  (ha.1.beforeLeft b.1).trans (hb.1.beforeRight a'.1)

section Sets

variable {members others before after : List Value} {v w : Value}

theorem display_set_perm (keys : DistinctKeys members) (perm : members.Perm others) :
    display (.set others) = display (.set members) := by
  rw [← map_fst_textedMember members] at keys
  rw [display_set, display_set,
    map_sortedBy_perm keys.comparable (perm.map textedMember) fun _ _ _ _ tie => tie]

theorem display_set_replaced (keys : DistinctKeys (before ++ v :: after))
    (keys' : DistinctKeys (before ++ w :: after)) (alike : Alike v w)
    (text : display w = display v) :
    display (.set (before ++ w :: after)) = display (.set (before ++ v :: after)) := by
  have kin : Kin (textedMember v) (textedMember w) := ⟨alike, text.symm⟩
  have paired : List.Forall₂ Kin ((before ++ v :: after).map textedMember)
      ((before ++ w :: after).map textedMember) := by
    rw [List.map_append, List.map_append]
    exact forall₂_replaced Kin.refl kin
  rw [← map_fst_textedMember (_ ++ _)] at keys keys'
  rw [display_set, display_set,
    map_sortedBy_alike (fun _ _ _ _ => Kin.beforeBy?_eq) (fun _ _ kin => ⟨kin.2, kin.2⟩)
      keys.comparable keys'.comparable paired fun _ _ _ _ tie => tie]

end Sets

section Maps

variable {entries others before after : List (Value × Value)} {v w value key : Value}

theorem display_map_perm (keys : DistinctKeys (entries.map Prod.fst))
    (texts : ((entries.map Prod.fst).map display).Nodup) (perm : entries.Perm others) :
    display (.map others) = display (.map entries) := by
  rw [← map_fst_textedEntry entries] at keys
  rw [display_map, display_map,
    map_sortedBy_perm keys.comparable (perm.map textedEntry) (textedEntry_ties texts)]

theorem display_map_key_replaced
    (keys : DistinctKeys ((before ++ (v, value) :: after).map Prod.fst))
    (keys' : DistinctKeys ((before ++ (w, value) :: after).map Prod.fst))
    (texts : (((before ++ (v, value) :: after).map Prod.fst).map display).Nodup)
    (alike : Alike v w) (text : display w = display v) :
    display (.map (before ++ (w, value) :: after)) =
      display (.map (before ++ (v, value) :: after)) := by
  have kin : Kin (textedEntry (v, value)) (textedEntry (w, value)) :=
    ⟨alike, by rw [textedEntry, textedEntry, text]⟩
  have paired : List.Forall₂ Kin ((before ++ (v, value) :: after).map textedEntry)
      ((before ++ (w, value) :: after).map textedEntry) := by
    rw [List.map_append, List.map_append]
    exact forall₂_replaced Kin.refl kin
  rw [← map_fst_textedEntry] at keys keys'
  rw [display_map, display_map,
    map_sortedBy_alike (fun _ _ _ _ => Kin.beforeBy?_eq)
      (fun _ _ kin => by rw [kin.2]; exact ⟨rfl, rfl⟩)
      keys.comparable keys'.comparable paired (textedEntry_ties texts)]

theorem display_map_value_replaced (text : display w = display v) :
    display (.map (before ++ (key, w) :: after)) =
      display (.map (before ++ (key, v) :: after)) := by
  have same : textedEntry (key, w) = textedEntry (key, v) := by rw [textedEntry, textedEntry, text]
  rw [display_map, display_map, map_replaced same]

end Maps

/-! ## One reordering, and any number -/

/-- **One reordering** leaves a value well keyed and its text as it is. -/
theorem Reordering.display_eq {v w : Value} (step : Reordering v w) (well : WellKeyed v) :
    WellKeyed w ∧ display w = display v := by
  induction step with
  | members perm =>
      cases well with
      | set inner keys =>
          exact ⟨.set (fun v member => inner v (perm.mem_iff.2 member)) (keys.perm perm),
            display_set_perm keys perm⟩
  | entries perm =>
      cases well with
      | map innerKeys inner keys texts =>
          have texts' := ((perm.map Prod.fst).map display).nodup_iff.1 texts
          refine ⟨.map (fun e member => ?_) (fun e member => ?_) (keys.perm (perm.map _)) texts',
            display_map_perm keys texts perm⟩
          · exact innerKeys e (perm.mem_iff.2 member)
          · exact inner e (perm.mem_iff.2 member)
  | inConstant name inside ih =>
      cases well with
      | constant _ inner =>
          obtain ⟨well, text⟩ := ih inner
          exact ⟨.constant name well, by rw [display, display, text]⟩
  | inList before after inside ih =>
      cases well with
      | list inner =>
          obtain ⟨well, text⟩ := ih (inner _ (by simp))
          refine ⟨.list (forall_mem_replaced inner well), ?_⟩
          rw [display, display, displayAll_eq_map, displayAll_eq_map, map_replaced text]
  | inTuple before after inside ih =>
      cases well with
      | tuple inner =>
          obtain ⟨well, text⟩ := ih (inner _ (by simp))
          refine ⟨.tuple (forall_mem_replaced inner well), ?_⟩
          rw [display, display, displayAll_eq_map, displayAll_eq_map, map_replaced text]
  | inSet before after inside ih =>
      cases well with
      | set inner keys =>
          obtain ⟨well, text⟩ := ih (inner _ (by simp))
          obtain ⟨key, alike⟩ := inside.alike (keys.isKey _ (by simp))
          have keys' := keys.replaced key alike
          exact ⟨.set (forall_mem_replaced inner well) keys',
            display_set_replaced keys keys' alike text⟩
  | @inKey v w before after value inside ih =>
      cases well with
      | map innerKeys inner keys texts =>
          obtain ⟨well, text⟩ := ih (innerKeys (v, value) (by simp))
          obtain ⟨key, alike⟩ := inside.alike (keys.isKey v (by simp))
          have keys' : DistinctKeys ((before ++ (w, value) :: after).map Prod.fst) := by
            rw [List.map_append, List.map_cons] at keys ⊢
            exact keys.replaced key alike
          have texts' : (((before ++ (w, value) :: after).map Prod.fst).map display).Nodup := by
            rw [List.map_map] at texts ⊢
            rwa [map_replaced (v := (w, value)) (w := (v, value)) text]
          exact ⟨.map (forall_mem_replaced innerKeys well)
              (forall_mem_replaced inner (inner (v, value) (by simp))) keys' texts',
            display_map_key_replaced keys keys' texts alike text⟩
  | @inEntry v w before after key inside ih =>
      cases well with
      | map innerKeys inner keys texts =>
          obtain ⟨well, text⟩ := ih (inner (key, v) (by simp))
          have firsts : (before ++ (key, v) :: after).map Prod.fst =
              (before ++ (key, w) :: after).map Prod.fst := map_replaced rfl
          rw [firsts] at keys texts
          exact ⟨.map (forall_mem_replaced innerKeys (innerKeys (key, v) (by simp)))
              (forall_mem_replaced inner well) keys texts, display_map_value_replaced text⟩

/-- **The text of a value does not depend on the order in which its sets and maps were filled**, at
any depth, whether their members have a natural order or are sorted by their texts. -/
theorem display_eq_of_reordered {v w : Value} (well : WellKeyed v)
    (steps : Relation.ReflTransGen Reordering v w) : display w = display v := by
  induction steps using Relation.ReflTransGen.head_induction_on with
  | refl => rfl
  | head step _ ih =>
      obtain ⟨well', text⟩ := step.display_eq well
      exact (ih well').trans text

/-- A pair with a constant in front. -/
def criterionPair (v : Value) : Value :=
  .tuple [.constant (.text "words") (some "WORDS"), v]

/-- A map from a number to a set of pairs, and from a text to nothing. -/
def criteria (pairs : List Value) : List (Value × Value) :=
  [(.int 2, .set pairs), (.text "b", .none)]

theorem wellKeyed_criteria :
    WellKeyed (.map (criteria [criterionPair (.int 3), criterionPair (.bool true)])) := by
  have number (n : Int) : IsKey (.int n) := .number rfl
  have pairKey {v : Value} (key : IsKey v) : IsKey (criterionPair v) :=
    .tuple (by simpa using ⟨.constant _ _, key⟩)
  have pairWell {v : Value} (well : WellKeyed v) : WellKeyed (criterionPair v) :=
    .tuple (by simpa using ⟨.constant _ (.text _), well⟩)
  have pairs : DistinctKeys [criterionPair (.int 3), criterionPair (.bool true)] := by
    refine ⟨by simpa using ⟨pairKey (number 3), pairKey (.number rfl)⟩, ?_⟩
    simp [criterionPair, same, sameAll, isNumber, samePlace, place?, Double.Place.ofInt_inj]
  refine .map ?_ ?_ ⟨?_, ?_⟩ ?_
  · simpa [criteria] using ⟨.int 2, .text "b"⟩
  · have set : WellKeyed (.set [criterionPair (.int 3), criterionPair (.bool true)]) :=
      .set (by simpa using ⟨pairWell (.int 3), pairWell (.bool true)⟩) pairs
    simpa [criteria] using ⟨set, .none⟩
  · simpa [criteria] using ⟨number 2, .text "b"⟩
  · simp [criteria, same, isNumber]
  · simp [criteria, display]
    decide

/-- Keys that have no natural order, and a set behind one of them whose members do. -/
theorem reordered_criteria_display_alike :
    WellKeyed (.map (criteria [criterionPair (.int 3), criterionPair (.bool true)])) ∧
    Relation.ReflTransGen Reordering
      (.map (criteria [criterionPair (.int 3), criterionPair (.bool true)]))
      (.map (criteria [criterionPair (.bool true), criterionPair (.int 3)]).reverse) ∧
    display (.map (criteria [criterionPair (.bool true), criterionPair (.int 3)]).reverse) =
      display (.map (criteria [criterionPair (.int 3), criterionPair (.bool true)])) := by
  have steps : Relation.ReflTransGen Reordering
      (.map (criteria [criterionPair (.int 3), criterionPair (.bool true)]))
      (.map (criteria [criterionPair (.bool true), criterionPair (.int 3)]).reverse) := by
    refine .tail (.single (.inEntry [] [(.text "b", .none)] (.int 2) (.members (.swap _ _ _)))) ?_
    exact .entries (List.reverse_perm _).symm
  exact ⟨wellKeyed_criteria, steps, display_eq_of_reordered wellKeyed_criteria steps⟩

end Value

end IndexSnapshot
