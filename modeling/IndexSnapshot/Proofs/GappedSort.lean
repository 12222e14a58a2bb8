/-
# IndexSnapshot.Proofs.GappedSort -- sorting where not all things are compared

A sort by an order with gaps compares just some of the things.  That is enough: two things that
are neighbours in its result were compared, or others between them were, so if there is a result
then of any two things one comes before the other.  Which things those are does not depend on the
order in which they came, and neither does whether there is a result.

* `Comparable`: the order is transitive on the things, and of two of them one comes before the
  other as soon as it is known that the other does not.
* `insertionSort?_ascending`: what the sort returns holds the same things and ascends.
* `Value.naturallySorted?_eq_some_iff`: a natural sort has a result exactly if the things can be
  put in an ascending order, and then it is that order.
* `Value.sortedBy_perm`: a sort by values and texts returns the same things, and
  `Value.map_sortedBy_perm`: it shows the same for things in another order.
-/
import IndexSnapshot.Value.Order
import Mathlib.Data.List.Pairwise
import Mathlib.Data.List.Perm.Basic

namespace IndexSnapshot

set_option autoImplicit false

section

variable {α : Type} {before? : α → α → Option Bool} {things others : List α}

/-- The first thing is known to come before the second. -/
def Precedes (before? : α → α → Option Bool) (a b : α) : Prop :=
  before? a b = some true

/-- Of the two things one comes before the other if they are compared at all. -/
structure Apart (before? : α → α → Option Bool) (a b : α) : Prop where
  back : before? a b = some false → Precedes before? b a
  forth : before? b a = some false → Precedes before? a b

theorem Apart.symm {a b : α} (apart : Apart before? a b) : Apart before? b a :=
  ⟨apart.forth, apart.back⟩

/-- Things with an order that may have gaps. -/
structure Comparable (before? : α → α → Option Bool) (things : List α) : Prop where
  trans : ∀ a ∈ things, ∀ b ∈ things, ∀ c ∈ things,
    Precedes before? a b → Precedes before? b c → Precedes before? a c
  strict : ∀ a ∈ things, ∀ b ∈ things, Precedes before? a b → before? b a = some false
  apart : things.Pairwise (Apart before?)

theorem Comparable.perm (order : Comparable before? things) (same : things.Perm others) :
    Comparable before? others where
  strict a ha b hb := order.strict a (same.mem_iff.2 ha) b (same.mem_iff.2 hb)
  trans a ha b hb c hc :=
    order.trans a (same.mem_iff.2 ha) b (same.mem_iff.2 hb) c (same.mem_iff.2 hc)
  apart := (same.pairwise_iff Apart.symm).1 order.apart

theorem Comparable.sublist (order : Comparable before? things) (part : others.Sublist things) :
    Comparable before? others where
  strict a ha b hb := order.strict a (part.subset ha) b (part.subset hb)
  trans a ha b hb c hc :=
    order.trans a (part.subset ha) b (part.subset hb) c (part.subset hc)
  apart := order.apart.sublist part

theorem Comparable.asymm (order : Comparable before? things) {a b : α} (ha : a ∈ things)
    (hb : b ∈ things) (first : Precedes before? a b) : ¬ Precedes before? b a := by
  rw [Precedes, order.strict a ha b hb first]
  exact fun impossible => by cases impossible

/-! ## Insertion by halving -/

namespace InsertionSort

/-! ### The same things -/

theorem extendRun?_perm {descending : Bool} {latest : α} {run rest grown left : List α}
    (result : extendRun? before? descending latest run rest = some (grown, left)) :
    (grown ++ left).Perm (run ++ rest) := by
  induction rest generalizing latest run with
  | nil =>
      rw [extendRun?] at result
      cases result
      exact List.Perm.refl _
  | cons next rest ih =>
      simp only [extendRun?, Option.bind_eq_bind, Option.bind_eq_some_iff] at result
      obtain ⟨comes, -, result⟩ := result
      split at result
      case isFalse stops =>
        cases result
        exact List.Perm.refl _
      case isTrue goes => exact (ih result).trans List.perm_middle.symm

theorem firstRun?_perm {run left : List α} (result : firstRun? before? things = some (run, left)) :
    (run ++ left).Perm things := by
  match things with
  | [] =>
      cases result
      exact List.Perm.refl _
  | [single] =>
      cases result
      exact List.Perm.refl _
  | first :: second :: rest =>
      simp only [firstRun?, Option.bind_eq_bind, Option.bind_eq_some_iff, Option.pure_def,
        Option.some.injEq, Prod.mk.injEq] at result
      obtain ⟨descending, -, ⟨found, others⟩, extended, rfl, rfl⟩ := result
      have same := (extendRun?_perm extended).trans (List.Perm.swap first second rest)
      cases descending with
      | true => exact same
      | false => exact ((List.reverse_perm found).append_right others).trans same

theorem insert?_perm {sorted grown : List α} {thing : α}
    (result : insert? before? sorted thing = some grown) : grown.Perm (thing :: sorted) := by
  simp only [insert?, Option.bind_eq_bind, Option.bind_eq_some_iff, Option.pure_def,
    Option.some.injEq] at result
  obtain ⟨place, -, rfl⟩ := result
  refine List.perm_middle.trans (List.Perm.cons _ ?_)
  rw [List.take_append_drop]

theorem foldlM_insert?_perm {run left sorted : List α}
    (result : left.foldlM (insert? before?) run = some sorted) : sorted.Perm (run ++ left) := by
  induction left generalizing run with
  | nil =>
      cases result
      rw [List.append_nil]
  | cons thing left ih =>
      rw [List.foldlM_cons, Option.bind_eq_bind, Option.bind_eq_some_iff] at result
      obtain ⟨grown, inserted, result⟩ := result
      exact (ih result).trans
        (((insert?_perm inserted).append_right left).trans List.perm_middle.symm)

/-! ### In ascending order -/

/-- The first thing is farther on than the second in a run that ascends or descends. -/
def Farther (before? : α → α → Option Bool) (descending : Bool) (a b : α) : Prop :=
  if descending then Precedes before? a b else Precedes before? b a

theorem farther_trans {descending : Bool} (order : Comparable before? things) {a b c : α}
    (ha : a ∈ things) (hb : b ∈ things) (hc : c ∈ things)
    (first : Farther before? descending a b) (second : Farther before? descending b c) :
    Farther before? descending a c := by
  cases descending with
  | true => exact order.trans a ha b hb c hc first second
  | false => exact order.trans c hc b hb a ha second first

theorem extendRun?_pairwise {descending : Bool} {latest : α} {older rest run left : List α}
    (result : extendRun? before? descending latest (latest :: older) rest = some (run, left))
    (order : Comparable before? (latest :: older ++ rest))
    (sorted : (latest :: older).Pairwise (Farther before? descending)) :
    run.Pairwise (Farther before? descending) := by
  induction rest generalizing latest older with
  | nil =>
      rw [extendRun?] at result
      cases result
      exact sorted
  | cons next rest ih =>
      simp only [extendRun?, Option.bind_eq_bind, Option.bind_eq_some_iff] at result
      obtain ⟨comes, compared, result⟩ := result
      split at result
      case isFalse stops =>
        cases result
        exact sorted
      case isTrue goes =>
        subst goes
        have moved : (latest :: older ++ next :: rest).Perm (next :: latest :: older ++ rest) :=
          List.perm_middle
        have order' := order.perm moved
        have apart : Apart before? next latest :=
          (List.pairwise_cons.1 order'.apart).1 latest (by simp)
        have step : Farther before? comes next latest := by
          cases comes with
          | true => exact compared
          | false => exact apart.back compared
        have ahead : ∀ other ∈ latest :: older, Farther before? comes next other := by
          intro other member
          rcases List.mem_cons.1 member with rfl | earlier
          · exact step
          · have later := (List.pairwise_cons.1 sorted).1 other earlier
            exact farther_trans order' (by simp) (by simp) (by simp [earlier]) step later
        exact ih result order' (List.pairwise_cons.2 ⟨ahead, sorted⟩)

theorem firstRun?_pairwise {run left : List α}
    (result : firstRun? before? things = some (run, left)) (order : Comparable before? things) :
    run.Pairwise (Precedes before?) := by
  match things, order with
  | [], _ =>
      cases result
      exact List.Pairwise.nil
  | [single], _ =>
      cases result
      exact List.pairwise_singleton _ _
  | first :: second :: rest, order =>
      simp only [firstRun?, Option.bind_eq_bind, Option.bind_eq_some_iff, Option.pure_def,
        Option.some.injEq, Prod.mk.injEq] at result
      obtain ⟨descending, compared, ⟨found, others⟩, extended, rfl, rfl⟩ := result
      have swapped : (first :: second :: rest).Perm (second :: [first] ++ rest) :=
        List.Perm.swap _ _ _
      have apart : Apart before? second first :=
        ((List.pairwise_cons.1 order.apart).1 second (by simp)).symm
      have step : Farther before? descending second first := by
        cases descending with
        | true => exact compared
        | false => exact apart.back compared
      have sorted := extendRun?_pairwise extended (order.perm swapped) (by simpa using step)
      cases descending with
      | true => exact sorted
      | false => exact List.pairwise_reverse.2 sorted

/-- Halving finds the place between the things that come before and those that come after. -/
theorem place?_spec {sorted : List α} {thing : α} {low high place : Nat}
    (result : place? before? sorted thing low high = some place)
    (order : Comparable before? (thing :: sorted)) (ascending : sorted.Pairwise (Precedes before?))
    (bounds : low ≤ high) (fits : high ≤ sorted.length)
    (left : ∀ i (h : i < sorted.length), i < low → Precedes before? sorted[i] thing)
    (right : ∀ i (h : i < sorted.length), high ≤ i → Precedes before? thing sorted[i]) :
    place ≤ sorted.length ∧
      (∀ i (h : i < sorted.length), i < place → Precedes before? sorted[i] thing) ∧
      ∀ i (h : i < sorted.length), place ≤ i → Precedes before? thing sorted[i] := by
  induction size : high - low using Nat.strongRecOn generalizing low high with
  | ind size ih =>
      rw [place?] at result
      split at result
      case isFalse met =>
        have here : low = place := Option.some.inj result
        have same : low = high := by omega
        rw [← here]
        exact ⟨by omega, left, same ▸ right⟩
      case isTrue apart =>
        have inside : (low + high) / 2 < sorted.length := by omega
        simp only [List.getElem?_eq_getElem inside, Option.bind_eq_bind,
          Option.bind_eq_some_iff] at result
        obtain ⟨comes, compared, result⟩ := result
        have within (i : Nat) (h : i < sorted.length) : sorted[i] ∈ thing :: sorted :=
          List.mem_cons_of_mem _ (List.getElem_mem h)
        have grows (i j : Nat) (hi : i < sorted.length) (hj : j < sorted.length) (lower : i < j) :
            Precedes before? sorted[i] sorted[j] :=
          List.pairwise_iff_getElem.1 ascending i j hi hj lower
        split at result
        case isTrue comes =>
          -- the thing belongs to the left of the middle
          refine ih _ (by omega) result (by omega) (by omega) left ?_ rfl
          intro i h beyond
          rcases Nat.eq_or_lt_of_le beyond with rfl | farther
          · rwa [comes] at compared
          · exact order.trans _ (by simp) _ (within _ inside) _ (within _ h)
              (by rwa [comes] at compared) (grows _ _ inside h farther)
        case isFalse comes =>
          have known : Precedes before? sorted[(low + high) / 2] thing := by
            have pair := (List.pairwise_cons.1 order.apart).1 _ (List.getElem_mem inside)
            exact pair.back (by simpa [comes] using compared)
          refine ih _ (by omega) result (by omega) fits ?_ right rfl
          intro i h nearer
          rcases Nat.eq_or_lt_of_le (Nat.le_of_lt_succ nearer) with rfl | farther
          · exact known
          · exact order.trans _ (within _ h) _ (within _ inside) _ (by simp)
              (grows _ _ h inside farther) known

theorem insert?_pairwise {sorted grown : List α} {thing : α}
    (result : insert? before? sorted thing = some grown)
    (order : Comparable before? (thing :: sorted))
    (ascending : sorted.Pairwise (Precedes before?)) : grown.Pairwise (Precedes before?) := by
  simp only [insert?, Option.bind_eq_bind, Option.bind_eq_some_iff, Option.pure_def,
    Option.some.injEq] at result
  obtain ⟨place, found, rfl⟩ := result
  obtain ⟨fits, left, right⟩ := place?_spec found order ascending (Nat.zero_le _) (Nat.le_refl _)
    (fun _ _ none => absurd none (Nat.not_lt_zero _)) (fun _ h none => absurd h (by omega))
  have cut : (sorted.take place ++ sorted.drop place).Pairwise (Precedes before?) := by
    rwa [List.take_append_drop]
  obtain ⟨before, after, across⟩ := List.pairwise_append.1 cut
  rw [List.pairwise_append, List.pairwise_cons]
  refine ⟨before, ⟨?_, after⟩, ?_⟩
  · intro other member
    obtain ⟨i, h, rfl⟩ := List.mem_drop_iff_getElem.1 member
    exact right _ _ (by omega)
  · intro other member later among
    rcases List.mem_cons.1 among with rfl | among
    · obtain ⟨i, h, rfl⟩ := List.mem_take_iff_getElem.1 member
      exact left _ _ (by omega)
    · exact across other member later among

theorem foldlM_insert?_pairwise {run left sorted : List α}
    (result : left.foldlM (insert? before?) run = some sorted)
    (order : Comparable before? (run ++ left)) (ascending : run.Pairwise (Precedes before?)) :
    sorted.Pairwise (Precedes before?) := by
  induction left generalizing run with
  | nil =>
      cases result
      exact ascending
  | cons thing left ih =>
      rw [List.foldlM_cons, Option.bind_eq_bind, Option.bind_eq_some_iff] at result
      obtain ⟨grown, inserted, result⟩ := result
      have moved : (run ++ thing :: left).Perm (thing :: run ++ left) := List.perm_middle
      have order' := order.perm moved
      have longer := insert?_pairwise inserted
        (order'.sublist (List.sublist_append_left _ _)) ascending
      exact ih result (order'.perm ((insert?_perm inserted).symm.append_right left)) longer

end InsertionSort

/-- Whatever the order is, the sort returns the same things. -/
theorem insertionSort?_perm {sorted : List α}
    (result : insertionSort? before? things = some sorted) : sorted.Perm things := by
  simp only [insertionSort?, Option.bind_eq_bind, Option.bind_eq_some_iff] at result
  obtain ⟨⟨run, left⟩, first, rest⟩ := result
  exact (InsertionSort.foldlM_insert?_perm rest).trans (InsertionSort.firstRun?_perm first)

/-- **What the sort returns holds the same things and ascends.** -/
theorem insertionSort?_ascending {sorted : List α}
    (result : insertionSort? before? things = some sorted) (order : Comparable before? things) :
    sorted.Pairwise (Precedes before?) ∧ sorted.Perm things := by
  refine ⟨?_, insertionSort?_perm result⟩
  simp only [insertionSort?, Option.bind_eq_bind, Option.bind_eq_some_iff] at result
  obtain ⟨⟨run, left⟩, first, rest⟩ := result
  have same := InsertionSort.firstRun?_perm first
  exact InsertionSort.foldlM_insert?_pairwise rest (order.perm same.symm)
    (InsertionSort.firstRun?_pairwise first order)

/-! ## Sorting where there are no gaps -/

/-- Things can be put in just one ascending order. -/
theorem eq_of_ascending {sorted : List α} (order : Comparable before? things)
    (ascending : things.Pairwise (Precedes before?))
    (ascending' : sorted.Pairwise (Precedes before?)) (same : things.Perm sorted) :
    things = sorted := by
  refine List.Perm.eq_of_pairwise (fun a b ha hb first second => ?_) ascending ascending' same
  exact absurd second (order.asymm ha (same.mem_iff.2 hb) first)

/-- A merge sort is right also if its order is one on the sorted things only. -/
theorem pairwise_mergeSort_of_mem {le : α → α → Bool}
    (trans : ∀ a ∈ things, ∀ b ∈ things, ∀ c ∈ things,
      le a b = true → le b c = true → le a c = true)
    (total : ∀ a ∈ things, ∀ b ∈ things, le a b = true ∨ le b a = true) :
    (things.mergeSort le).Pairwise fun a b => le a b = true := by
  have sorted : (things.attach.mergeSort fun a b => le a.1 b.1).Pairwise
      fun a b => le a.1 b.1 = true := by
    refine List.pairwise_mergeSort (fun a b c => trans a.1 a.2 b.1 b.2 c.1 c.2) (fun a b => ?_) _
    rw [Bool.or_eq_true]
    exact total a.1 a.2 b.1 b.2
  have forget : (things.attach.mergeSort fun a b => le a.1 b.1).map Subtype.val =
      things.mergeSort le := by
    rw [List.map_mergeSort (s := le) fun _ _ _ _ => rfl, List.attach_map_subtype_val]
  rw [← forget, List.pairwise_map]
  exact sorted

theorem mergeSort_ascending (order : Comparable before? things)
    (total : things.Pairwise fun a b => Precedes before? a b ∨ Precedes before? b a) :
    (things.mergeSort fun a b => before? b a != some true).Pairwise (Precedes before?) := by
  have either : Std.Symm fun a b => Precedes before? a b ∨ Precedes before? b a :=
    ⟨fun _ _ => Or.symm⟩
  let le (a b : α) : Bool := before? b a != some true
  have le_iff {a b : α} : le a b = true ↔ ¬ Precedes before? b a := by
    simp [le, Precedes]
  have weak : (things.mergeSort le).Pairwise fun a b => le a b = true := by
    refine pairwise_mergeSort_of_mem (fun a ha b hb c hc first second => ?trans)
      fun a ha b hb => ?total
    case total =>
      rw [le_iff, le_iff]
      by_cases first : Precedes before? b a
      · exact Or.inr (order.asymm hb ha first)
      · exact Or.inl first
    case trans =>
      rw [le_iff] at first second ⊢
      intro last
      by_cases same : a = b
      · exact second (same ▸ last)
      · have ab := (total.forall ha hb same).resolve_right first
        exact second (order.trans c hc a ha b hb last ab)
  have total' : (things.mergeSort le).Pairwise
      fun a b => Precedes before? a b ∨ Precedes before? b a :=
    ((List.mergeSort_perm things le).pairwise_iff Or.symm).2 total
  exact (weak.and total').imp fun ⟨notBack, one⟩ => one.resolve_right (le_iff.1 notBack)

theorem map_eq_of_forall₂ {β γ : Type} {R : α → β → Prop} {f : α → γ} {g : β → γ} {images : List β}
    (same : ∀ a b, R a b → f a = g b) (paired : List.Forall₂ R things images) :
    things.map f = images.map g := by
  rw [← List.forall₂_eq_eq_eq, List.forall₂_map_left_iff, List.forall₂_map_right_iff]
  exact paired.imp fun a b kin => same a b kin

/-- Things of another kind that are compared alike ascend alike. -/
theorem pairwise_of_forall₂ {β : Type} {R : α → β → Prop} {P : α → α → Prop} {Q : β → β → Prop}
    {images : List β} (paired : List.Forall₂ R things images)
    (alike : ∀ a b a' b', R a a' → R b b' → P a b → Q a' b') (pairs : things.Pairwise P) :
    images.Pairwise Q := by
  obtain ⟨count, each⟩ := List.forall₂_iff_get.1 paired
  rw [List.pairwise_iff_getElem] at pairs ⊢
  intro i j hi hj lower
  exact alike _ _ _ _ (each i (by omega) hi) (each j (by omega) hj)
    (pairs i j (by omega) (by omega) lower)

end

/-! ## The natural order -/

namespace Value

/-- There are no gaps if of any two values exactly one comes before the other. -/
theorem isChain_iff {values : List Value} :
    isChain values = true ↔ values.Pairwise fun v w =>
      (before? v w = some true ∧ before? w v = some false) ∨
        (before? v w = some false ∧ before? w v = some true) := by
  induction values with
  | nil => simp [isChain]
  | cons v rest ih =>
      rw [isChain, Bool.and_eq_true, ih, List.pairwise_cons, List.all_eq_true]
      refine and_congr_left fun _ => forall₂_congr fun w _ => ?_
      cases before? v w with
      | none => simp
      | some left =>
          cases before? w v with
          | none => simp
          | some right => cases left <;> cases right <;> simp

section Sorted

variable {α : Type} {value : α → Value} {things others sorted : List α}

/-- Things compared by a value of each. -/
abbrev beforeBy? (value : α → Value) (a b : α) : Option Bool :=
  before? (value a) (value b)

/-- **A natural sort has a result exactly if the things can be put in an ascending order**, and the
result is that order. -/
theorem naturallySorted?_eq_some_iff (order : Comparable (beforeBy? value) things) :
    naturallySorted? value things = some sorted ↔
      sorted.Pairwise (Precedes (beforeBy? value)) ∧ sorted.Perm things := by
  have chain : isChain (things.map value) = true ↔ things.Pairwise fun a b =>
      (before? (value a) (value b) = some true ∧ before? (value b) (value a) = some false) ∨
        (before? (value a) (value b) = some false ∧ before? (value b) (value a) = some true) := by
    rw [isChain_iff, List.pairwise_map]
  have merged (ordered : isChain (things.map value) = true) :
      naturallySorted? value things =
        some (things.mergeSort fun a b => beforeBy? value b a != some true) :=
    if_pos ordered
  have ascending (ordered : isChain (things.map value) = true) :=
    mergeSort_ascending order ((chain.1 ordered).imp fun one => one.imp And.left And.right)
  constructor
  · intro result
    by_cases ordered : isChain (things.map value) = true
    · rw [merged ordered] at result
      cases result
      exact ⟨ascending ordered, List.mergeSort_perm _ _⟩
    · rw [naturallySorted?, if_neg ordered] at result
      exact insertionSort?_ascending result order
  · rintro ⟨given, same⟩
    have ordered : isChain (things.map value) = true := by
      rw [chain, ← same.pairwise_iff fun one => one.symm.imp And.symm And.symm]
      refine given.imp_of_mem fun {a b} ha hb first => Or.inl ⟨first, ?_⟩
      exact order.strict a (same.mem_iff.1 ha) b (same.mem_iff.1 hb) first
    rw [merged ordered]
    have perm := (List.mergeSort_perm things fun a b => beforeBy? value b a != some true)
    rw [eq_of_ascending (order.perm perm.symm) (ascending ordered) given (perm.trans same.symm)]

theorem naturallySorted?_perm (order : Comparable (beforeBy? value) things)
    (same : things.Perm others) :
    naturallySorted? value things = naturallySorted? value others := by
  refine Option.ext fun sorted => ?_
  rw [naturallySorted?_eq_some_iff order, naturallySorted?_eq_some_iff (order.perm same)]
  exact and_congr_right fun _ => ⟨fun perm => perm.trans same, fun perm => perm.trans same.symm⟩

/-- Things whose values are compared alike are sorted alike. -/
theorem naturallySorted?_alike {R : α → α → Prop}
    (alike : ∀ a b a' b', R a a' → R b b' → beforeBy? value a b = beforeBy? value a' b')
    (order : Comparable (beforeBy? value) things) (order' : Comparable (beforeBy? value) others)
    (paired : List.Forall₂ R things others) (result : naturallySorted? value things = some sorted) :
    ∃ sorted', naturallySorted? value others = some sorted' ∧ List.Forall₂ R sorted sorted' := by
  obtain ⟨ascending, same⟩ := (naturallySorted?_eq_some_iff order).1 result
  obtain ⟨sorted', pairs, same'⟩ := List.perm_comp_forall₂ same paired
  refine ⟨sorted', (naturallySorted?_eq_some_iff order').2 ⟨?_, same'⟩, pairs⟩
  refine pairwise_of_forall₂ pairs (fun a b a' b' ha hb first => ?_) ascending
  rw [Precedes, ← alike a b a' b' ha hb]
  exact first

/-! ## Sorting by texts -/

variable {text shown : α → String}

theorem pairwise_mergeSort_texts (things : List α) (text : α → String) :
    (things.mergeSort fun a b => !decide (text b < text a)).Pairwise
      fun a b => text a ≤ text b := by
  have le_iff {a b : α} : (!decide (text b < text a)) = true ↔ text a ≤ text b := by
    rw [Bool.not_eq_true', decide_eq_false_iff_not, String.not_lt]
  refine (List.pairwise_mergeSort (fun a b c first second => ?_) (fun a b => ?_) things).imp
    le_iff.1
  · rw [le_iff] at first second ⊢
    exact String.le_trans first second
  · rw [Bool.or_eq_true, le_iff, le_iff]
    exact String.le_total (text a) (text b)

/-- Whatever order the values have, the same things come out. -/
theorem sortedBy_perm (value : α → Value) (text : α → String) (things : List α) :
    (sortedBy value text things).Perm things := by
  rw [sortedBy]
  cases natural : naturallySorted? value things with
  | none => exact List.mergeSort_perm _ _
  | some sorted =>
      rw [naturallySorted?] at natural
      split at natural
      · cases natural
        exact List.mergeSort_perm _ _
      · exact insertionSort?_perm natural

/-- Two sorts by texts show the same if the things come with the same texts and those of one text
show the same. -/
theorem map_mergeSort_texts
    (same : (things.map fun a => (text a, shown a)).Perm (others.map fun a => (text a, shown a)))
    (ties : ∀ a ∈ things, ∀ b ∈ things, text a = text b → shown a = shown b) :
    (things.mergeSort fun a b => !decide (text b < text a)).map shown =
      (others.mergeSort fun a b => !decide (text b < text a)).map shown := by
  have pairs (l : List α) :
      (l.mergeSort fun a b => !decide (text b < text a)).map shown =
        ((l.map fun a => (text a, shown a)).mergeSort
          fun p q => !decide (q.1 < p.1)).map Prod.snd := by
    rw [← List.map_mergeSort (r := fun a b => !decide (text b < text a)) fun _ _ _ _ => rfl,
      List.map_map]
    rfl
  rw [pairs, pairs]
  congr 1
  refine List.Perm.eq_of_pairwise (fun p q hp hq first second => ?_)
    (pairwise_mergeSort_texts _ Prod.fst) (pairwise_mergeSort_texts _ Prod.fst)
    ((List.mergeSort_perm _ _).trans (same.trans (List.mergeSort_perm _ _).symm))
  rw [List.mem_mergeSort] at hp hq
  obtain ⟨a, ha, rfl⟩ := List.mem_map.1 hp
  obtain ⟨b, hb, rfl⟩ := List.mem_map.1 (same.mem_iff.2 hq)
  have tie : text a = text b := String.le_antisymm first second
  rw [tie, ties a ha b hb tie]

/-- **What is shown of sorted things does not depend on the order in which they came**, whether
they are sorted by their values or by their texts. -/
theorem map_sortedBy_perm (order : Comparable (beforeBy? value) things)
    (same : things.Perm others)
    (ties : ∀ a ∈ things, ∀ b ∈ things, text a = text b → shown a = shown b) :
    (sortedBy value text things).map shown = (sortedBy value text others).map shown := by
  rw [sortedBy, sortedBy, ← naturallySorted?_perm order same]
  cases naturallySorted? value things with
  | some sorted => rfl
  | none => exact map_mergeSort_texts (same.map _) ties

/-- Neither does it depend on the values beyond how they are compared. -/
theorem map_sortedBy_alike {R : α → α → Prop}
    (alike : ∀ a b a' b', R a a' → R b b' → beforeBy? value a b = beforeBy? value a' b')
    (texts : ∀ a a', R a a' → text a = text a' ∧ shown a = shown a')
    (order : Comparable (beforeBy? value) things) (order' : Comparable (beforeBy? value) others)
    (paired : List.Forall₂ R things others)
    (ties : ∀ a ∈ things, ∀ b ∈ things, text a = text b → shown a = shown b) :
    (sortedBy value text things).map shown = (sortedBy value text others).map shown := by
  rw [sortedBy, sortedBy]
  cases first : naturallySorted? value things with
  | some sorted =>
      obtain ⟨sorted', second, pairs⟩ := naturallySorted?_alike alike order order' paired first
      rw [second]
      exact map_eq_of_forall₂ (fun a a' kin => (texts a a' kin).2) pairs
  | none =>
      cases second : naturallySorted? value others with
      | some sorted' =>
          obtain ⟨sorted, some, -⟩ := naturallySorted?_alike
            (fun a b a' b' ha hb => (alike a' b' a b ha hb).symm) order' order paired.flip second
          rw [first] at some
          cases some
      | none =>
          refine map_mergeSort_texts (.of_eq ?_) ties
          refine map_eq_of_forall₂ (fun a a' kin => ?_) paired
          rw [(texts a a' kin).1, (texts a a' kin).2]

end Sorted

end Value

end IndexSnapshot
