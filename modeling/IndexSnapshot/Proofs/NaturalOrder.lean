/-
# IndexSnapshot.Proofs.NaturalOrder -- the natural order of members and keys

Members of sets and keys of maps are plain values, constants, and tuples of these.  On them the
natural order is one order with gaps: numbers of all kinds stand on one line, texts and byte strings
are among themselves, tuples go by their first difference, and nothing else is compared.  Equal
values are compared alike with everything else, so an order may pass through them.

* `IsKey`: what can be a member of a set or a key of a map.
* `Climbs`: one value is below another or equal to it.  `Climbs.trans` goes through equal values
  too, which is what tuples need.
* `same_comm` and `before?_swap`: equality and order from the other side.
* `DistinctKeys.comparable`: keys that are pairwise unequal are comparable, in the sense of a sort
  with gaps.
-/
import IndexSnapshot.Proofs.GappedSort

namespace IndexSnapshot

set_option autoImplicit false

/-! ## Places on the number line -/

namespace Double.Place

theorem not_before_self (p : Place) : p.before p = false := by
  cases p <;> simp [before]

theorem before_trans {p q r : Place} (first : p.before q = true) (second : q.before r = true) :
    p.before r = true := by
  cases p <;> cases q <;> cases r <;> simp_all [before]
  omega

theorem before_swap {p q : Place} (differ : p ≠ q) : q.before p = !p.before q := by
  cases p <;> cases q <;> simp_all [before]
  rw [Bool.eq_iff_iff]
  simp
  omega

theorem ofInt_inj {m n : Int} : ofInt m = ofInt n ↔ m = n := by
  have positive : 0 < unit := by
    rw [unit]
    generalize 1074 = places
    exact Int.natCast_pos.2 (Nat.pow_pos Nat.two_pos)
  rw [ofInt, ofInt, Place.at.injEq, Int.mul_eq_mul_right_iff (Int.ne_of_gt positive)]

end Double.Place

namespace Value

/-! ## Members and keys -/

/-- A value that can be a member of a set or a key of a map: one that never changes. -/
inductive IsKey : Value → Prop where
  | none : IsKey .none
  /-- A truth value, an integer, or a floating point number other than NaN. -/
  | number {v : Value} {place : Double.Place} (here : v.place? = some place) : IsKey v
  | text (s : String) : IsKey (.text s)
  | bytes (b : Bytes) : IsKey (.bytes b)
  | constant (value : Value) (name : Option String) : IsKey (.constant value name)
  | tuple {items : List Value} (keys : ∀ v ∈ items, IsKey v) : IsKey (.tuple items)

section Numbers

variable {v w : Value} {place : Double.Place}

theorem isNumber_of_place? (here : v.place? = some place) : v.isNumber = true := by
  cases v <;> first | rfl | simp [place?] at here

theorem same_of_isNumber (number : v.isNumber = true) :
    same v w = (w.isNumber && samePlace v w) := by
  cases v <;> simp [isNumber] at number <;> cases w <;> simp [same, isNumber]

theorem before?_of_isNumber (number : v.isNumber = true) :
    before? v w = if w.isNumber then some (placeBefore v w) else Option.none := by
  cases v <;> simp [isNumber] at number <;> cases w <;> simp [before?, isNumber]

theorem before?_number_right (number : w.isNumber = true) :
    before? v w = if v.isNumber then some (placeBefore v w) else Option.none := by
  cases w <;> simp [isNumber] at number <;> cases v <;> simp [before?, isNumber]

end Numbers

/-! ## Going up, or staying -/

/-- The second value equals the first, or is above it. -/
def Climbs (v w : Value) (rises : Bool) : Prop :=
  if rises then same v w = false ∧ before? v w = some true else same v w = true

/-- The same of lists, of which the first difference counts. -/
def ClimbsAll (xs ys : List Value) (rises : Bool) : Prop :=
  if rises then sameAll xs ys = false ∧ beforeAll? xs ys = some true else sameAll xs ys = true

section Heads

variable {w : Value} {rises : Bool}

theorem climbs_none_iff : Climbs .none w rises ↔ w = .none ∧ rises = false := by
  cases w <;> cases rises <;> simp [Climbs, same, before?, isNumber]

theorem climbs_number_iff {v : Value} {p : Double.Place} (here : v.place? = some p) :
    Climbs v w rises ↔
      ∃ q, w.place? = some q ∧ if rises then p.before q = true else p = q := by
  have number := isNumber_of_place? here
  rw [Climbs, same_of_isNumber number, before?_of_isNumber number, samePlace, placeBefore, here]
  cases there : w.place? with
  | none => cases rises <;> simp
  | some q =>
      rw [isNumber_of_place? there]
      cases rises with
      | false => simp
      | true =>
          simp only [Bool.true_and, if_true, beq_eq_false_iff_ne, Option.some.injEq,
            exists_eq_left']
          refine and_iff_right_of_imp fun first same => ?_
          rw [same, Double.Place.not_before_self] at first
          cases first

/-- Values that are compared by parts of one type. -/
theorem climbs_iff_of_compared {α : Type} [BEq α] [LawfulBEq α] [LT α] [DecidableLT α]
    [Std.Asymm (α := α) (· < ·)] {v : Value} {a b : α} (equal : same v w = (a == b))
    (compared : before? v w = some (decide (a < b))) :
    Climbs v w rises ↔ if rises then a < b else a = b := by
  rw [Climbs, equal, compared]
  cases rises with
  | false => simp
  | true =>
      simp only [if_true, beq_eq_false_iff_ne, Option.some.injEq, decide_eq_true_eq]
      refine and_iff_right_of_imp fun below same => ?_
      rw [same] at below
      exact Std.Asymm.asymm b b below below

theorem climbs_text_iff {s : String} :
    Climbs (.text s) w rises ↔ ∃ t, w = .text t ∧ if rises then s < t else s = t := by
  cases w with
  | text t =>
      rw [climbs_iff_of_compared (a := s) (b := t) (by rw [same]) (by rw [before?])]
      simp only [text.injEq, exists_eq_left']
  | _ => cases rises <;> simp [Climbs, same, before?, isNumber]

theorem climbs_bytes_iff {b : Bytes} :
    Climbs (.bytes b) w rises ↔ ∃ c, w = .bytes c ∧ if rises then b < c else b = c := by
  cases w with
  | bytes c =>
      rw [climbs_iff_of_compared (a := b) (b := c) (by rw [same]) (by rw [before?])]
      simp only [bytes.injEq, exists_eq_left']
  | _ => cases rises <;> simp [Climbs, same, before?, isNumber]

theorem climbs_constant_iff {value : Value} {name : Option String} :
    Climbs (.constant value name) w rises ↔
      rises = false ∧ ∃ n other, name = some n ∧ w = .constant other (some n) := by
  cases w with
  | constant other m =>
      cases name <;> cases m <;> cases rises <;> simp [Climbs, same, before?, isNumber]
      exact eq_comm
  | _ => cases rises <;> simp [Climbs, same, before?, isNumber]

theorem climbs_tuple_iff {xs : List Value} :
    Climbs (.tuple xs) w rises ↔ ∃ ys, w = .tuple ys ∧ ClimbsAll xs ys rises := by
  cases w <;> cases rises <;> simp [Climbs, ClimbsAll, same, before?, isNumber]

theorem climbsAll_nil_iff {ys : List Value} : ClimbsAll [] ys rises ↔ rises = !ys.isEmpty := by
  cases ys <;> cases rises <;> simp [ClimbsAll, sameAll, beforeAll?]

theorem not_climbsAll_nil {x : Value} {xs : List Value} : ¬ ClimbsAll (x :: xs) [] rises := by
  cases rises <;> simp [ClimbsAll, sameAll, beforeAll?]

theorem climbsAll_cons_iff {x y : Value} {xs ys : List Value} :
    ClimbsAll (x :: xs) (y :: ys) rises ↔
      (Climbs x y true ∧ rises = true) ∨ (Climbs x y false ∧ ClimbsAll xs ys rises) := by
  cases equal : same x y <;> cases rises <;>
    simp [ClimbsAll, Climbs, sameAll, beforeAll?, equal]

end Heads

/-! ## Going up twice -/

theorem ClimbsAll.trans {xs ys zs : List Value} {rises again : Bool}
    (step : ∀ x ∈ xs, ∀ y z rises again, Climbs x y rises → Climbs y z again →
      Climbs x z (rises || again))
    (first : ClimbsAll xs ys rises) (second : ClimbsAll ys zs again) :
    ClimbsAll xs zs (rises || again) := by
  induction xs generalizing ys zs with
  | nil =>
      rw [climbsAll_nil_iff] at first ⊢
      cases ys with
      | nil =>
          rw [climbsAll_nil_iff] at second
          rw [first, second]
          rfl
      | cons y ys =>
          cases zs with
          | nil => exact absurd second not_climbsAll_nil
          | cons z zs =>
              rw [first]
              rfl
  | cons x xs ih =>
      cases ys with
      | nil => exact absurd first not_climbsAll_nil
      | cons y ys =>
          cases zs with
          | nil => exact absurd second not_climbsAll_nil
          | cons z zs =>
              have head := step x List.mem_cons_self y z
              rw [climbsAll_cons_iff] at first second ⊢
              rcases first with ⟨xy, rfl⟩ | ⟨xy, rest⟩
              · rcases second with ⟨yz, -⟩ | ⟨yz, -⟩
                · exact Or.inl ⟨head _ _ xy yz, rfl⟩
                · exact Or.inl ⟨head _ _ xy yz, rfl⟩
              · rcases second with ⟨yz, rfl⟩ | ⟨yz, rest'⟩
                · exact Or.inl ⟨head _ _ xy yz, Bool.or_true _⟩
                · refine Or.inr ⟨head _ _ xy yz, ih (fun x member => ?_) rest rest'⟩
                  exact step x (List.mem_cons_of_mem _ member)

/-- Two steps of a transitive order, each of which may stay where it is. -/
theorem steps_trans {α : Type} (below : α → α → Prop)
    (trans : ∀ a b c, below a b → below b c → below a c) {a b c : α} {rises again : Bool}
    (first : if rises then below a b else a = b) (second : if again then below b c else b = c) :
    if rises || again then below a c else a = c := by
  cases rises with
  | false =>
      obtain rfl : a = b := first
      exact second
  | true =>
      cases again with
      | false =>
          obtain rfl : b = c := second
          exact first
      | true => exact trans a b c first second

/-- **A value above another, or equal to it, is above all that the other is above**, and equal to
all that the other equals. -/
theorem Climbs.trans {x y z : Value} {rises again : Bool} (key : IsKey x) (first : Climbs x y rises)
    (second : Climbs y z again) : Climbs x z (rises || again) := by
  induction key generalizing y z rises again with
  | none =>
      obtain ⟨rfl, rfl⟩ := climbs_none_iff.1 first
      exact second
  | number here =>
      obtain ⟨q, there, pq⟩ := (climbs_number_iff here).1 first
      obtain ⟨r, beyond, qr⟩ := (climbs_number_iff there).1 second
      refine (climbs_number_iff here).2 ⟨r, beyond, ?_⟩
      exact steps_trans (fun (p q : Double.Place) => p.before q = true)
        (fun _ _ _ => Double.Place.before_trans) pq qr
  | text s =>
      obtain ⟨t, rfl, st⟩ := climbs_text_iff.1 first
      obtain ⟨u, rfl, tu⟩ := climbs_text_iff.1 second
      exact climbs_text_iff.2 ⟨u, rfl, steps_trans (· < ·) (fun _ _ _ => String.lt_trans) st tu⟩
  | bytes b =>
      obtain ⟨c, rfl, bc⟩ := climbs_bytes_iff.1 first
      obtain ⟨d, rfl, cd⟩ := climbs_bytes_iff.1 second
      exact climbs_bytes_iff.2 ⟨d, rfl, steps_trans (· < ·) (fun _ _ _ => List.lt_trans) bc cd⟩
  | constant value name =>
      obtain ⟨rfl, n, other, rfl, rfl⟩ := climbs_constant_iff.1 first
      obtain ⟨rfl, m, another, same, rfl⟩ := climbs_constant_iff.1 second
      cases same
      exact climbs_constant_iff.2 ⟨rfl, n, another, rfl, rfl⟩
  | tuple keys step =>
      obtain ⟨ys, rfl, xy⟩ := climbs_tuple_iff.1 first
      obtain ⟨zs, rfl, yz⟩ := climbs_tuple_iff.1 second
      refine climbs_tuple_iff.2 ⟨zs, rfl, xy.trans (fun x member y z rises again => ?_) yz⟩
      exact step x member

/-! ## From the other side -/

theorem ClimbsAll.symm {xs ys : List Value}
    (step : ∀ x ∈ xs, ∀ y, Climbs x y false → Climbs y x false) (equal : ClimbsAll xs ys false) :
    ClimbsAll ys xs false := by
  induction xs generalizing ys with
  | nil =>
      rw [climbsAll_nil_iff] at equal
      cases ys with
      | nil => exact climbsAll_nil_iff.2 rfl
      | cons y ys => cases equal
  | cons x xs ih =>
      cases ys with
      | nil => exact absurd equal not_climbsAll_nil
      | cons y ys =>
          rw [climbsAll_cons_iff] at equal ⊢
          obtain ⟨head, rest⟩ := equal.resolve_left fun impossible => by cases impossible.2
          refine Or.inr ⟨step x List.mem_cons_self y head, ih (fun x member => ?_) rest⟩
          exact step x (List.mem_cons_of_mem _ member)

theorem Climbs.symm {x y : Value} (key : IsKey x) (equal : Climbs x y false) :
    Climbs y x false := by
  induction key generalizing y with
  | none =>
      obtain ⟨rfl, -⟩ := climbs_none_iff.1 equal
      exact equal
  | number here =>
      obtain ⟨q, there, same⟩ := (climbs_number_iff here).1 equal
      exact (climbs_number_iff there).2 ⟨_, here, same.symm⟩
  | text s =>
      obtain ⟨t, rfl, same⟩ := climbs_text_iff.1 equal
      exact climbs_text_iff.2 ⟨s, rfl, same.symm⟩
  | bytes b =>
      obtain ⟨c, rfl, same⟩ := climbs_bytes_iff.1 equal
      exact climbs_bytes_iff.2 ⟨b, rfl, same.symm⟩
  | constant value name =>
      obtain ⟨-, n, other, rfl, rfl⟩ := climbs_constant_iff.1 equal
      exact climbs_constant_iff.2 ⟨rfl, n, value, rfl, rfl⟩
  | tuple keys step =>
      obtain ⟨ys, rfl, same⟩ := climbs_tuple_iff.1 equal
      exact climbs_tuple_iff.2 ⟨_, rfl, same.symm fun x member y => step x member⟩

theorem same_comm {x y : Value} (keyx : IsKey x) (keyy : IsKey y) : same x y = same y x :=
  Bool.eq_iff_iff.2 ⟨Climbs.symm keyx, Climbs.symm keyy⟩

theorem IsKey.exists_place {x : Value} (key : IsKey x) (number : x.isNumber = true) :
    ∃ p, x.place? = some p := by
  cases key with
  | number here => exact ⟨_, here⟩
  | _ => simp [isNumber] at number

theorem beforeAll?_swap {xs ys : List Value} (keysx : ∀ x ∈ xs, IsKey x) (keysy : ∀ y ∈ ys, IsKey y)
    (step : ∀ x ∈ xs, ∀ y ∈ ys, same x y = false → before? y x = (before? x y).map not)
    (differ : sameAll xs ys = false) : beforeAll? ys xs = (beforeAll? xs ys).map not := by
  induction xs generalizing ys with
  | nil =>
      cases ys with
      | nil => simp [sameAll] at differ
      | cons y ys => rfl
  | cons x xs ih =>
      cases ys with
      | nil => rfl
      | cons y ys =>
          have comm := same_comm (keysx x List.mem_cons_self) (keysy y List.mem_cons_self)
          rw [beforeAll?, beforeAll?, ← comm]
          rw [sameAll, Bool.and_eq_false_iff] at differ
          cases equal : same x y with
          | true =>
              exact ih (fun x member => keysx x (List.mem_cons_of_mem _ member))
                (fun y member => keysy y (List.mem_cons_of_mem _ member))
                (fun x hx y hy => step x (List.mem_cons_of_mem _ hx) y (List.mem_cons_of_mem _ hy))
                (differ.resolve_left (by simp [equal]))
          | false => exact step x List.mem_cons_self y List.mem_cons_self equal

theorem decide_lt_swap {α : Type} [LT α] [DecidableLT α] [Std.Asymm (α := α) (· < ·)]
    [Std.Trichotomous (α := α) (· < ·)] {a b : α} (differ : a ≠ b) :
    decide (b < a) = !decide (a < b) := by
  rw [Bool.eq_iff_iff, Bool.not_eq_true', decide_eq_true_iff, decide_eq_false_iff_not]
  refine ⟨Std.Asymm.asymm b a, fun above => ?_⟩
  by_contra below
  exact differ (Std.Trichotomous.trichotomous a b above below)

theorem before?_swap_of_number {x y : Value} (keyx : IsKey x) (keyy : IsKey y)
    (number : x.isNumber = true ∨ y.isNumber = true) (differ : same x y = false) :
    before? y x = (before? x y).map not := by
  have sides : before? x y = (if x.isNumber && y.isNumber then some (placeBefore x y)
      else Option.none) ∧ before? y x = (if x.isNumber && y.isNumber then some (placeBefore y x)
      else Option.none) := by
    rcases number with left | right
    · rw [before?_of_isNumber left, before?_number_right left]
      simp [left]
    · rw [before?_of_isNumber right, before?_number_right right]
      simp [right]
  rw [sides.1, sides.2]
  cases both : x.isNumber && y.isNumber with
  | false => rfl
  | true =>
      rw [Bool.and_eq_true] at both
      obtain ⟨p, here⟩ := keyx.exists_place both.1
      obtain ⟨q, there⟩ := keyy.exists_place both.2
      have apart : p ≠ q := by
        intro same
        have equal : Climbs x y false := (climbs_number_iff here).2 ⟨q, there, same⟩
        rw [Climbs, differ] at equal
        cases equal
      simp [placeBefore, here, there, Double.Place.before_swap apart]

/-- **Of two different keys that are compared, one comes before the other.** -/
theorem before?_swap {x y : Value} (keyx : IsKey x) (keyy : IsKey y) (differ : same x y = false) :
    before? y x = (before? x y).map not := by
  by_cases number : x.isNumber = true ∨ y.isNumber = true
  · exact before?_swap_of_number keyx keyy number differ
  induction keyx generalizing y with
  | number here => exact absurd (Or.inl (isNumber_of_place? here)) number
  | tuple keys step =>
      cases keyy with
      | number there => exact absurd (Or.inr (isNumber_of_place? there)) number
      | tuple keys' =>
          rw [same] at differ
          rw [before?, before?]
          refine beforeAll?_swap keys keys' (fun x hx y hy apart => ?_) differ
          by_cases number : x.isNumber = true ∨ y.isNumber = true
          · exact before?_swap_of_number (keys x hx) (keys' y hy) number apart
          · exact step x hx (keys' y hy) apart number
      | _ => rfl
  | text s =>
      cases keyy with
      | number there => exact absurd (Or.inr (isNumber_of_place? there)) number
      | text t =>
          have apart : s ≠ t := by simpa [same] using differ
          rw [before?, before?, decide_lt_swap apart]
          rfl
      | _ => rfl
  | bytes b =>
      cases keyy with
      | number there => exact absurd (Or.inr (isNumber_of_place? there)) number
      | bytes c =>
          have apart : b ≠ c := by simpa [same] using differ
          rw [before?, before?, decide_lt_swap apart]
          rfl
      | _ => rfl
  | _ =>
      cases keyy with
      | number there => exact absurd (Or.inr (isNumber_of_place? there)) number
      | _ => rfl

/-! ## Comparable keys -/

theorem before?_swap_of_eq {x y : Value} {first : Bool} (keyx : IsKey x) (keyy : IsKey y)
    (differ : same x y = false) (compared : before? x y = some first) :
    before? y x = some !first := by
  rw [before?_swap keyx keyy differ, compared]
  rfl

theorem sameAll_eq_false_of_beforeAll? {xs ys : List Value}
    (step : ∀ x ∈ xs, ∀ y, before? x y = some true → same x y = false)
    (first : beforeAll? xs ys = some true) : sameAll xs ys = false := by
  induction xs generalizing ys with
  | nil =>
      cases ys with
      | nil => cases first
      | cons y ys => simp [sameAll]
  | cons x xs ih =>
      cases ys with
      | nil => simp [sameAll]
      | cons y ys =>
          rw [beforeAll?] at first
          rw [sameAll, Bool.and_eq_false_iff]
          split at first
          · exact Or.inr (ih (fun x member => step x (List.mem_cons_of_mem _ member)) first)
          · exact Or.inl (step x List.mem_cons_self y first)

/-- What comes before a value is different from it. -/
theorem same_eq_false_of_before? {x y : Value} (key : IsKey x) (first : before? x y = some true) :
    same x y = false := by
  induction key generalizing y with
  | none => cases y <;> simp [before?, isNumber] at first
  | @number _ p here =>
      have number := isNumber_of_place? here
      rw [before?_of_isNumber number, placeBefore, here] at first
      rw [same_of_isNumber number, samePlace, here]
      cases there : y.place? with
      | none => simp
      | some q =>
          have apart : p ≠ q := by
            rintro rfl
            simp [there, Double.Place.not_before_self] at first
          simp [apart]
  | text s =>
      cases y with
      | text t =>
          rw [before?] at first
          have below : s < t := of_decide_eq_true (Option.some.inj first)
          have climbs : Climbs (.text s) (.text t) true := climbs_text_iff.2 ⟨t, rfl, below⟩
          exact climbs.1
      | _ => simp [before?, isNumber] at first
  | bytes b =>
      cases y with
      | bytes c =>
          rw [before?] at first
          have below : b < c := of_decide_eq_true (Option.some.inj first)
          have climbs : Climbs (.bytes b) (.bytes c) true := climbs_bytes_iff.2 ⟨c, rfl, below⟩
          exact climbs.1
      | _ => simp [before?, isNumber] at first
  | constant value name => cases y <;> simp [before?, isNumber] at first
  | tuple keys step =>
      cases y <;> simp [before?, isNumber] at first
      rw [same]
      exact sameAll_eq_false_of_beforeAll? (fun x member y => step x member) first

/-- Keys that are pairwise unequal. -/
structure DistinctKeys (keys : List Value) : Prop where
  isKey : ∀ v ∈ keys, IsKey v
  distinct : keys.Pairwise fun v w => same v w = false

theorem DistinctKeys.perm {keys others : List Value} (given : DistinctKeys keys)
    (perm : keys.Perm others) : DistinctKeys others where
  isKey v member := given.isKey v (perm.mem_iff.2 member)
  distinct := by
    have both : keys.Pairwise fun v w => same v w = false ∧ same w v = false :=
      given.distinct.imp_of_mem fun hv hw differ =>
        ⟨differ, same_comm (given.isKey _ hv) (given.isKey _ hw) ▸ differ⟩
    exact ((perm.pairwise_iff And.symm).1 both).imp And.left

/-- **Keys that are pairwise unequal are comparable**: the sort by their natural order may fail,
but does not depend on which of them it compares. -/
theorem DistinctKeys.comparable {α : Type} {value : α → Value} {things : List α}
    (keys : DistinctKeys (things.map value)) : Comparable (beforeBy? value) things := by
  have isKey (a : α) (member : a ∈ things) : IsKey (value a) :=
    keys.isKey _ (List.mem_map_of_mem member)
  have differs {a b : α} (ha : a ∈ things) (first : Precedes (beforeBy? value) a b) :
      same (value a) (value b) = false :=
    same_eq_false_of_before? (isKey a ha) first
  refine ⟨fun a ha b hb c hc first second => ?trans, fun a ha b hb first => ?strict, ?apart⟩
  case trans =>
    have ab : Climbs (value a) (value b) true := ⟨differs ha first, first⟩
    have bc : Climbs (value b) (value c) true := ⟨differs hb second, second⟩
    exact (ab.trans (isKey a ha) bc).2
  case strict => exact before?_swap_of_eq (isKey a ha) (isKey b hb) (differs ha first) first
  case apart =>
    refine (List.pairwise_map.1 keys.distinct).imp_of_mem fun {a b} ha hb differ =>
      ⟨fun known => ?_, fun known => ?_⟩
    · exact before?_swap_of_eq (isKey a ha) (isKey b hb) differ known
    · rw [same_comm (isKey a ha) (isKey b hb)] at differ
      exact before?_swap_of_eq (isKey b hb) (isKey a ha) differ known

end Value

end IndexSnapshot
