import Mathlib.Data.List.FinRange
import Mathlib.Logic.Equiv.Fin.Rotate
import SitePreview.Proofs.FirstElement

namespace SitePreview

/-- Rules that can both be the one to be taken by its place. -/
inductive LocationRule.Rivals (r s : LocationRule) : Prop
  | exact (one : r.selector = .exact) (other : s.selector = .exact) (same : r.matcher = s.matcher)
  | prefixed {final final' : Bool} (one : r.selector = .prefixed final)
    (other : s.selector = .prefixed final') (same : r.matcher = s.matcher)
  | pattern {p q : Pattern} (one : r.selector = .pattern p) (other : s.selector = .pattern q)

/-- The place of the rule that a path gets. -/
def pickPlace (search : Pattern → Text → Bool) (rules : List LocationRule) (path : Text) :
    Option (Fin rules.length) :=
  pickWith rules.get search (List.finRange rules.length) path

namespace LocationRule

variable {search : Pattern → Text → Bool} {path : Text} {r s : LocationRule}

theorem rivals_of_isExactFor (hr : r.isExactFor path = true) (hs : s.isExactFor path = true) :
    r.Rivals s := by
  unfold isExactFor at hr hs
  split at hr
  next one =>
    split at hs
    next other => exact .exact one other ((beq_iff_eq.mp hr).trans (beq_iff_eq.mp hs).symm)
    next => cases hs
  next => cases hr

/-- Two beginnings of one path that are equally long are the same. -/
theorem rivals_of_isPrefixFor (hr : r.isPrefixFor path = true) (hs : s.isPrefixFor path = true)
    (hlength : r.matcher.length = s.matcher.length) : r.Rivals s := by
  unfold isPrefixFor at hr hs
  split at hr
  next one =>
    split at hs
    next other =>
      have hrp := List.isPrefixOf_iff_prefix.mp hr
      have hsp := List.isPrefixOf_iff_prefix.mp hs
      exact .prefixed one other
        ((List.prefix_of_prefix_length_le hrp hsp hlength.le).eq_of_length hlength)
    next => cases hs
  next => cases hr

theorem rivals_of_isFoundBy (hr : r.isFoundBy search path = true)
    (hs : s.isFoundBy search path = true) : r.Rivals s := by
  unfold isFoundBy at hr hs
  split at hr
  next one =>
    split at hs
    next other => exact .pattern one other
    next => cases hs
  next => cases hr

end LocationRule

section Places

variable {n m : Nat}

theorem isFirst_finRange_iff {p : Fin n → Prop} {i : Fin n} :
    IsFirst p (List.finRange n) i ↔ p i ∧ ∀ j < i, ¬p j := by
  have hsorted : (List.finRange n).Pairwise (· < ·) := List.pairwise_lt_finRange n
  constructor
  · rintro ⟨before, after, hrange, hi, hbefore⟩
    refine ⟨hi, fun j hj => ?_⟩
    rw [hrange] at hsorted
    have hafter := (List.pairwise_cons.mp (List.pairwise_append.mp hsorted).2.1).1
    have hmem : j ∈ before ++ i :: after := hrange ▸ List.mem_finRange j
    rcases List.mem_append.mp hmem with hmem | hmem
    · exact hbefore j hmem
    · rcases List.mem_cons.mp hmem with rfl | hmem
      · exact absurd hj (lt_irrefl j)
      · exact absurd (hafter j hmem) (lt_asymm hj)
  · rintro ⟨hi, hless⟩
    obtain ⟨before, after, hrange⟩ := List.append_of_mem (List.mem_finRange i)
    rw [hrange] at hsorted
    have hbefore := (List.pairwise_append.mp hsorted).2.2
    exact ⟨before, after, hrange, hi, fun j hj => hless j (hbefore j hj i (by simp))⟩

theorem IsFirst.moved {p : Fin n → Prop} {q : Fin m → Prop} (moved : Fin n ≃ Fin m)
    (same : ∀ i, q (moved i) ↔ p i) (ordered : ∀ i j, p i → p j → i < j → moved i < moved j)
    {i : Fin n} (h : IsFirst p (List.finRange n) i) : IsFirst q (List.finRange m) (moved i) := by
  obtain ⟨hi, hless⟩ := isFirst_finRange_iff.mp h
  refine isFirst_finRange_iff.mpr ⟨(same i).mpr hi, fun k hk hqk => ?_⟩
  obtain ⟨j, rfl⟩ := moved.surjective k
  have hj : p j := (same j).mp hqk
  rcases lt_trichotomy i j with hij | rfl | hji
  · exact lt_asymm hk (ordered i j hi hj hij)
  · exact lt_irrefl _ hk
  · exact hless j hji hj

theorem find?_moved {p : Fin n → Bool} {q : Fin m → Bool} (moved : Fin n ≃ Fin m)
    (same : ∀ i, q (moved i) = p i)
    (ordered : ∀ i j, p i = true → p j = true → i < j → moved i < moved j) :
    (List.finRange m).find? q = ((List.finRange n).find? p).map moved := by
  cases hfind : (List.finRange n).find? p with
  | some i =>
    have hfirst := (find?_eq_some_iff_isFirst fun _ => Iff.rfl).mp hfind
    exact (find?_eq_some_iff_isFirst fun _ => Iff.rfl).mpr
      (hfirst.moved moved (fun j => by rw [same]) ordered)
  | none =>
    refine List.find?_eq_none.mpr fun k _ => ?_
    obtain ⟨j, rfl⟩ := moved.surjective k
    rw [same]
    exact List.find?_eq_none.mp hfind j (List.mem_finRange j)

theorem firstLongest_moved {size : Fin n → Nat} {size' : Fin m → Nat} {p : Fin n → Bool}
    {q : Fin m → Bool} (moved : Fin n ≃ Fin m) (same : ∀ i, q (moved i) = p i)
    (sized : ∀ i, size' (moved i) = size i)
    (ordered : ∀ i j, p i = true → p j = true → size i = size j → i < j → moved i < moved j) :
    firstLongest size' ((List.finRange m).filter q) =
      (firstLongest size ((List.finRange n).filter p)).map moved := by
  cases hbest : firstLongest size ((List.finRange n).filter p) with
  | some i =>
    have hfirst := (firstLongest_filter_eq_some fun _ => Iff.rfl).mp hbest
    refine (firstLongest_filter_eq_some fun _ => Iff.rfl).mpr (hfirst.moved moved (fun j => ?_) ?_)
    · simp only [same, sized, List.mem_finRange, forall_const, moved.forall_congr_right.symm]
    · rintro j k ⟨hj, hjmost⟩ ⟨hk, hkmost⟩ hjk
      have hsize : size j = size k :=
        le_antisymm (hkmost j (List.mem_finRange j) hj) (hjmost k (List.mem_finRange k) hk)
      exact ordered j k hj hk hsize hjk
  | none =>
    refine (firstLongest_filter_eq_none fun _ => Iff.rfl).mpr fun k _ => ?_
    obtain ⟨j, rfl⟩ := moved.surjective k
    rw [same]
    exact (firstLongest_filter_eq_none fun _ => Iff.rfl).mp hbest j (List.mem_finRange j)

end Places

section Carried

variable {α β : Type} (f : β → α)

theorem firstLongest_map (size : α → Nat) (xs : List β) :
    firstLongest size (xs.map f) = (firstLongest (size ∘ f) xs).map f := by
  have hstep (best : Option β) :
      (xs.map f).foldl (longerOf size) (best.map f) =
        (xs.foldl (longerOf (size ∘ f)) best).map f := by
    induction xs generalizing best with
    | nil => rfl
    | cons x xs ih =>
      have hlonger : longerOf size (best.map f) (f x) = (longerOf (size ∘ f) best x).map f := by
        cases best with
        | none => rfl
        | some b => simp only [Option.map_some, longerOf, Function.comp_apply, apply_ite (Option.map f)]
      rw [List.map_cons, List.foldl_cons, List.foldl_cons, hlonger, ih]
  exact hstep none

theorem pickWith_eq_map {rule : α → LocationRule} {rule' : β → LocationRule} {xs : List α}
    {ys : List β} {search : Pattern → Text → Bool} {path : Text} (same : ∀ b, rule (f b) = rule' b)
    (exact : xs.find? (fun a => (rule a).isExactFor path) =
      (ys.find? fun b => (rule' b).isExactFor path).map f)
    (best : bestPrefixBy rule xs path = (bestPrefixBy rule' ys path).map f)
    (pattern : xs.find? (fun a => (rule a).isFoundBy search path) =
      (ys.find? fun b => (rule' b).isFoundBy search path).map f) :
    pickWith rule search xs path = (pickWith rule' search ys path).map f := by
  have hfinal : ((bestPrefixBy rule' ys path).map f).any (fun a => (rule a).isFinal) =
      (bestPrefixBy rule' ys path).any fun b => (rule' b).isFinal := by
    simp only [Option.any_map, same]
  simp only [pickWith, exact, best, hfinal, pattern]
  cases ys.find? fun b => (rule' b).isExactFor path with
  | some b => rfl
  | none =>
    dsimp only [Option.map_none]
    split
    · rfl
    · exact Option.map_or.symm

/-- What elements hold beside their rules does not count. -/
theorem pickWith_map (rule : α → LocationRule) (search : Pattern → Text → Bool) (xs : List β)
    (path : Text) :
    pickWith rule search (xs.map f) path = (pickWith (rule ∘ f) search xs path).map f := by
  refine pickWith_eq_map f (fun _ => rfl) List.find?_map ?_ List.find?_map
  rw [bestPrefixBy, List.filter_map, firstLongest_map]
  rfl

end Carried

theorem pickWith_eq_map_pickPlace (search : Pattern → Text → Bool) (rules : List LocationRule)
    (path : Text) :
    pickWith id search rules path = (pickPlace search rules path).map rules.get := by
  have hmapped := pickWith_map rules.get id search (List.finRange rules.length) path
  rwa [List.map_get_finRange] at hmapped

/-- Where the same rules stand in another order that keeps rivals in theirs, a path gets the same rule,
at the place that it was moved to. -/
theorem pickPlace_moved (search : Pattern → Text → Bool) {rules others : List LocationRule}
    (moved : Fin rules.length ≃ Fin others.length)
    (same : ∀ i, others.get (moved i) = rules.get i)
    (ordered : ∀ i j, (rules.get i).Rivals (rules.get j) → i < j → moved i < moved j)
    (path : Text) :
    pickPlace search others path = (pickPlace search rules path).map moved ∧
      pickWith id search others path = pickWith id search rules path ∧
      pickWith id search rules path = (pickPlace search rules path).map rules.get := by
  have hplace : pickPlace search others path = (pickPlace search rules path).map moved := by
    refine pickWith_eq_map moved same ?_ ?_ ?_
    · refine find?_moved moved (fun i => by rw [same]) fun i j hi hj => ?_
      exact ordered i j (LocationRule.rivals_of_isExactFor hi hj)
    · refine firstLongest_moved moved (fun i => by rw [same]) (fun i => by rw [same]) ?_
      intro i j hi hj hlength
      exact ordered i j (LocationRule.rivals_of_isPrefixFor hi hj hlength)
    · refine find?_moved moved (fun i => by rw [same]) fun i j hi hj => ?_
      exact ordered i j (LocationRule.rivals_of_isFoundBy hi hj)
  refine ⟨hplace, ?_, pickWith_eq_map_pickPlace search rules path⟩
  rw [pickWith_eq_map_pickPlace, pickWith_eq_map_pickPlace, hplace, Option.map_map]
  exact congrArg (fun f => (pickPlace search rules path).map f) (funext same)

/-- Two prefixes of one matcher, of which the second is final, and a pattern. -/
def tiedRules (p : Pattern) : List LocationRule :=
  [{ selector := .prefixed false, matcher := "/a".toList },
    { selector := .prefixed true, matcher := "/a".toList },
    { selector := .pattern p, matcher := [] }]

/-- The pattern comes first. -/
def turnedRules (p : Pattern) : List LocationRule :=
  [{ selector := .pattern p, matcher := [] },
    { selector := .prefixed false, matcher := "/a".toList },
    { selector := .prefixed true, matcher := "/a".toList }]

theorem pickPlace_moved_turned :
    let p : Pattern := ⟨[], false, { unicode := true }, [none], []⟩
    (∀ i, (turnedRules p).get (finRotate 3 i) = (tiedRules p).get i) ∧
      (∀ i j, ((tiedRules p).get i).Rivals ((tiedRules p).get j) → i < j →
        finRotate 3 i < finRotate 3 j) ∧
      pickPlace Pattern.search (turnedRules p) "/a/b".toList =
        (pickPlace Pattern.search (tiedRules p) "/a/b".toList).map (finRotate 3) := by
  intro p
  have same : ∀ i, (turnedRules p).get (finRotate 3 i) = (tiedRules p).get i := by
    refine Fin.forall_fin_succ.mpr ⟨rfl, Fin.forall_fin_two.mpr ⟨rfl, rfl⟩⟩
  have ordered : ∀ i j, ((tiedRules p).get i).Rivals ((tiedRules p).get j) → i < j →
      finRotate 3 i < finRotate 3 j := by
    -- Only the pattern changes its place among the others, and it is no rival of a prefix.
    have hturned : ∀ i j : Fin 3, i < j →
        finRotate 3 i < finRotate 3 j ∨ (i = 0 ∨ i = 1) ∧ j = 2 := by decide
    intro i j hrivals hij
    rcases hturned i j hij with hkept | ⟨rfl | rfl, rfl⟩
    · exact hkept
    · rcases hrivals with ⟨_, ⟨⟩⟩ | ⟨_, ⟨⟩⟩ | ⟨⟨⟩⟩
    · rcases hrivals with ⟨_, ⟨⟩⟩ | ⟨_, ⟨⟩⟩ | ⟨⟨⟩⟩
  exact ⟨same, ordered,
    (@pickPlace_moved Pattern.search (tiedRules p) (turnedRules p) (finRotate 3) same ordered _).1⟩

end SitePreview
