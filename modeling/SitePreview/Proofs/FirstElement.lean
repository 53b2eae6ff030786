import Mathlib.Data.List.Induction
import SitePreview.Routing.LocationRule

namespace SitePreview

/-- An element has a property that none before it has. -/
def IsFirst {α : Type} (p : α → Prop) (xs : List α) (a : α) : Prop :=
  ∃ before after, xs = before ++ a :: after ∧ p a ∧ ∀ x ∈ before, ¬p x

section First

variable {α : Type} {p : α → Prop} {xs : List α} {a b : α}

theorem IsFirst.mem (h : IsFirst p xs a) : a ∈ xs := by
  obtain ⟨before, after, rfl, _, _⟩ := h
  simp

theorem IsFirst.holds (h : IsFirst p xs a) : p a := by
  obtain ⟨_, _, _, ha, _⟩ := h
  exact ha

theorem IsFirst.unique (ha : IsFirst p xs a) (hb : IsFirst p xs b) : a = b := by
  obtain ⟨before, after, rfl, hpa, hbefore⟩ := ha
  obtain ⟨front, back, heq, hpb, hfront⟩ := hb
  rcases List.append_eq_append_iff.mp heq with ⟨rest, hrest, hsame⟩ | ⟨rest, hrest, hsame⟩
  · cases rest with
    | nil => exact (List.cons.inj hsame).1
    | cons c rest =>
      obtain ⟨rfl, _⟩ := List.cons.inj hsame
      exact absurd hpa (hfront a (by simp [hrest]))
  · cases rest with
    | nil => exact (List.cons.inj hsame).1.symm
    | cons c rest =>
      obtain ⟨rfl, _⟩ := List.cons.inj hsame
      exact absurd hpb (hbefore b (by simp [hrest]))

theorem find?_eq_some_iff_isFirst {q : α → Bool} (hq : ∀ x, q x = true ↔ p x) :
    xs.find? q = some a ↔ IsFirst p xs a := by
  rw [List.find?_eq_some_iff_append]
  constructor
  · rintro ⟨ha, before, after, hxs, hbefore⟩
    exact ⟨before, after, hxs, (hq a).mp ha, fun x hx => by simpa [← hq x] using hbefore x hx⟩
  · rintro ⟨before, after, hxs, ha, hbefore⟩
    exact ⟨(hq a).mpr ha, before, after, hxs, fun x hx => by simpa [← hq x] using hbefore x hx⟩

theorem IsFirst.append_right {before : List α} (hbefore : ∀ x ∈ before, ¬p x)
    (h : IsFirst p xs a) : IsFirst p (before ++ xs) a := by
  obtain ⟨front, after, rfl, ha, hfront⟩ := h
  exact ⟨before ++ front, after, by simp, ha, List.forall_mem_append.mpr ⟨hbefore, hfront⟩⟩

theorem IsFirst.append_left (h : IsFirst p xs a) (after : List α) : IsFirst p (xs ++ after) a := by
  obtain ⟨front, rest, rfl, ha, hfront⟩ := h
  exact ⟨front, rest ++ after, by simp, ha, hfront⟩

end First

section Longest

variable {α : Type} (size : α → Nat)

/-- Where the longest so far stands: nothing before it is as long and nothing after it is longer. -/
def LongestSoFar (xs : List α) : Option α → Prop
  | none => xs = []
  | some b => ∃ before after, xs = before ++ b :: after ∧
      (∀ a ∈ before, size a < size b) ∧ ∀ a ∈ after, size a ≤ size b

variable {size}

theorem LongestSoFar.concat {xs : List α} {best : Option α} (h : LongestSoFar size xs best) (a : α) :
    LongestSoFar size (xs ++ [a]) (longerOf size best a) := by
  cases best with
  | none =>
    cases h
    exact ⟨[], [], rfl, by simp, by simp⟩
  | some b =>
    obtain ⟨before, after, rfl, hbefore, hafter⟩ := h
    by_cases hlonger : size b < size a
    · simp only [longerOf, if_pos hlonger]
      refine ⟨before ++ b :: after, [], rfl, fun x hx => ?_, by simp⟩
      rcases List.mem_append.mp hx with hx | hx
      · exact Nat.lt_trans (hbefore x hx) hlonger
      · rcases List.mem_cons.mp hx with rfl | hx
        · exact hlonger
        · exact Nat.lt_of_le_of_lt (hafter x hx) hlonger
    · simp only [longerOf, if_neg hlonger]
      refine ⟨before, after ++ [a], by simp, hbefore, fun x hx => ?_⟩
      rcases List.mem_append.mp hx with hx | hx
      · exact hafter x hx
      · rw [List.mem_singleton.mp hx]
        exact Nat.le_of_not_lt hlonger

theorem longestSoFar_firstLongest (size : α → Nat) (xs : List α) :
    LongestSoFar size xs (firstLongest size xs) := by
  induction xs using List.reverseRecOn with
  | nil => rfl
  | append_singleton xs a ih =>
    rw [firstLongest, List.foldl_append]
    exact ih.concat a

/-- Of the elements with a property, the first of the longest. -/
def IsFirstLongest (size : α → Nat) (p : α → Prop) (xs : List α) (b : α) : Prop :=
  IsFirst (fun a => p a ∧ ∀ c ∈ xs, p c → size c ≤ size a) xs b

theorem firstLongest_filter_eq_some {p : α → Prop} {q : α → Bool} (hq : ∀ x, q x = true ↔ p x)
    {xs : List α} {b : α} :
    firstLongest size (xs.filter q) = some b ↔ IsFirstLongest size p xs b := by
  have found : ∀ b, firstLongest size (xs.filter q) = some b → IsFirstLongest size p xs b := by
    intro b hb
    have hlead := longestSoFar_firstLongest size (xs.filter q)
    rw [hb] at hlead
    obtain ⟨before, after, hxs, hbefore, hafter⟩ := hlead
    obtain ⟨front, rest, rfl, rfl, hrest⟩ := List.filter_eq_append_iff.mp hxs
    obtain ⟨gap, back, rfl, hgap, hb, rfl⟩ := List.filter_eq_cons_iff.mp hrest
    refine ⟨front ++ gap, back, by simp, ⟨(hq b).mp hb, fun c hc hpc => ?_⟩, fun x hx hpx => ?_⟩
    · have hqc : q c = true := (hq c).mpr hpc
      rcases List.mem_append.mp hc with hc | hc
      · exact Nat.le_of_lt (hbefore c (List.mem_filter.mpr ⟨hc, hqc⟩))
      · rcases List.mem_append.mp hc with hc | hc
        · exact absurd hqc (hgap c hc)
        · rcases List.mem_cons.mp hc with rfl | hc
          · exact Nat.le_refl _
          · exact hafter c (List.mem_filter.mpr ⟨hc, hqc⟩)
    · have hqx : q x = true := (hq x).mpr hpx.1
      have hle := hpx.2 b (by simp) ((hq b).mp hb)
      rcases List.mem_append.mp hx with hx | hx
      · exact absurd (hbefore x (List.mem_filter.mpr ⟨hx, hqx⟩)) (Nat.not_lt.mpr hle)
      · exact hgap x hx hqx
  refine ⟨found b, fun hfirst => ?_⟩
  cases hbest : firstLongest size (xs.filter q) with
  | some c => rw [(found c hbest).unique hfirst]
  | none =>
    have hlead := longestSoFar_firstLongest size (xs.filter q)
    rw [hbest] at hlead
    exact absurd ((hq b).mpr hfirst.holds.1) (List.filter_eq_nil_iff.mp hlead b hfirst.mem)

theorem firstLongest_filter_eq_none {p : α → Prop} {q : α → Bool} (hq : ∀ x, q x = true ↔ p x)
    {xs : List α} : firstLongest size (xs.filter q) = none ↔ ∀ x ∈ xs, ¬p x := by
  have hlead := longestSoFar_firstLongest size (xs.filter q)
  constructor
  · intro hnone x hx hpx
    rw [hnone] at hlead
    exact List.filter_eq_nil_iff.mp hlead x hx ((hq x).mpr hpx)
  · intro h
    have hnil : xs.filter q = [] :=
      List.filter_eq_nil_iff.mpr fun x hx hqx => h x hx ((hq x).mp hqx)
    rw [hnil]
    rfl

end Longest

end SitePreview
