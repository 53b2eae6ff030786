import Mathlib
import SitePreview.Proofs.PathNames
import SitePreview.Text.Case

namespace SitePreview

theorem meetsCase_append_slash (xs ys : Text) : meetsCase (xs ++ '/' :: ys) = meetsCase xs := by
  induction xs with
  | nil =>
    have hskip : isCaseSkipped '/'.toNat = false := by decide +kernel
    have hcased : isCasedNeighbour '/'.toNat = false := by decide +kernel
    have front : ('/' :: ys).dropWhile (fun c => isCaseSkipped c.toNat) = '/' :: ys :=
      List.dropWhile_cons_of_neg (by rw [hskip]; decide)
    rw [List.nil_append, meetsCase, front]
    exact hcased
  | cons x xs ih =>
    by_cases hx : isCaseSkipped x.toNat = true
    · simpa [meetsCase, hx] using ih
    · simp [meetsCase, hx]

/-- What stands before a slash does not count for the form of what follows. -/
theorem Text.lowerAfter_slash (xs ys cs : Text) :
    lowerAfter (xs ++ '/' :: ys) cs = lowerAfter xs cs := by
  induction cs generalizing xs with
  | nil => rfl
  | cons c cs ih =>
    rw [lowerAfter, lowerAfter, meetsCase_append_slash, ← List.cons_append, ih]

theorem Text.lowerChar_slash : lowerChar '/' = ['/'] := by decide

theorem Text.lowerAfter_append_slash (before a b : Text) :
    lowerAfter before (a ++ '/' :: b) = lowerAfter before a ++ '/' :: lowerAfter [] b := by
  induction a generalizing before with
  | nil =>
    have rest : lowerAfter ('/' :: before) b = lowerAfter [] b := lowerAfter_slash [] before b
    simp [lowerAfter, lowerChar_slash, rest]
  | cons c a ih =>
    rw [List.cons_append, lowerAfter, lowerAfter, meetsCase_append_slash, ih, List.append_assoc]

theorem Text.lower_append_slash (a b : Text) : lower (a ++ '/' :: b) = lower a ++ '/' :: lower b :=
  lowerAfter_append_slash [] a b

theorem imageBy_ne_slash {n : Nat} (h : n ≠ 47) : imageBy lowerRows n ≠ 47 := by
  have images : ∀ r ∈ lowerRows, 47 < r.2.2.2 := by decide +kernel
  unfold imageBy
  split
  next first last step image hr =>
    have := images _ (List.mem_of_find?_eq_some hr)
    simp only at this
    omega
  next => exact h

theorem lowerCode_ne_slash {n : Nat} (h : n ≠ 47) : lowerCode n ≠ 47 := by
  unfold lowerCode
  split
  · split
    next hu =>
      simp only [isAsciiUpper, Bool.and_eq_true, decide_eq_true_eq] at hu
      omega
    next => exact h
  · exact imageBy_ne_slash h

theorem charOfNat_ne_slash {n : Nat} (h : n ≠ 47) : Char.ofNat n ≠ '/' := by
  intro hc
  by_cases hn : n.isValidChar
  · have hval : (Char.ofNat n).toNat = n := by
      rw [Char.ofNat, dif_pos hn]
      rfl
    exact h (hval.symm.trans (congrArg Char.toNat hc))
  · have hzero : Char.ofNat n = '\x00' := by
      rw [Char.ofNat, dif_neg hn]
      rfl
    exact absurd (hzero.symm.trans hc) (by decide)

theorem Text.slash_not_mem_lowerChar {c : Char} (h : c ≠ '/') : '/' ∉ lowerChar c := by
  unfold lowerChar
  split
  · decide
  · have hc : c.toNat ≠ 47 := fun hn => h (Char.toNat_inj.mp hn)
    simpa using (charOfNat_ne_slash (lowerCode_ne_slash hc)).symm

theorem Text.slash_not_mem_lowerAfter {before s : Text} (h : '/' ∉ s) :
    '/' ∉ lowerAfter before s := by
  induction s generalizing before with
  | nil => simp [lowerAfter]
  | cons c s ih =>
    obtain ⟨hc, hs⟩ := not_or.mp (mt List.mem_cons.mpr h)
    rw [lowerAfter, List.mem_append, not_or]
    refine ⟨?_, ih hs⟩
    split
    · split <;> decide
    · exact slash_not_mem_lowerChar (Ne.symm hc)

theorem Text.slash_not_mem_lower {s : Text} (h : '/' ∉ s) : '/' ∉ lower s :=
  slash_not_mem_lowerAfter h

theorem Text.lowerAfter_eq_nil {before s : Text} : lowerAfter before s = [] ↔ s = [] := by
  cases s with
  | nil => simp [lowerAfter]
  | cons c s =>
    have hform : lowerAfter before (c :: s) ≠ [] := by
      rw [lowerAfter, lowerChar]
      split <;> split <;> simp
    simp [hform]

theorem Text.lower_eq_nil {s : Text} : lower s = [] ↔ s = [] := lowerAfter_eq_nil

theorem partsAt_lower (s : Text) :
    partsAt '/' (Text.lower s) = (partsAt '/' s).map Text.lower := by
  by_cases h : '/' ∈ s
  · obtain ⟨a, b, rfl, ha⟩ := List.eq_append_cons_of_mem h
    rw [Text.lower_append_slash, partsAt_append_cons, partsAt_append_cons, List.map_append,
      partsAt_lower b, partsAt_of_not_mem ha, partsAt_of_not_mem (Text.slash_not_mem_lower ha)]
    rfl
  · rw [partsAt_of_not_mem h, partsAt_of_not_mem (Text.slash_not_mem_lower h)]
    rfl
termination_by s.length

theorem Path.names_lower (p : Text) : names (Text.lower p) = (names p).map Text.lower := by
  have same : (fun part : Text => decide (part ≠ [])) ∘ Text.lower =
      fun part => decide (part ≠ []) := by
    funext part
    simp [Text.lower_eq_nil]
  rw [names, parts, partsAt_lower, List.filter_map, same]
  rfl

theorem upperForms_of_lookup {n : Nat} {form : List Nat} (h : upperForms.lookup n = some form) :
    128 ≤ n ∧ (n < 256 → form = [83, 83]) := by
  have forms : ∀ row ∈ upperForms, 128 ≤ row.1 ∧ (row.1 < 256 → row.2 = [83, 83]) := by
    decide +kernel
  obtain ⟨front, back, hrows, -⟩ := List.lookup_eq_some_iff.mp h
  exact forms (n, form) (by simp [hrows])

theorem upperCode_of_ascii : ∀ n < 128, Char.ofNat (upperCode n) = (Char.ofNat n).toUpper := by
  decide +kernel

theorem lt_upperCode {n : Nat} (hlow : 128 ≤ n) (hhigh : n < 256) : 72 < upperCode n := by
  have images : ∀ row ∈ upperRows, row.2.1 < 128 ∨ 256 ≤ row.1 ∨ 72 < row.2.2.2 := by decide +kernel
  rw [upperCode, if_neg (Nat.not_lt.mpr hlow), imageBy]
  split
  next first last step image hfind =>
    have hrow := images _ (List.mem_of_find?_eq_some hfind)
    have hholds := List.find?_some hfind
    simp only [Bool.and_eq_true, decide_eq_true_eq] at hrow hholds
    omega
  next => omega

theorem Text.upperChar_of_ascii {c : Char} (h : c.toNat < 128) : upperChar c = [c.toUpper] := by
  have hsame := upperCode_of_ascii c.toNat h
  rw [Char.ofNat_toNat] at hsame
  unfold upperChar
  split
  next form hform =>
    have hlow := (upperForms_of_lookup hform).1
    omega
  next => rw [hsame]

theorem Text.exists_upperChar {c : Char} (hlow : 128 ≤ c.toNat) (hhigh : c.toNat < 256) :
    ∃ n more, upperChar c = Char.ofNat n :: more ∧ 72 < n := by
  unfold upperChar
  split
  next form hform =>
    have hsharp := (upperForms_of_lookup hform).2 hhigh
    exact ⟨83, ['S'], by rw [hsharp]; rfl, by decide⟩
  next => exact ⟨_, [], rfl, lt_upperCode hlow hhigh⟩

/-- A text of octets has a word of the letters up to H as its capital form just if its ASCII letters
alone give the word. -/
theorem Text.upper_eq_iff {s letters : Text} (hs : ∀ c ∈ s, c.toNat < 256)
    (hletters : ∀ d ∈ letters, 65 ≤ d.toNat ∧ d.toNat ≤ 72) :
    upper s = letters ↔ s.map Char.toUpper = letters := by
  induction s generalizing letters with
  | nil => simp [upper]
  | cons c s ih =>
    obtain ⟨hc, hs⟩ := List.forall_mem_cons.mp hs
    by_cases hascii : c.toNat < 128
    · cases letters with
      | nil => simp [upper, upperChar_of_ascii hascii]
      | cons d letters =>
        have hrest := ih hs (List.forall_mem_cons.mp hletters).2
        rw [upper] at hrest
        simp [upper, upperChar_of_ascii hascii, hrest]
    · -- Neither form begins with a letter of the word.
      obtain ⟨n, more, hform, hn⟩ := exists_upperChar (Nat.le_of_not_lt hascii) hc
      have hsame : c.toUpper = c := by
        refine Char.toUpper_eq_of_not_isLower fun hlower => ?_
        simp only [Char.isLower, Bool.and_eq_true, decide_eq_true_eq, UInt32.le_iff_toNat_le] at hlower
        exact hascii (Nat.lt_of_le_of_lt hlower.2 (by decide))
      constructor
      · intro hupper
        have hd := hletters (Char.ofNat n) (by rw [← hupper]; simp [upper, hform])
        rw [Char.toNat_ofNat] at hd
        split at hd <;> omega
      · intro hmap
        have hd := hletters c (by rw [← hmap]; simp [hsame])
        omega

end SitePreview
