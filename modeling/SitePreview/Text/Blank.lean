import SitePreview.Text.Basic

namespace SitePreview

def isBlankCode (n : Nat) : Bool :=
  (9 ≤ n && n ≤ 13) || (28 ≤ n && n ≤ 32) || n == 0x85 || n == 0xa0 || n == 0x1680 ||
    (0x2000 ≤ n && n ≤ 0x200a) || n == 0x2028 || n == 0x2029 || n == 0x202f || n == 0x205f ||
    n == 0x3000

def isBlank (c : Char) : Bool := isBlankCode c.toNat

/-- Drops blanks at both ends. -/
def Text.trim (s : Text) : Text :=
  ((s.dropWhile isBlank).reverse.dropWhile isBlank).reverse

namespace Text

variable {before s after : Text}

theorem trim_append (hbefore : ∀ c ∈ before, isBlank c = true)
    (hafter : ∀ c ∈ after, isBlank c = true) (s : Text) : trim (before ++ s ++ after) = trim s := by
  have hend : ∀ c ∈ after.reverse, isBlank c = true := by simpa using hafter
  rw [trim, List.append_assoc, List.dropWhile_append_of_pos hbefore, List.dropWhile_append]
  split
  next hblank =>
    have hnone : after.dropWhile isBlank = [] := by
      rw [← List.append_nil after, List.dropWhile_append_of_pos hafter, List.dropWhile_nil]
    rw [hnone, trim, List.isEmpty_iff.mp hblank]
  next => rw [List.reverse_append, List.dropWhile_append_of_pos hend, trim]

theorem trim_of_filled (h : ∀ c ∈ s, isBlank c = false) : trim s = s := by
  have hkeep (t : Text) (ht : ∀ c ∈ t, isBlank c = false) : t.dropWhile isBlank = t := by
    cases t with
    | nil => rfl
    | cons c t => simp [ht c]
  rw [trim, hkeep s h, hkeep s.reverse (by simpa using h), List.reverse_reverse]

theorem trim_sublist (s : Text) : (trim s).Sublist s := by
  have hends := ((s.dropWhile isBlank).reverse.dropWhile_sublist isBlank).reverse
  rw [List.reverse_reverse] at hends
  exact hends.trans (s.dropWhile_sublist isBlank)

end Text

end SitePreview
