namespace SitePreview

abbrev Text := List Char

abbrev Bytes := List UInt8

/-- The parts between the separators, one more than there are separators. -/
def partsAt {α : Type} [DecidableEq α] (sep : α) : List α → List (List α)
  | [] => [[]]
  | x :: xs =>
    if x = sep then [] :: partsAt sep xs
    else match partsAt sep xs with
      | [] => [[x]]
      | part :: parts => (x :: part) :: parts

theorem partsAt_ne_nil {α : Type} [DecidableEq α] (sep : α) (xs : List α) :
    partsAt sep xs ≠ [] := by
  cases xs with
  | nil => simp [partsAt]
  | cons x xs =>
    unfold partsAt
    split
    · simp
    · split <;> simp

theorem partsAt_eq_splitOn {α : Type} [DecidableEq α] (sep : α) (xs : List α) :
    partsAt sep xs = xs.splitOn sep := by
  induction xs with
  | nil => rfl
  | cons x xs ih =>
    rw [List.splitOn_cons_eq_if_modifyHead, partsAt, ih]
    by_cases hx : x = sep
    · simp [hx]
    · obtain ⟨part, parts, hp⟩ := List.exists_cons_of_ne_nil (List.splitOn_ne_nil sep xs)
      simp [hx, hp]

theorem partsAt_of_not_mem {α : Type} [DecidableEq α] {sep : α} {xs : List α} (h : sep ∉ xs) :
    partsAt sep xs = [xs] := by
  rw [partsAt_eq_splitOn, List.splitOn_eq_singleton h]

theorem partsAt_append_cons {α : Type} [DecidableEq α] (sep : α) (xs ys : List α) :
    partsAt sep (xs ++ sep :: ys) = partsAt sep xs ++ partsAt sep ys := by
  simp only [partsAt_eq_splitOn, List.splitOn_append_cons_self]

theorem partsAt_intercalate {α : Type} [DecidableEq α] {sep : α} {parts : List (List α)}
    (h : ∀ part ∈ parts, sep ∉ part) (hne : parts ≠ []) :
    partsAt sep ([sep].intercalate parts) = parts := by
  rw [partsAt_eq_splitOn, List.splitOn_intercalate sep h hne]

theorem not_mem_of_mem_partsAt {α : Type} [DecidableEq α] {sep : α} {xs part : List α}
    (h : part ∈ partsAt sep xs) : sep ∉ part := by
  induction xs generalizing part with
  | nil => simp_all [partsAt]
  | cons x xs ih =>
    rw [partsAt] at h
    by_cases hx : x = sep
    · rcases List.mem_cons.mp (by simpa [hx] using h) with rfl | h
      · simp
      · exact ih h
    · obtain ⟨first, rest, hp⟩ := List.exists_cons_of_ne_nil (partsAt_ne_nil sep xs)
      rw [hp] at h ih
      rcases List.mem_cons.mp (by simpa [hx] using h) with rfl | h
      · have hfirst : sep ∉ first := ih (by simp)
        simpa [Ne.symm hx] using hfirst
      · exact ih (by simp [h])

/-- Cuts at the first separator, which is dropped; without one all of it comes first. -/
def cutAt {α : Type} [DecidableEq α] (sep : α) (xs : List α) : List α × List α :=
  (xs.takeWhile (· ≠ sep), (xs.dropWhile (· ≠ sep)).tail)

section Cut

variable {α : Type} [DecidableEq α] {sep : α} {xs : List α}

theorem takeWhile_ne_of_not_mem (h : sep ∉ xs) : xs.takeWhile (· ≠ sep) = xs := by
  induction xs with
  | nil => rfl
  | cons x xs ih =>
    obtain ⟨hx, hxs⟩ := List.ne_and_not_mem_of_not_mem_cons h
    rw [List.takeWhile_cons_of_pos (by simpa using Ne.symm hx), ih hxs]

theorem dropWhile_ne_of_not_mem (h : sep ∉ xs) : xs.dropWhile (· ≠ sep) = [] := by
  induction xs with
  | nil => rfl
  | cons x xs ih =>
    obtain ⟨hx, hxs⟩ := List.ne_and_not_mem_of_not_mem_cons h
    rw [List.dropWhile_cons_of_pos (by simpa using Ne.symm hx), ih hxs]

theorem takeWhile_ne_append_cons (h : sep ∉ xs) (ys : List α) :
    (xs ++ sep :: ys).takeWhile (· ≠ sep) = xs := by
  induction xs with
  | nil => simp
  | cons x xs ih =>
    obtain ⟨hx, hxs⟩ := List.ne_and_not_mem_of_not_mem_cons h
    rw [List.cons_append, List.takeWhile_cons_of_pos (by simpa using Ne.symm hx), ih hxs]

theorem dropWhile_ne_append_cons (h : sep ∉ xs) (ys : List α) :
    (xs ++ sep :: ys).dropWhile (· ≠ sep) = sep :: ys := by
  induction xs with
  | nil => simp
  | cons x xs ih =>
    obtain ⟨hx, hxs⟩ := List.ne_and_not_mem_of_not_mem_cons h
    rw [List.cons_append, List.dropWhile_cons_of_pos (by simpa using Ne.symm hx), ih hxs]

theorem cutAt_append_cons (h : sep ∉ xs) (ys : List α) : cutAt sep (xs ++ sep :: ys) = (xs, ys) := by
  rw [cutAt, takeWhile_ne_append_cons h, dropWhile_ne_append_cons h, List.tail_cons]

theorem cutAt_of_not_mem (h : sep ∉ xs) : cutAt sep xs = (xs, []) := by
  rw [cutAt, takeWhile_ne_of_not_mem h, dropWhile_ne_of_not_mem h, List.tail_nil]

end Cut

namespace Text

def ofNat (n : Nat) : Text := Nat.toDigits 10 n

def ofInt : Int → Text
  | .ofNat n => ofNat n
  | .negSucc n => '-' :: ofNat (n + 1)

/-- The lower-case hexadecimal digits of a number, with leading zeros up to a width. -/
def hex (width n : Nat) : Text :=
  let digits := Nat.toDigits 16 n
  List.replicate (width - digits.length) '0' ++ digits

def isDigit (c : Char) : Bool := '0' ≤ c && c ≤ '9'

def hexValue? (c : Char) : Option Nat :=
  if '0' ≤ c ∧ c ≤ '9' then some (c.toNat - 48)
  else if 'a' ≤ c ∧ c ≤ 'f' then some (c.toNat - 87)
  else if 'A' ≤ c ∧ c ≤ 'F' then some (c.toNat - 55)
  else none

/-- The value of a run of ASCII digits, most significant first. -/
def digitsValue (digits : Text) : Nat :=
  digits.foldl (fun n c => 10 * n + (c.toNat - 48)) 0

def hexDigitsValue (digits : Text) : Nat :=
  digits.foldl (fun n c => 16 * n + (hexValue? c).getD 0) 0

def replace (old new : Char) (s : Text) : Text := s.map fun c => if c = old then new else c

end Text

end SitePreview
