import Mathlib.Logic.Function.Iterate
import SitePreview.Files.Canonical
import SitePreview.Serving.SafeJoin

namespace SitePreview

def isSeparator (c : Char) : Bool := c = '/' || c = '\\'

def segmentsOf (path : Text) : List Text := path.splitOnP isSeparator

/-- A segment of a stack held newest first: empty and single-dot segments do not count, a double dot
takes the newest back. -/
def scanSegment (stack : List Text) (segment : Text) : List Text :=
  if segment = [] ∨ segment = ['.'] then stack
  else if segment = Path.oneUp then stack.tail
  else segment :: stack

/-- The segments of a path that are not taken back. -/
def finalStack (path : Text) : List Text := ((segmentsOf path).foldl scanSegment []).reverse

def IsPushed (segment : Text) : Prop :=
  segment ≠ [] ∧ segment ≠ ['.'] ∧ segment ≠ Path.oneUp

/-- Percent escapes, decoded until nothing changes but at most so many times, hide a NUL or a dot
segment. -/
def HidesTraversal (segment : Text) : Prop :=
  let decoded := Percent.decode^[decodingRounds] segment
  '\x00' ∈ decoded ∨
    decoded ≠ segment ∧ ∃ part ∈ segmentsOf decoded, part = ['.'] ∨ part = Path.oneUp

/-- A segment is refused where a stack stands: there is nothing to take back, or it hides something. -/
def RefusedAt (stack : List Text) (segment : Text) : Prop :=
  (segment = Path.oneUp ∧ stack = []) ∨ (IsPushed segment ∧ HidesTraversal segment)

/-- Why a request path is refused. -/
inductive RefusedPath (path : Text) : Prop
  | nul (held : '\x00' ∈ path)
  | climbs (before after) (parted : segmentsOf path = before ++ Path.oneUp :: after)
      (empty : before.foldl scanSegment [] = [])
  | hidden (segment) (held : segment ∈ segmentsOf path) (pushed : IsPushed segment)
      (hides : HidesTraversal segment)

theorem partsAt_replace (path : Text) : partsAt '/' (path.replace '\\' '/') = segmentsOf path := by
  induction path with
  | nil => rfl
  | cons c path ih =>
    have hcons : Text.replace '\\' '/' (c :: path) =
        (if c = '\\' then '/' else c) :: Text.replace '\\' '/' path := rfl
    rw [segmentsOf, List.splitOnP_cons_eq_if_modifyHead, ← segmentsOf, ← ih, hcons, partsAt]
    by_cases hsep : isSeparator c = true
    · have hslash : (if c = '\\' then '/' else c) = '/' := by
        simp only [isSeparator, Bool.or_eq_true, decide_eq_true_eq] at hsep
        rcases hsep with rfl | rfl <;> rfl
      rw [if_pos hslash, if_pos hsep]
    · obtain ⟨hslash, hback⟩ : c ≠ '/' ∧ c ≠ '\\' := by simpa [isSeparator] using hsep
      obtain ⟨first, rest, hparts⟩ :=
        List.exists_cons_of_ne_nil (partsAt_ne_nil '/' (Text.replace '\\' '/' path))
      rw [if_neg hback, if_neg hslash, if_neg hsep, hparts]
      rfl

theorem nul_mem_replace {path : Text} :
    '\x00' ∈ Text.replace '\\' '/' path ↔ '\x00' ∈ path := by
  simp only [Text.replace, List.mem_map]
  constructor
  · rintro ⟨c, hc, heq⟩
    split at heq
    · cases heq
    · exact heq ▸ hc
  · intro h
    exact ⟨_, h, by decide⟩

theorem decodeRounds_eq_iterate (rounds : Nat) (s : Text) :
    Percent.decodeRounds rounds s = Percent.decode^[rounds] s := by
  induction rounds generalizing s with
  | zero => rfl
  | succ rounds ih =>
    rw [Percent.decodeRounds, Function.iterate_succ_apply]
    split
    next hstable => rw [hstable, Function.iterate_fixed hstable]
    next => exact ih _

theorem hides_iff {segment : Text} :
    (hidesNul segment || hidesDots segment) = true ↔ HidesTraversal segment := by
  have hdots : ∀ part, isDots part = true ↔ part = ['.'] ∨ part = Path.oneUp := by
    simp [isDots]
  simp [hidesNul, hidesDots, revealed, decodeRounds_eq_iterate, partsAt_replace, HidesTraversal,
    hdots]

theorem segmentStep_cases (stack : List Text) (segment : Text) :
    (segmentStep stack segment = none ∧ RefusedAt stack segment) ∨
      (segmentStep stack segment = some (scanSegment stack segment) ∧ ¬RefusedAt stack segment) := by
  unfold segmentStep scanSegment RefusedAt
  by_cases hdot : segment = [] ∨ segment = ['.']
  · rw [if_pos hdot, if_pos hdot]
    refine Or.inr ⟨rfl, ?_⟩
    rintro (⟨rfl, _⟩ | ⟨⟨hne, hhere, _⟩, _⟩)
    · exact absurd hdot (by decide)
    · exact (not_or.mpr ⟨hne, hhere⟩) hdot
  · rw [if_neg hdot, if_neg hdot]
    by_cases hup : segment = Path.oneUp
    · rw [if_pos hup, if_pos hup]
      have hnot : ¬(IsPushed segment ∧ HidesTraversal segment) := fun h => h.1.2.2 hup
      cases stack with
      | nil => exact Or.inl ⟨rfl, Or.inl ⟨hup, rfl⟩⟩
      | cons top rest => exact Or.inr ⟨rfl, by simpa using hnot⟩
    · rw [if_neg hup, if_neg hup]
      have hpushed : IsPushed segment :=
        ⟨fun h => hdot (Or.inl h), fun h => hdot (Or.inr h), hup⟩
      by_cases hides : (hidesNul segment || hidesDots segment) = true
      · rw [if_pos hides]
        exact Or.inl ⟨rfl, Or.inr ⟨hpushed, hides_iff.mp hides⟩⟩
      · rw [if_neg hides]
        exact Or.inr ⟨rfl, by simp [hup, ← hides_iff, hides]⟩

theorem foldlM_segmentStep_cases (segments stack : List Text) :
    (segments.foldlM segmentStep stack = none ∧ ∃ before segment after,
        segments = before ++ segment :: after ∧ RefusedAt (before.foldl scanSegment stack) segment) ∨
      (segments.foldlM segmentStep stack = some (segments.foldl scanSegment stack) ∧
        ∀ before segment after, segments = before ++ segment :: after →
          ¬RefusedAt (before.foldl scanSegment stack) segment) := by
  induction segments generalizing stack with
  | nil => exact Or.inr ⟨rfl, by simp⟩
  | cons first rest ih =>
    rw [List.foldlM_cons]
    rcases segmentStep_cases stack first with ⟨hstep, hrefused⟩ | ⟨hstep, hpassed⟩
    · rw [hstep]
      exact Or.inl ⟨rfl, [], first, rest, rfl, hrefused⟩
    · rw [hstep]
      rcases ih (scanSegment stack first) with ⟨hrun, before, segment, after, rfl, h⟩ | ⟨hrun, h⟩
      · exact Or.inl ⟨hrun, first :: before, segment, after, rfl, h⟩
      · refine Or.inr ⟨hrun, fun before segment after hsplit => ?_⟩
        cases before with
        | nil =>
          obtain ⟨rfl, _⟩ := List.cons.inj hsplit
          exact hpassed
        | cons other before =>
          obtain ⟨rfl, hrest⟩ := List.cons.inj hsplit
          exact h before segment after hrest

theorem refusedPath_iff {path : Text} : RefusedPath path ↔ '\x00' ∈ path ∨
    ∃ before segment after, segmentsOf path = before ++ segment :: after ∧
      RefusedAt (before.foldl scanSegment []) segment := by
  constructor
  · rintro (held | ⟨before, after, parted, empty⟩ | ⟨segment, held, pushed, hides⟩)
    · exact Or.inl held
    · exact Or.inr ⟨before, _, after, parted, Or.inl ⟨rfl, empty⟩⟩
    · obtain ⟨before, after, parted⟩ := List.append_of_mem held
      exact Or.inr ⟨before, segment, after, parted, Or.inr ⟨pushed, hides⟩⟩
  · rintro (held | ⟨before, segment, after, parted, ⟨rfl, empty⟩ | ⟨pushed, hides⟩⟩)
    · exact .nul held
    · exact .climbs before after parted empty
    · exact .hidden segment (by simp [parted]) pushed hides

theorem requestSegments_cases (path : Text) :
    (requestSegments path = none ∧ RefusedPath path) ∨
      (requestSegments path = some (finalStack path) ∧ ¬RefusedPath path) := by
  have hnul : (Text.replace '\\' '/' path).contains '\x00' = true ↔ '\x00' ∈ path :=
    List.contains_iff_mem.trans nul_mem_replace
  unfold requestSegments
  simp only [partsAt_replace, refusedPath_iff]
  by_cases held : '\x00' ∈ path
  · rw [if_pos (hnul.mpr held)]
    exact Or.inl ⟨rfl, Or.inl held⟩
  · rw [if_neg (mt hnul.mp held)]
    rcases foldlM_segmentStep_cases (segmentsOf path) [] with ⟨hrun, hrefused⟩ | ⟨hrun, hpassed⟩
    · rw [hrun]
      exact Or.inl ⟨rfl, Or.inr hrefused⟩
    · rw [hrun]
      refine Or.inr ⟨rfl, not_or.mpr ⟨held, ?_⟩⟩
      rintro ⟨before, segment, after, parted, hrefused⟩
      exact hpassed before segment after parted hrefused

theorem requestSegments_eq_none {path : Text} : requestSegments path = none ↔ RefusedPath path := by
  rcases requestSegments_cases path with ⟨hnone, hrefused⟩ | ⟨hsome, hpassed⟩
  · simp [hnone, hrefused]
  · simp [hsome, hpassed]

theorem requestSegments_eq_some {path : Text} {segments : List Text} :
    requestSegments path = some segments ↔ ¬RefusedPath path ∧ finalStack path = segments := by
  rcases requestSegments_cases path with ⟨hnone, hrefused⟩ | ⟨hsome, hpassed⟩
  · simp [hnone, hrefused]
  · simp [hsome, hpassed]

end SitePreview
