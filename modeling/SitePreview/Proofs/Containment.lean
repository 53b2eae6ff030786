import Mathlib
import SitePreview.Proofs.CanonicalPath
import SitePreview.Proofs.Fallible
import SitePreview.Proofs.LetterCase
import SitePreview.Serving.SafeJoin

namespace SitePreview

namespace Entry

/-- No directory on the way to a place holds a name that differs from the next one only by letter
case. -/
def SpelledOnce (root : Entry) (place : List Text) : Prop :=
  ∀ above name below e other, place = above ++ name :: below → root.at? above = some e →
    (e.child? other).isSome → other.lower = name.lower → other = name

theorem SpelledOnce.tail {root e : Entry} {name : Text} {place : List Text}
    (h : root.SpelledOnce (name :: place)) (he : root.child? name = some e) :
    e.SpelledOnce place := by
  intro above next below f other hplace hf hother hlower
  exact h (name :: above) next below f other (by simp [hplace]) (by simp [at?, he, hf]) hother hlower

/-- What exists has the spelling of a place that is spelled once. -/
theorem SpelledOnce.isPrefix_of_lower {root : Entry} {place names : List Text}
    (h : root.SpelledOnce place) (hnames : (root.at? names).isSome)
    (hlower : place.map Text.lower <+: names.map Text.lower) : place <+: names := by
  induction place generalizing root names with
  | nil => exact List.nil_prefix
  | cons name place ih =>
    cases names with
    | nil => simp at hlower
    | cons other names =>
      obtain ⟨hfirst, hrest⟩ := List.cons_prefix_cons.mp hlower
      obtain ⟨e, he⟩ := Option.isSome_iff_exists.mp hnames
      obtain ⟨child, hchild, hbelow⟩ := Option.bind_eq_some_iff.mp he
      have heq : other = name :=
        h [] name place root other rfl rfl (by simp [hchild]) hfirst.symm
      subst heq
      exact List.cons_prefix_cons.mpr ⟨rfl, ih (h.tail hchild) (by simp [hbelow]) hrest⟩

end Entry

theorem isAbsolute_joinSegments {base : Text} (h : Path.isAbsolute base = true)
    (segments : List Text) : Path.isAbsolute (joinSegments base segments) = true := by
  induction segments generalizing base with
  | nil => exact h
  | cons segment segments ih => exact ih (Path.isAbsolute_join h segment)

/-- What comes of joining: the segments of the path, the canonical root, and a canonical path that
lies in it. -/
theorem safeJoin_eq_ok_some {d : Disk} {root : Text} {path : Option Text} {p : Text} :
    safeJoin d root path = .ok (some p) ↔
      ∃ segments base, requestSegments (requestedPath path) = some segments ∧
        d.canonical root = .ok base ∧ d.canonical (joinSegments base segments) = .ok p ∧
        liesWithin base p = true := by
  unfold safeJoin
  cases requestSegments (requestedPath path) with
  | none => simp
  | some segments =>
    simp only [exceptBind_eq_ok, exceptPure_eq_ok, Option.some.injEq]
    constructor
    · rintro ⟨base, hbase, q, hq, h⟩
      split at h
      next hwithin =>
        cases h
        exact ⟨segments, base, rfl, hbase, hq, hwithin⟩
      next => cases h
    · rintro ⟨_, base, rfl, hbase, hp, hwithin⟩
      exact ⟨base, hbase, p, hp, if_pos hwithin⟩

theorem names_isPrefix_of_liesWithin {directory path : Text}
    (h : liesWithin directory path = true) :
    (Path.names directory).map Text.lower <+: (Path.names path).map Text.lower := by
  rw [← Path.names_lower, ← Path.names_lower]
  simp only [liesWithin, Bool.or_eq_true, beq_iff_eq, List.isPrefixOf_iff_prefix] at h
  rcases h with heq | hbelow
  · simp only [heq, List.prefix_refl]
  · split at hbelow
    next hslash =>
      obtain ⟨rest, hrest⟩ := hbelow
      obtain ⟨front, hfront⟩ := List.getLast?_eq_some_iff.mp hslash
      rw [← hrest, hfront, List.append_assoc, List.singleton_append, Path.names_append_slash,
        Path.names_append_slash]
      exact ⟨Path.names rest, by simp [Path.names, Path.parts, partsAt]⟩
    next =>
      obtain ⟨rest, hrest⟩ := hbelow
      rw [← hrest, List.append_assoc, List.singleton_append, Path.names_append_slash]
      exact List.prefix_append _ _

theorem safeJoin_stays_within {d : Disk} {root : Text} {path : Option Text} {p : Text}
    (h : safeJoin d root path = .ok (some p)) :
    ∃ base, d.canonical root = .ok base ∧ (∀ name ∈ Path.names p, Path.IsName name) ∧
      (Path.names base).map Text.lower <+: (Path.names p).map Text.lower ∧
      (d.root.SpelledOnce (Path.names base) → (d.root.at? (Path.names p)).isSome →
        Path.names base <+: Path.names p) := by
  obtain ⟨segments, base, _, hbase, hp, hwithin⟩ := safeJoin_eq_ok_some.mp h
  have habs := isAbsolute_joinSegments (Disk.canonical_isAbsolute hbase) segments
  have hnames := names_isPrefix_of_liesWithin hwithin
  exact ⟨base, hbase, (Disk.canonical_isNormal habs hp).isName, hnames,
    fun honce hexists => honce.isPrefix_of_lower hexists hnames⟩

/-- Neighbours whose names differ by letter case only, and a link from the one to the other. -/
def twinDirectories : Disk := .ofTop <| .directory [
  ("Site".toList, .directory [("up".toList, .link "../site".toList)]),
  ("site".toList, .directory [("secret".toList, .file [])])]

theorem safeJoin_twinDirectories :
    safeJoin twinDirectories "/Site".toList (some "/x/../up/secret".toList) =
      .ok (some "/site/secret".toList) := by cbv

theorem safeJoin_stays_within_twin :
    safeJoin twinDirectories "/Site".toList (some "/x/../up/secret".toList) =
        .ok (some "/site/secret".toList) ∧
      ∃ base, twinDirectories.canonical "/Site".toList = .ok base ∧
        (∀ name ∈ Path.names "/site/secret".toList, Path.IsName name) ∧
        (Path.names base).map Text.lower <+: (Path.names "/site/secret".toList).map Text.lower ∧
        (twinDirectories.root.SpelledOnce (Path.names base) →
          (twinDirectories.root.at? (Path.names "/site/secret".toList)).isSome →
          Path.names base <+: Path.names "/site/secret".toList) :=
  ⟨safeJoin_twinDirectories, safeJoin_stays_within safeJoin_twinDirectories⟩

/-- With letter case the law fails: the neighbour of the root is not in it. -/
theorem safeJoin_leaves_root : ¬∀ (d : Disk) (root : Text) (path : Option Text) (p base : Text),
    safeJoin d root path = .ok (some p) → d.canonical root = .ok base →
      Path.names base <+: Path.names p := by
  intro h
  have hbase : twinDirectories.canonical "/Site".toList = .ok "/Site".toList := by cbv
  have hnames := h _ _ _ _ _ safeJoin_twinDirectories hbase
  exact absurd hnames (by decide)

end SitePreview
