import Mathlib.Data.List.Forall2
import SitePreview.Fields.RuleChoice
import SitePreview.Proofs.Fallible
import SitePreview.Proofs.FirstElement

namespace SitePreview

theorem Checked.map_eq_valid {α β : Type} {f : α → β} {x : Checked α} {b : β} :
    f <$> x = .valid b ↔ ∃ a, x = .valid a ∧ f a = b := by
  cases x with
  | valid a =>
    show Checked.valid (f a) = .valid b ↔ _
    simp
  | invalid issues =>
    show Checked.invalid _ = .valid b ↔ _
    simp

namespace RuleFields

/-- The fields pass the checks as a rule. -/
def Accepted (f : RuleFields) (r : LocationRule) : Prop := f.checked = .valid r

def ExactFor (path : Text) (f : RuleFields) : Prop := f.kind = .exact ∧ f.matcher = path

def PrefixFor (path : Text) (f : RuleFields) : Prop := f.kind = .prefixed ∧ f.matcher <+: path

def FoundIn (search : Pattern → Text → Bool) (path : Text) (f : RuleFields) : Prop :=
  f.kind = .pattern ∧ ∃ p, f.compiled = some p ∧ search p path = true

def Matches (search : Pattern → Text → Bool) (path : Text) (f : RuleFields) : Prop :=
  f.ExactFor path ∨ f.PrefixFor path ∨ f.FoundIn search path

/-- The first in the source of the prefix rules for a path that have the longest matcher. -/
def IsBestPrefix (fs : List RuleFields) (path : Text) (b : RuleFields) : Prop :=
  IsFirstLongest (fun f => f.matcher.length) (PrefixFor path) fs b

/-- The order of precedence. -/
inductive Chosen (search : Pattern → Text → Bool) (fs : List RuleFields) (path : Text) :
    Option RuleFields → Prop
  | exact {f} (first : IsFirst (ExactFor path) fs f) : Chosen search fs path (some f)
  | finalPrefix {b} (noExact : ∀ f ∈ fs, ¬f.ExactFor path) (best : IsBestPrefix fs path b)
      (final : b.final = true) : Chosen search fs path (some b)
  | pattern {f} (noExact : ∀ f ∈ fs, ¬f.ExactFor path)
      (notFinal : ∀ b, IsBestPrefix fs path b → b.final = false)
      (first : IsFirst (FoundIn search path) fs f) : Chosen search fs path (some f)
  | bestPrefix {b} (noExact : ∀ f ∈ fs, ¬f.ExactFor path) (best : IsBestPrefix fs path b)
      (notFinal : b.final = false) (noPattern : ∀ f ∈ fs, ¬f.FoundIn search path) :
      Chosen search fs path (some b)
  | nothing (noExact : ∀ f ∈ fs, ¬f.ExactFor path) (noPrefix : ∀ f ∈ fs, ¬f.PrefixFor path)
      (noPattern : ∀ f ∈ fs, ¬f.FoundIn search path) : Chosen search fs path none

variable {search : Pattern → Text → Bool} {fs : List RuleFields} {rules : List LocationRule}
  {path : Text} {f b : RuleFields} {r : LocationRule}

/-- What the checks let through: the kind decides which selector the rule has, and a pattern rule
holds the pattern that came with it. -/
theorem Accepted.cases (h : Accepted f r) : r.matcher = f.matcher ∧
    ((f.kind = .exact ∧ f.final = false ∧ r.selector = .exact) ∨
      (f.kind = .prefixed ∧ r.selector = .prefixed f.final) ∨
      ∃ p, f.kind = .pattern ∧ f.final = false ∧ f.compiled = some p ∧ r.selector = .pattern p) := by
  obtain ⟨selector, hselector, rfl⟩ := Checked.map_eq_valid.mp h
  refine ⟨rfl, ?_⟩
  unfold LocationRule.Draft.selector at hselector
  split at hselector
  next => cases hselector
  next hfinal =>
    split at hselector
    next p hkind hcompiled =>
      cases hselector
      exact Or.inr (Or.inr ⟨p, hkind, by simpa [hkind] using hfinal, hcompiled, rfl⟩)
    next => cases hselector
    next hkind _ =>
      cases hselector
      exact Or.inl ⟨hkind, by simpa [hkind] using hfinal, rfl⟩
    next hkind _ =>
      cases hselector
      exact Or.inr (Or.inl ⟨hkind, rfl⟩)
    next => cases hselector

theorem Accepted.exists_compiled (h : Accepted f r) (hkind : f.kind = .pattern) :
    ∃ p, f.compiled = some p := by
  rcases h.cases.2 with ⟨hexact, _⟩ | ⟨hfront, _⟩ | ⟨p, _, _, hcompiled, _⟩
  · rw [hkind] at hexact
    cases hexact
  · rw [hkind] at hfront
    cases hfront
  · exact ⟨p, hcompiled⟩

theorem Accepted.isExactFor (h : Accepted f r) (path : Text) :
    (f.kind = .exact && f.matcher == path) = r.isExactFor path := by
  obtain ⟨hmatcher, ⟨hkind, _, hselector⟩ | ⟨hkind, hselector⟩ | ⟨p, hkind, _, _, hselector⟩⟩ :=
    h.cases <;> simp [LocationRule.isExactFor, hkind, hselector, hmatcher]

theorem Accepted.isPrefixFor (h : Accepted f r) (path : Text) :
    (f.kind = .prefixed && f.matcher.isPrefixOf path) = r.isPrefixFor path := by
  obtain ⟨hmatcher, ⟨hkind, _, hselector⟩ | ⟨hkind, hselector⟩ | ⟨p, hkind, _, _, hselector⟩⟩ :=
    h.cases <;> simp [LocationRule.isPrefixFor, hkind, hselector, hmatcher]

theorem Accepted.isFinal (h : Accepted f r) : f.final = r.isFinal := by
  obtain ⟨_, ⟨_, hfinal, hselector⟩ | ⟨_, hselector⟩ | ⟨p, _, hfinal, _, hselector⟩⟩ := h.cases <;>
    simp [LocationRule.isFinal, *]

theorem exactFor_iff : (f.kind = .exact && f.matcher == path) = true ↔ f.ExactFor path := by
  simp [ExactFor]

theorem prefixFor_iff :
    (f.kind = .prefixed && f.matcher.isPrefixOf path) = true ↔ f.PrefixFor path := by
  simp [PrefixFor]

theorem bestPrefix_eq_some : bestPrefix fs path = some b ↔ IsBestPrefix fs path b :=
  firstLongest_filter_eq_some fun _ => prefixFor_iff

theorem bestPrefix_eq_none : bestPrefix fs path = none ↔ ∀ f ∈ fs, ¬f.PrefixFor path :=
  firstLongest_filter_eq_none fun _ => prefixFor_iff

def isFoundIn (search : Pattern → Text → Bool) (path : Text) (f : RuleFields) : Bool :=
  f.kind = .pattern && f.compiled.any fun p => search p path

theorem foundIn_iff : f.isFoundIn search path = true ↔ f.FoundIn search path := by
  simp [isFoundIn, FoundIn, Option.any_eq_true]

theorem Accepted.isFoundIn (h : Accepted f r) (search : Pattern → Text → Bool) (path : Text) :
    f.isFoundIn search path = r.isFoundBy search path := by
  obtain ⟨_, ⟨hkind, _, hselector⟩ | ⟨hkind, hselector⟩ |
    ⟨p, hkind, _, hcompiled, hselector⟩⟩ := h.cases
  · simp [RuleFields.isFoundIn, LocationRule.isFoundBy, hkind, hselector]
  · simp [RuleFields.isFoundIn, LocationRule.isFoundBy, hkind, hselector]
  · simp [RuleFields.isFoundIn, LocationRule.isFoundBy, hkind, hselector, hcompiled]

theorem firstFound_eq_ok (h : ∀ f ∈ fs, f.kind = .pattern → ∃ p, f.compiled = some p) :
    firstFound search path fs = .ok (fs.find? (isFoundIn search path)) := by
  induction fs with
  | nil => rfl
  | cons f fs ih =>
    have hrest := ih fun g hg => h g (by simp [hg])
    rw [firstFound, List.find?_cons]
    by_cases hkind : f.kind = .pattern
    · obtain ⟨p, hp⟩ := h f (by simp) hkind
      rw [if_pos hkind, hp]
      cases hs : search p path <;> simp [isFoundIn, hkind, hp, hs, hrest]
    · rw [if_neg hkind, hrest]
      simp [isFoundIn, hkind]

theorem Accepted.find? {p : RuleFields → Bool} {q : LocationRule → Bool}
    (same : ∀ f r, Accepted f r → p f = q r) (h : List.Forall₂ Accepted fs rules) :
    Option.Rel Accepted (fs.find? p) (rules.find? q) := by
  induction h with
  | nil => exact .none
  | @cons f r fs rules hfr _ ih =>
    rw [List.find?_cons, List.find?_cons, same f r hfr]
    cases q r with
    | true => exact .some hfr
    | false => exact ih

theorem Accepted.bestPrefix (h : List.Forall₂ Accepted fs rules) (path : Text) :
    Option.Rel Accepted (bestPrefix fs path) (bestPrefixBy id rules path) := by
  have hfronts : List.Forall₂ Accepted
      (fs.filter fun f => f.kind = .prefixed && f.matcher.isPrefixOf path)
      (rules.filter fun r => (id r).isPrefixFor path) :=
    List.rel_filter (fun f r hfr => Bool.eq_iff_iff.mp (hfr.isPrefixFor path)) h
  refine List.rel_foldl ?_ .none hfronts
  intro best bestRule hbest f r hfr
  cases hbest with
  | none => exact .some hfr
  | some hb =>
    simp only [longerOf, id_eq, ← hb.cases.1, ← hfr.cases.1]
    split
    · exact .some hfr
    · exact .some hb

theorem isFinal_any_eq_false (h : ¬(bestPrefix fs path).any (fun f => f.final) = true)
    (hb : IsBestPrefix fs path b) : b.final = false := by
  rw [bestPrefix_eq_some.mpr hb] at h
  simpa using h

/-- Where every pattern rule holds its pattern a rule is chosen by precedence. -/
theorem exists_pick (h : ∀ f ∈ fs, f.kind = .pattern → ∃ p, f.compiled = some p) :
    ∃ picked, pick search fs path = .ok picked ∧ Chosen search fs path picked := by
  unfold pick
  cases hexact : fs.find? fun f => f.kind = .exact && f.matcher == path with
  | some f => exact ⟨_, rfl, .exact ((find?_eq_some_iff_isFirst fun _ => exactFor_iff).mp hexact)⟩
  | none =>
    have noExact : ∀ f ∈ fs, ¬f.ExactFor path := fun f hf he =>
      List.find?_eq_none.mp hexact f hf (exactFor_iff.mpr he)
    simp only
    split
    next hfinal =>
      obtain ⟨b, hb, hbf⟩ := (Option.any_eq_true _ _).mp hfinal
      exact ⟨_, rfl, hb ▸ .finalPrefix noExact (bestPrefix_eq_some.mp hb) hbf⟩
    next hfinal =>
      have notFinal := fun b => isFinal_any_eq_false (b := b) hfinal
      refine ⟨_, by rw [firstFound_eq_ok h]; rfl, ?_⟩
      cases hfound : fs.find? (isFoundIn search path) with
      | some f =>
        exact .pattern noExact notFinal ((find?_eq_some_iff_isFirst fun _ => foundIn_iff).mp hfound)
      | none =>
        have noPattern : ∀ f ∈ fs, ¬f.FoundIn search path := fun f hf he =>
          List.find?_eq_none.mp hfound f hf (foundIn_iff.mpr he)
        cases hbest : bestPrefix fs path with
        | some b =>
          have hb := bestPrefix_eq_some.mp hbest
          exact .bestPrefix noExact hb (notFinal b hb) noPattern
        | none => exact .nothing noExact (bestPrefix_eq_none.mp hbest) noPattern

theorem exists_compiled_of_accepted (h : List.Forall₂ Accepted fs rules) :
    ∀ f ∈ fs, f.kind = .pattern → ∃ p, f.compiled = some p :=
  ((List.forall₂_and_left fs rules).mp (h.imp fun _ _ hfr => ⟨hfr.exists_compiled, hfr⟩)).1

/-- The choice among the fields of accepted rules is the choice among the rules. -/
theorem pick_of_accepted (h : List.Forall₂ Accepted fs rules) {picked : Option RuleFields}
    (hpicked : pick search fs path = .ok picked) :
    Option.Rel Accepted picked (pickWith id search rules path) := by
  have hexact := Accepted.find? (fun f r hfr => hfr.isExactFor path) h
  have hbest := Accepted.bestPrefix h path
  have hfound := Accepted.find? (fun f r hfr => hfr.isFoundIn search path) h
  rw [pick, firstFound_eq_ok (exists_compiled_of_accepted h)] at hpicked
  simp only [pickWith, id_eq]
  generalize fs.find? (fun f => f.kind = .exact && f.matcher == path) = one at hexact hpicked
  generalize rules.find? (fun r => r.isExactFor path) = other at hexact
  cases hexact with
  | some hfr =>
    cases hpicked
    exact .some hfr
  | none =>
    generalize bestPrefix fs path = best at hbest hpicked
    generalize bestPrefixBy id rules path = bestRule at hbest
    have hor : Option.Rel Accepted ((fs.find? (isFoundIn search path)).or best)
        ((rules.find? fun r => r.isFoundBy search path).or bestRule) := by
      generalize fs.find? (isFoundIn search path) = found at hfound
      generalize rules.find? (fun r => r.isFoundBy search path) = foundRule at hfound
      cases hfound with
      | some hfr => exact .some hfr
      | none => exact hbest
    cases hbest with
    | none =>
      cases hpicked
      exact hor
    | some hb =>
      simp only [Option.any_some, hb.isFinal] at hpicked ⊢
      split at hpicked
      next hfinal =>
        cases hpicked
        rw [if_pos hfinal]
        exact .some hb
      next hfinal =>
        cases hpicked
        rw [if_neg hfinal]
        exact hor

theorem IsBestPrefix.mem (h : IsBestPrefix fs path b) : b ∈ fs ∧ b.PrefixFor path := by
  unfold IsBestPrefix IsFirstLongest at h
  exact ⟨h.mem, h.holds.1⟩

theorem IsBestPrefix.unique {c : RuleFields} (hb : IsBestPrefix fs path b)
    (hc : IsBestPrefix fs path c) : b = c := by
  unfold IsBestPrefix IsFirstLongest at hb hc
  exact hb.unique hc

theorem Chosen.unique {one other : Option RuleFields} (h : Chosen search fs path one)
    (hother : Chosen search fs path other) : one = other := by
  cases h <;> cases hother <;>
    grind [IsFirst.mem, IsFirst.holds, IsFirst.unique, → IsBestPrefix.mem, IsBestPrefix.unique]

theorem Chosen.matches_of_some (h : Chosen search fs path (some f)) :
    f ∈ fs ∧ f.Matches search path := by
  cases h with
  | exact first => exact ⟨first.mem, Or.inl first.holds⟩
  | finalPrefix _ best _ => exact ⟨best.mem.1, Or.inr (Or.inl best.mem.2)⟩
  | pattern _ _ first => exact ⟨first.mem, Or.inr (Or.inr first.holds)⟩
  | bestPrefix _ best _ _ => exact ⟨best.mem.1, Or.inr (Or.inl best.mem.2)⟩

theorem Chosen.eq_none_iff {picked : Option RuleFields} (h : Chosen search fs path picked) :
    picked = none ↔ ∀ f ∈ fs, ¬f.Matches search path := by
  constructor
  · rintro rfl
    cases h with
    | nothing noExact noPrefix noPattern =>
      rintro f hf (he | hp | hs)
      · exact noExact f hf he
      · exact noPrefix f hf hp
      · exact noPattern f hf hs
  · intro hnone
    cases picked with
    | none => rfl
    | some f =>
      obtain ⟨hf, hmatch⟩ := h.matches_of_some
      exact absurd hmatch (hnone f hf)

/-- Among rules that pass their checks the choice does not fail, it is made by precedence, and it is
the rule that is picked among the checked rules, whatever a search for a pattern finds. -/
theorem pick_by_precedence (search : Pattern → Text → Bool) {fs : List RuleFields}
    {rules : List LocationRule} (accepted : List.Forall₂ Accepted fs rules) (path : Text) :
    ∃ picked, pick search fs path = .ok picked ∧
      (∀ choice, Chosen search fs path choice ↔ choice = picked) ∧
      (∀ f, picked = some f → f ∈ fs ∧ f.Matches search path) ∧
      (picked = none ↔ ∀ f ∈ fs, ¬f.Matches search path) ∧
      Option.Rel Accepted picked (pickWith id search rules path) := by
  obtain ⟨picked, hpicked, hchosen⟩ := exists_pick (exists_compiled_of_accepted accepted)
  refine ⟨picked, hpicked, fun choice => ⟨fun h => h.unique hchosen, ?_⟩, ?_, hchosen.eq_none_iff,
    pick_of_accepted accepted hpicked⟩
  · rintro rfl
    exact hchosen
  · rintro f rfl
    exact hchosen.matches_of_some

/-- The pattern that is found everywhere. -/
def emptyPattern : Pattern := ⟨[], false, { unicode := true }, [none], []⟩

/-- Two equally long prefixes, a pattern and an exact rule. -/
def mixedFields : List RuleFields :=
  let plain : LocationRule.Draft := ⟨.prefixed, "/a".toList, false, false, none, none, none⟩
  [⟨plain, none⟩, ⟨{ plain with proxyTarget := some "http://b".toList }, none⟩,
    ⟨{ plain with kind := .pattern, matcher := [] }, some emptyPattern⟩,
    ⟨{ plain with kind := .exact }, none⟩]

def mixedRules : List LocationRule :=
  [{ selector := .prefixed false, matcher := "/a".toList },
    { selector := .prefixed false, matcher := "/a".toList, proxyTarget := some "http://b".toList },
    { selector := .pattern emptyPattern, matcher := [] },
    { selector := .exact, matcher := "/a".toList }]

theorem pick_by_precedence_mixed :
    List.Forall₂ Accepted mixedFields mixedRules ∧
      ∃ picked, pick Pattern.search mixedFields "/a/b".toList = .ok picked ∧
        (∀ choice, Chosen Pattern.search mixedFields "/a/b".toList choice ↔ choice = picked) ∧
        (∀ f, picked = some f → f ∈ mixedFields ∧ f.Matches Pattern.search "/a/b".toList) ∧
        (picked = none ↔ ∀ f ∈ mixedFields, ¬f.Matches Pattern.search "/a/b".toList) ∧
        Option.Rel Accepted picked (pickWith id Pattern.search mixedRules "/a/b".toList) := by
  have accepted : List.Forall₂ Accepted mixedFields mixedRules :=
    .cons rfl (.cons rfl (.cons rfl (.cons rfl .nil)))
  exact ⟨accepted, pick_by_precedence Pattern.search accepted "/a/b".toList⟩

end RuleFields

end SitePreview
