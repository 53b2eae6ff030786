import SitePreview.Proofs.CanonicalPath
import SitePreview.Proofs.Fallible
import SitePreview.Serving.SafeJoin

namespace SitePreview

def NulFree (s : Text) : Prop := '\x00' ∉ s

instance (s : Text) : Decidable (NulFree s) := inferInstanceAs (Decidable ('\x00' ∉ s))

theorem NulFree.append {a b : Text} (ha : NulFree a) (hb : NulFree b) : NulFree (a ++ b) := by
  simp only [NulFree, List.mem_append, not_or]
  exact ⟨ha, hb⟩

theorem NulFree.slash {a : Text} (h : NulFree a) : NulFree ('/' :: a) := by
  simp only [NulFree, List.mem_cons, not_or]
  exact ⟨by decide, h⟩

theorem NulFree.intercalate {ns : List Text} (h : ∀ n ∈ ns, NulFree n) :
    NulFree (['/'].intercalate ns) := by
  induction ns with
  | nil => simp [NulFree]
  | cons n ns ih =>
    have hn := h n (by simp)
    have hrest := ih fun m hm => h m (by simp [hm])
    by_cases hns : ns = []
    · simpa [hns] using hn
    · rw [List.intercalate_cons_of_ne_nil hns]
      exact (hn.append (NulFree.slash (by simp [NulFree]))).append hrest

theorem NulFree.of_subset {a b : Text} (h : NulFree b) (hsub : a ⊆ b) : NulFree a :=
  fun hmem => h (hsub hmem)

namespace Path

theorem nulFree_of_mem_parts {p : Text} (h : NulFree p) : ∀ part ∈ parts p, NulFree part :=
  fun _ hpart => h.of_subset (sublist_of_mem_partsAt hpart).subset

theorem nulFree_of_mem_names {p : Text} (h : NulFree p) : ∀ n ∈ names p, NulFree n :=
  fun n hn => nulFree_of_mem_parts h n (List.mem_filter.mp hn).1

theorem nulFree_ofNames {ns : List Text} (h : ∀ n ∈ ns, NulFree n) : NulFree (ofNames ns) :=
  NulFree.slash (NulFree.intercalate h)

theorem nulFree_join {p q : Text} (hp : NulFree p) (hq : NulFree q) : NulFree (join p q) := by
  unfold join
  split
  · exact hq
  · split
    · exact hp.append hq
    · exact hp.append hq.slash

theorem nulFree_collapseStep {rooted : Bool} {stack : List Text} {part : Text}
    (hstack : ∀ n ∈ stack, NulFree n) (hpart : NulFree part) :
    ∀ n ∈ collapseStep rooted stack part, NulFree n := by
  have hup : NulFree oneUp := by simp [NulFree, oneUp]
  unfold collapseStep
  split
  · exact hstack
  · split
    · cases stack with
      | nil => cases rooted <;> simp [hup]
      | cons top rest =>
        simp only
        split
        · exact List.forall_mem_cons.mpr ⟨hup, hstack⟩
        · exact (List.forall_mem_cons.mp hstack).2
    · exact List.forall_mem_cons.mpr ⟨hpart, hstack⟩

theorem nulFree_collapse {rooted : Bool} {ps : List Text} (h : ∀ p ∈ ps, NulFree p) :
    ∀ n ∈ collapse rooted ps, NulFree n := by
  have hfold : ∀ stack : List Text, (∀ n ∈ stack, NulFree n) →
      ∀ n ∈ ps.foldl (collapseStep rooted) stack, NulFree n := by
    induction ps with
    | nil => exact fun _ hstack => hstack
    | cons p ps ih =>
      intro stack hstack
      exact ih (fun q hq => h q (by simp [hq])) _ (nulFree_collapseStep hstack (h p (by simp)))
  intro n hn
  exact hfold [] (by simp) n (List.mem_reverse.mp hn)

theorem nulFree_normalize {p : Text} (h : NulFree p) : NulFree (normalize p) := by
  have hfound : NulFree
      (leadingSlashes p ++ ['/'].intercalate (collapse (isAbsolute p) (parts p))) := by
    refine NulFree.append ?_ (NulFree.intercalate (nulFree_collapse (nulFree_of_mem_parts h)))
    unfold leadingSlashes
    split <;> simp [NulFree]
  unfold normalize
  simp only
  split
  · simp [NulFree]
  · exact hfound

theorem nulFree_absolute {cwd p : Text} (hcwd : NulFree cwd) (h : NulFree p) :
    NulFree (absolute cwd p) := by
  unfold absolute
  split
  · exact nulFree_normalize h
  · exact nulFree_normalize (nulFree_join hcwd h)

end Path

namespace Entry

mutual

/-- What the links in a tree point to. -/
def targets : Entry → List Text
  | link target => [target]
  | directory es => targetsAll es
  | _ => []

def targetsAll : List (Text × Entry) → List Text
  | [] => []
  | (_, e) :: rest => e.targets ++ targetsAll rest

end

theorem targets_subset_of_lookup {entries : List (Text × Entry)} {name : Text} {e : Entry}
    (h : entries.lookup name = some e) : e.targets ⊆ targetsAll entries := by
  induction entries with
  | nil => cases h
  | cons first rest ih =>
    obtain ⟨other, c⟩ := first
    rw [targetsAll]
    rw [List.lookup_cons] at h
    split at h
    next =>
      cases h
      exact List.subset_append_left _ _
    next => exact List.Subset.trans (ih h) (List.subset_append_right _ _)

theorem mem_targets_of_at? {root : Entry} {place : List Text} {target : Text}
    (h : root.at? place = some (.link target)) : target ∈ root.targets := by
  induction place generalizing root with
  | nil =>
    cases h
    simp [targets]
  | cons name place ih =>
    obtain ⟨child, hchild, hbelow⟩ := Option.bind_eq_some_iff.mp h
    cases root with
    | directory entries =>
      rw [targets]
      exact targets_subset_of_lookup hchild (ih hbelow)
    | file content => cases hchild
    | link other => cases hchild
    | pipe => cases hchild

end Entry

namespace Disk

/-- Neither the working directory nor the target of a link has a NUL, which no disk can hold. -/
structure IsNulFree (d : Disk) : Prop where
  cwd : NulFree d.cwd
  target : ∀ place target, d.root.at? place = some (.link target) → NulFree target

theorem IsNulFree.of_targets {d : Disk} (hcwd : NulFree d.cwd)
    (h : ∀ target ∈ d.root.targets, NulFree target) : d.IsNulFree :=
  ⟨hcwd, fun _ target hat => h target (Entry.mem_targets_of_at? hat)⟩

end Disk

namespace Canonical

def IsNulFree : Canonical → Prop
  | names ns => ∀ n ∈ ns, NulFree n
  | looped p => NulFree p

end Canonical

namespace Disk

theorem at?_of_linkAt? {root : Entry} {place : List Text} {target : Text}
    (h : linkAt? root place = some target) : root.at? place.reverse = some (.link target) := by
  unfold linkAt? at h
  split at h
  · cases h
  · split at h
    next found =>
      cases h
      exact found
    next => cases h

theorem nulFree_from {here : List Text} {target : Text} (h : ∀ n ∈ here, NulFree n) :
    ∀ n ∈ if Path.isAbsolute target then [] else here, NulFree n := by
  split
  · simp
  · exact h

theorem nulFree_kept {here rest : List Text} {part : Text} (hhere : ∀ n ∈ here, NulFree n)
    (hps : ∀ p ∈ part :: rest, NulFree p) :
    NulFree (Path.join (Path.ofNames (part :: here).reverse) (['/'].intercalate rest)) := by
  obtain ⟨hpart, hrest⟩ := List.forall_mem_cons.mp hps
  refine Path.nulFree_join (Path.nulFree_ofNames fun n hn => ?_) (NulFree.intercalate hrest)
  exact List.forall_mem_cons.mpr ⟨hpart, hhere⟩ n (List.mem_reverse.mp hn)

theorem exists_canonicalFrom {root : Entry} {fuel : Nat} {within : List (List Text)}
    {here ps : List Text}
    (hroot : ∀ place target, root.at? place = some (.link target) → NulFree target)
    (hhere : ∀ n ∈ here, NulFree n) (hps : ∀ p ∈ ps, NulFree p) :
    ∃ c, canonicalFrom root fuel within here ps = .ok c ∧ c.IsNulFree := by
  fun_induction canonicalFrom root fuel within here ps with
  | case1 fuel within here => exact ⟨_, rfl, hhere⟩
  | case2 fuel within here part rest hdot ih =>
    exact ih hhere (List.forall_mem_cons.mp hps).2
  | case3 fuel within here rest hdot ih =>
    exact ih (fun n hn => hhere n (List.mem_of_mem_tail hn)) (List.forall_mem_cons.mp hps).2
  | case4 fuel within here part rest hdot hup hnul =>
    exact absurd (by simpa using hnul) (hps part (by simp))
  | case5 fuel within here part rest hdot hup hnul place hlink ih =>
    obtain ⟨hpart, hrest⟩ := List.forall_mem_cons.mp hps
    exact ih (List.forall_mem_cons.mpr ⟨hpart, hhere⟩) hrest
  | case6 fuel within here part rest hdot hup hnul place target hlink kept hwithin =>
    exact ⟨_, rfl, nulFree_kept hhere hps⟩
  | case7 within here part rest hdot hup hnul place target hlink kept hwithin =>
    exact ⟨_, rfl, nulFree_kept hhere hps⟩
  | case8 within here part rest hdot hup hnul place target hlink hwithin less from' e he ih =>
    have hfrom : ∀ n ∈ from', NulFree n := nulFree_from hhere
    obtain ⟨c, hc, _⟩ := ih hfrom
      (Path.nulFree_of_mem_parts (hroot _ _ (at?_of_linkAt? hlink)))
    rw [hc] at he
    cases he
  | case9 within here part rest hdot hup hnul place target hlink kept hwithin less from' p hp ih =>
    have hfrom : ∀ n ∈ from', NulFree n := nulFree_from hhere
    obtain ⟨c, hc, hfree⟩ := ih hfrom
      (Path.nulFree_of_mem_parts (hroot _ _ (at?_of_linkAt? hlink)))
    rw [hc] at hp
    cases hp
    exact ⟨_, rfl, Path.nulFree_join hfree (NulFree.intercalate (List.forall_mem_cons.mp hps).2)⟩
  | case10 within here part rest hdot hup hnul place target hlink hwithin less from' there hthere
      ih₁ ih₂ =>
    have hfrom : ∀ n ∈ from', NulFree n := nulFree_from hhere
    obtain ⟨c, hc, hfree⟩ := ih₁ hfrom
      (Path.nulFree_of_mem_parts (hroot _ _ (at?_of_linkAt? hlink)))
    rw [hc] at hthere
    cases hthere
    exact ih₂ hfree (List.forall_mem_cons.mp hps).2

variable {d : Disk} {root path p : Text}

theorem exists_canonical (hd : d.IsNulFree) (hp : NulFree p) :
    ∃ q, d.canonical p = .ok q ∧ NulFree q := by
  have hstart : ∀ n ∈ d.start p, NulFree n := by
    unfold start
    split
    · simp
    · exact fun n hn => Path.nulFree_of_mem_names hd.cwd n (List.mem_reverse.mp hn)
  obtain ⟨c, hc, hfree⟩ : ∃ c, canonicalFrom d.root (d.root.linkCount + 1) [] (d.start p)
      (Path.parts p) = .ok c ∧ c.IsNulFree :=
    exists_canonicalFrom hd.target hstart (Path.nulFree_of_mem_parts hp)
  unfold canonical
  rw [hc]
  cases c with
  | names ns =>
    exact ⟨_, rfl, Path.nulFree_ofNames fun n hn => hfree n (List.mem_reverse.mp hn)⟩
  | looped q => exact ⟨_, rfl, Path.nulFree_absolute hd.cwd hfree⟩

end Disk

end SitePreview
