import SitePreview.Proofs.Following
import SitePreview.Proofs.PathNames

namespace SitePreview

namespace Path

/-- The names that are shown of a path. -/
def shownNames (p : Text) : List Text := (names p).filter (· ≠ ['.'])

theorem isPart_of_mem_shownNames {p n : Text} (h : n ∈ shownNames p) : IsPart n :=
  isPart_of_mem_names (List.mem_filter.mp h).1

theorem shownNames_cons_slash (p : Text) : shownNames ('/' :: p) = shownNames p := by
  rw [shownNames, names_cons_slash, shownNames]

/-- What a path is shown as: a dot, its names, or its slashes and its names. -/
inductive ShownAs (p : Text) : Text → Prop
  | here (relative : isAbsolute p = false) (none : shownNames p = []) : ShownAs p ['.']
  | names (relative : isAbsolute p = false) (some : shownNames p ≠ []) :
    ShownAs p (['/'].intercalate (shownNames p))
  | rooted {slashes} (absolute : isAbsolute p = true) (front : leadingSlashes p = slashes)
    (count : slashes = ['/'] ∨ slashes = ['/', '/']) :
    ShownAs p (slashes ++ ['/'].intercalate (shownNames p))

theorem leadingSlashes_of_not_absolute {p : Text} (h : isAbsolute p = false) :
    leadingSlashes p = [] := by
  cases p with
  | nil => rfl
  | cons c p =>
    have hc : c ≠ '/' := by simpa [isAbsolute] using h
    simp [leadingSlashes, hc]

theorem shown_eq (p : Text) :
    shown p = if leadingSlashes p ++ ['/'].intercalate (shownNames p) = [] then ['.']
      else leadingSlashes p ++ ['/'].intercalate (shownNames p) := rfl

theorem shownAs_shown (p : Text) : ShownAs p (shown p) := by
  rw [shown_eq]
  cases habs : isAbsolute p with
  | false =>
    rw [leadingSlashes_of_not_absolute habs, List.nil_append]
    by_cases hnone : shownNames p = []
    · rw [hnone, List.intercalate_nil, if_pos rfl]
      exact .here habs hnone
    · rw [if_neg (intercalate_ne_nil (fun n hn => isPart_of_mem_shownNames hn) hnone)]
      exact .names habs hnone
  | true =>
    rw [if_neg (by simp [leadingSlashes_ne_nil habs])]
    exact .rooted habs rfl (leadingSlashes_of_isAbsolute habs)

theorem shownNames_intercalate {ns : List Text} (h : ∀ n ∈ ns, IsPart n)
    (hdots : ∀ n ∈ ns, n ≠ ['.']) : shownNames (['/'].intercalate ns) = ns := by
  rw [shownNames, names_intercalate h]
  exact List.filter_eq_self.mpr fun n hn => by simpa using hdots n hn

theorem ne_dot_of_mem_shownNames {p n : Text} (h : n ∈ shownNames p) : n ≠ ['.'] := by
  simpa using (List.mem_filter.mp h).2

variable {p q : Text}

theorem ShownAs.ne_nil (h : ShownAs p q) : q ≠ [] := by
  cases h with
  | here relative none => simp
  | names relative some => exact intercalate_ne_nil (fun n hn => isPart_of_mem_shownNames hn) some
  | rooted absolute front count => rcases count with rfl | rfl <;> simp

theorem ShownAs.isAbsolute (h : ShownAs p q) : isAbsolute q = isAbsolute p := by
  cases h with
  | here relative none =>
    rw [relative]
    rfl
  | names relative some =>
    rw [relative, intercalate_not_absolute fun n hn => isPart_of_mem_shownNames hn]
  | rooted absolute front count =>
    rw [absolute]
    rcases count with rfl | rfl <;> rfl

theorem ShownAs.leadingSlashes (h : ShownAs p q) : leadingSlashes q = leadingSlashes p := by
  have habs := h.isAbsolute
  cases h with
  | here relative none =>
    rw [leadingSlashes_of_not_absolute relative]
    rfl
  | names relative some =>
    rw [leadingSlashes_of_not_absolute relative,
      leadingSlashes_of_not_absolute (habs.trans relative)]
  | rooted absolute front count =>
    rw [front]
    exact leadingSlashes_append count
      (intercalate_head_ne_slash fun n hn => isPart_of_mem_shownNames hn)

theorem ShownAs.shownNames (h : ShownAs p q) : shownNames q = shownNames p := by
  have hsame : Path.shownNames (['/'].intercalate (Path.shownNames p)) = Path.shownNames p :=
    shownNames_intercalate (fun n hn => isPart_of_mem_shownNames hn)
      fun n hn => ne_dot_of_mem_shownNames hn
  cases h with
  | here relative none =>
    rw [none]
    rfl
  | names relative some => exact hsame
  | rooted absolute front count =>
    rcases count with rfl | rfl
    · exact (shownNames_cons_slash _).trans hsame
    · exact ((shownNames_cons_slash _).trans (shownNames_cons_slash _)).trans hsame

theorem shown_shown (p : Text) : shown (shown p) = shown p := by
  have h := shownAs_shown p
  rw [shown_eq (shown p), h.leadingSlashes, h.shownNames, ← shown_eq]

theorem intercalate_shownNames_sublist (p : Text) :
    (['/'].intercalate (shownNames p)).Sublist p := by
  have hparts : (shownNames p).Sublist (parts p) :=
    List.filter_sublist.trans List.filter_sublist
  have h := intercalate_sublist ['/'] hparts
  rwa [parts, intercalate_partsAt] at h

theorem exists_mem_names (hp : p ≠ []) (hrel : isAbsolute p = false) : ∃ n, n ∈ names p := by
  obtain ⟨c, rest, rfl⟩ := List.exists_cons_of_ne_nil hp
  have hc : c ≠ '/' := by simpa [Path.isAbsolute] using hrel
  obtain ⟨first, more, hparts⟩ := List.exists_cons_of_ne_nil (partsAt_ne_nil '/' rest)
  refine ⟨c :: first, List.mem_filter.mpr ⟨?_, by simp⟩⟩
  rw [parts, partsAt, if_neg hc, hparts]
  simp

theorem eq_slash_of_names_eq_nil (h : names p = []) : ∀ c ∈ p, c = '/' := by
  induction p with
  | nil => simp
  | cons c p ih =>
    cases habs : Path.isAbsolute (c :: p) with
    | false =>
      obtain ⟨n, hn⟩ := exists_mem_names (List.cons_ne_nil c p) habs
      rw [h] at hn
      cases hn
    | true =>
      obtain ⟨rest, heq⟩ := isAbsolute_iff.mp habs
      cases heq
      rw [names_cons_slash] at h
      exact List.forall_mem_cons.mpr ⟨rfl, ih h⟩

theorem ShownAs.sublist (h : ShownAs p q) (hp : p ≠ []) : q.Sublist p := by
  cases h with
  | here relative none =>
    obtain ⟨n, hn⟩ := exists_mem_names hp relative
    have hdot : n = ['.'] := by simpa using List.filter_eq_nil_iff.mp none n hn
    subst hdot
    exact sublist_of_mem_partsAt (List.mem_filter.mp hn).1
  | names relative some => exact intercalate_shownNames_sublist p
  | rooted absolute front count =>
    obtain ⟨rest, rfl⟩ := isAbsolute_iff.mp absolute
    rw [shownNames_cons_slash]
    rcases count with rfl | rfl
    · exact (intercalate_shownNames_sublist rest).cons_cons '/'
    · cases rest with
      | nil => cases front
      | cons c rest =>
        have hc : c = '/' := Decidable.byContradiction fun hc => by
          simp [Path.leadingSlashes, hc] at front
        subst hc
        rw [shownNames_cons_slash]
        exact ((intercalate_shownNames_sublist rest).cons_cons '/').cons_cons '/'

end Path

namespace Disk

theorem octetLength_le_of_sublist {a b : Text} (h : a.Sublist b) :
    octetLength a ≤ octetLength b := by
  induction h with
  | slnil => exact Nat.le_refl _
  | cons c h ih =>
    simp only [octetLength, Utf8.encode, List.flatMap_cons, List.length_append] at ih ⊢
    omega
  | cons_cons c h ih =>
    simp only [octetLength, Utf8.encode, List.flatMap_cons, List.length_append] at ih ⊢
    omega

theorem steps_ne_nil {p : Text} (hp : p ≠ []) : steps p ≠ [] := by
  intro h
  obtain ⟨hnames, hlast⟩ := List.append_eq_nil_iff.mp h
  have hslash : p.getLast hp = '/' :=
    Path.eq_slash_of_names_eq_nil hnames _ (List.getLast_mem hp)
  rw [List.getLast?_eq_some_getLast hp, hslash, if_pos rfl] at hlast
  cases hlast

theorem steps_filter (p : Text) : (steps p).filter (· ≠ ['.']) = Path.shownNames p := by
  rw [steps, List.filter_append, Path.shownNames]
  split <;> simp

theorem steps_of_shownNames {slashes : Text}
    (hs : slashes = [] ∨ slashes = ['/'] ∨ slashes = ['/', '/']) {ns : List Text}
    (hns : ∀ n ∈ ns, Path.IsPart n) (hne : ns ≠ []) :
    steps (slashes ++ ['/'].intercalate ns) = ns := by
  have hnames : Path.names (slashes ++ ['/'].intercalate ns) = ns := by
    rcases hs with rfl | hs
    · exact Path.names_intercalate hns
    · exact Path.names_slashed hs hns
  rw [steps, hnames, if_neg (Path.intercalate_last_ne_slash hns hne slashes), List.append_nil]

theorem steps_undotted {p q : Text} (hp : p ≠ []) (h : Path.ShownAs p q) :
    Undotted (steps p) (steps q) := by
  have hnames : Undotted (steps p) (Path.shownNames p) := steps_filter p ▸ undotted_filter _
  have hdots : Path.shownNames p = [] → Undotted (steps p) [['.']] := by
    intro hnone
    refine undotted_dots (steps_ne_nil hp) fun n hn => ?_
    rw [← steps_filter] at hnone
    simpa using List.filter_eq_nil_iff.mp hnone n hn
  cases h with
  | here relative none => exact hdots none
  | names relative some =>
    have hsteps := steps_of_shownNames (Or.inl rfl)
      (fun n hn => Path.isPart_of_mem_shownNames hn) some
    rw [List.nil_append] at hsteps
    rwa [hsteps]
  | rooted absolute front count =>
    by_cases hnone : Path.shownNames p = []
    · rw [hnone]
      rcases count with rfl | rfl
      · exact hdots hnone
      · exact hdots hnone
    · rw [steps_of_shownNames (Or.inr count) (fun n hn => Path.isPart_of_mem_shownNames hn) hnone]
      exact hnames

theorem status_shown {d : Disk} {p : Text} {e : Entry} (h : d.status p = .ok e) :
    d.status (Path.shown p) = .ok e := by
  obtain ⟨place, hlocate⟩ := status_eq_ok.mp h
  obtain ⟨hnul, hp, hlong, hfollow⟩ := locate_eq_ok.mp hlocate
  have hshown := Path.shownAs_shown p
  have hsub := hshown.sublist hp
  have hstart : d.start (Path.shown p) = d.start p := by
    rw [start, start, hshown.isAbsolute]
  refine status_eq_ok.mpr ⟨place, locate_eq_ok.mpr ⟨fun held => hnul (hsub.subset held),
    hshown.ne_nil, Nat.le_trans (octetLength_le_of_sublist hsub) hlong, ?_⟩⟩
  rw [hstart]
  exact follow_of_undotted (steps_undotted hp hshown) hfollow

end Disk

end SitePreview
