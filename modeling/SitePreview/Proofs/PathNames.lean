import SitePreview.Files.Path

namespace SitePreview

theorem intercalate_partsAt {α : Type} [DecidableEq α] (sep : α) (xs : List α) :
    [sep].intercalate (partsAt sep xs) = xs := by
  rw [partsAt_eq_splitOn, List.intercalate_splitOn]

theorem intercalate_sublist {α : Type} (sep : List α) {ms ns : List (List α)}
    (h : ms.Sublist ns) : (sep.intercalate ms).Sublist (sep.intercalate ns) := by
  induction h with
  | slnil => exact List.Sublist.refl _
  | @cons ms ns n h ih =>
    by_cases hns : ns = []
    · subst hns
      simp [List.sublist_nil.mp h]
    · rw [List.intercalate_cons_of_ne_nil hns]
      exact ih.trans (List.sublist_append_right _ _)
  | @cons_cons ms ns n h ih =>
    by_cases hms : ms = []
    · subst hms
      by_cases hns : ns = []
      · subst hns
        exact List.Sublist.refl _
      · rw [List.intercalate_cons_of_ne_nil hns, List.intercalate_singleton, List.append_assoc]
        exact List.sublist_append_left _ _
    · have hns : ns ≠ [] := fun hnil => hms (List.sublist_nil.mp (hnil ▸ h))
      rw [List.intercalate_cons_of_ne_nil hms, List.intercalate_cons_of_ne_nil hns]
      exact (List.Sublist.refl _).append ih

theorem sublist_of_mem_partsAt {α : Type} [DecidableEq α] {sep : α} {xs part : List α}
    (h : part ∈ partsAt sep xs) : part.Sublist xs := by
  have hpart := intercalate_sublist [sep] (List.singleton_sublist.mpr h)
  rwa [List.intercalate_singleton, intercalate_partsAt] at hpart

namespace Path

/-- A name that a place can have: neither empty nor a dot name, and without a slash. -/
structure IsName (n : Text) : Prop where
  filled : n ≠ []
  unslashed : '/' ∉ n
  notHere : n ≠ ['.']
  notUp : n ≠ oneUp

/-- A text that stands between slashes. -/
structure IsPart (n : Text) : Prop where
  filled : n ≠ []
  unslashed : '/' ∉ n

theorem IsName.isPart {n : Text} (h : IsName n) : IsPart n := ⟨h.filled, h.unslashed⟩

theorem isPart_of_mem_names {p n : Text} (h : n ∈ names p) : IsPart n := by
  obtain ⟨hpart, hfilled⟩ := List.mem_filter.mp h
  exact ⟨by simpa using hfilled, not_mem_of_mem_partsAt hpart⟩

theorem names_append_slash (a b : Text) : names (a ++ '/' :: b) = names a ++ names b := by
  rw [names, parts, partsAt_append_cons, List.filter_append]
  rfl

theorem names_cons_slash (p : Text) : names ('/' :: p) = names p :=
  names_append_slash [] p

theorem names_intercalate {ns : List Text} (h : ∀ n ∈ ns, IsPart n) :
    names (['/'].intercalate ns) = ns := by
  by_cases hns : ns = []
  · subst hns
    rfl
  · rw [names, parts, partsAt_intercalate (fun n hn => (h n hn).unslashed) hns]
    exact List.filter_eq_self.mpr fun n hn => by simpa using (h n hn).filled

theorem names_ofNames {ns : List Text} (h : ∀ n ∈ ns, IsPart n) :
    names (ofNames ns) = ns := by
  rw [ofNames, names_cons_slash, names_intercalate h]

theorem names_slashed {slashes : Text} (hs : slashes = ['/'] ∨ slashes = ['/', '/']) {ns : List Text}
    (h : ∀ n ∈ ns, IsPart n) : names (slashes ++ ['/'].intercalate ns) = ns := by
  have hnames := names_intercalate h
  rcases hs with rfl | rfl <;> simp [names_cons_slash, hnames]

theorem parts_ofNames {ns : List Text} (h : ∀ n ∈ ns, '/' ∉ n) :
    parts (ofNames ns) = [] :: if ns = [] then [[]] else ns := by
  have front : parts (ofNames ns) = [] :: parts (['/'].intercalate ns) :=
    partsAt_append_cons '/' [] _
  rw [front]
  split
  next hns => subst hns; rfl
  next hns => rw [parts, partsAt_intercalate h hns]

theorem isAbsolute_iff {p : Text} : isAbsolute p = true ↔ ∃ q, p = '/' :: q := by
  cases p with
  | nil => simp [isAbsolute]
  | cons c q =>
    constructor
    · intro h
      have hc : c = '/' := by simpa [isAbsolute] using h
      exact ⟨q, by rw [hc]⟩
    · rintro ⟨r, hr⟩
      rw [hr]
      rfl

theorem isAbsolute_ofNames (ns : List Text) : isAbsolute (ofNames ns) = true := rfl

theorem isAbsolute_append {p : Text} (h : isAbsolute p = true) (q : Text) :
    isAbsolute (p ++ q) = true := by
  obtain ⟨r, rfl⟩ := isAbsolute_iff.mp h
  rfl

theorem isAbsolute_join {p : Text} (h : isAbsolute p = true) (q : Text) :
    isAbsolute (join p q) = true := by
  unfold join
  split
  next hq => exact hq
  next =>
    split
    · exact isAbsolute_append h q
    · exact isAbsolute_append h ('/' :: q)

theorem collapseStep_isName {stack : List Text} (h : ∀ n ∈ stack, IsName n) {part : Text}
    (hp : '/' ∉ part) : ∀ n ∈ collapseStep true stack part, IsName n := by
  unfold collapseStep
  split
  next => exact h
  next hdot =>
    obtain ⟨hfilled, hhere⟩ := not_or.mp hdot
    split
    next hup =>
      cases stack with
      | nil => simp
      | cons top rest =>
        have htop : top ≠ oneUp := (h top (by simp)).notUp
        simpa [htop] using fun n hn => h n (by simp [hn])
    next hup =>
      intro n hn
      rcases List.mem_cons.mp hn with rfl | hn
      · exact ⟨hfilled, hp, hhere, hup⟩
      · exact h n hn

theorem foldl_collapseStep_isName {ps : List Text} (hps : ∀ p ∈ ps, '/' ∉ p) {stack : List Text}
    (h : ∀ n ∈ stack, IsName n) : ∀ n ∈ ps.foldl (collapseStep true) stack, IsName n := by
  induction ps generalizing stack with
  | nil => exact h
  | cons p ps ih =>
    exact ih (fun q hq => hps q (by simp [hq])) (collapseStep_isName h (hps p (by simp)))

theorem collapse_isName {ps : List Text} (hps : ∀ p ∈ ps, '/' ∉ p) :
    ∀ n ∈ collapse true ps, IsName n := by
  intro n hn
  exact foldl_collapseStep_isName hps (by simp) n (List.mem_reverse.mp hn)

theorem foldl_collapseStep_names {ns : List Text} (h : ∀ n ∈ ns, IsName n) (stack : List Text) :
    ns.foldl (collapseStep true) stack = ns.reverse ++ stack := by
  induction ns generalizing stack with
  | nil => rfl
  | cons n ns ih =>
    have hn := h n (by simp)
    have step : collapseStep true stack n = n :: stack := by
      simp [collapseStep, hn.filled, hn.notHere, hn.notUp]
    rw [List.foldl_cons, step, ih fun m hm => h m (by simp [hm])]
    simp

theorem collapse_nil_cons (rooted : Bool) (ps : List Text) :
    collapse rooted ([] :: ps) = collapse rooted ps := by
  simp [collapse, collapseStep]

theorem collapse_parts_intercalate {ns : List Text} (h : ∀ n ∈ ns, IsName n) :
    collapse true (parts (['/'].intercalate ns)) = ns := by
  by_cases hns : ns = []
  · subst hns
    rfl
  · rw [parts, partsAt_intercalate (fun n hn => (h n hn).unslashed) hns, collapse,
      foldl_collapseStep_names h]
    simp

/-- A path from the top that collapsing leaves as it is: one slash or two, and names. -/
def IsNormal (p : Text) : Prop :=
  ∃ slashes ns, (slashes = ['/'] ∨ slashes = ['/', '/']) ∧ (∀ n ∈ ns, IsName n) ∧
    p = slashes ++ ['/'].intercalate ns

theorem IsNormal.isAbsolute {p : Text} (h : IsNormal p) : isAbsolute p = true := by
  obtain ⟨slashes, ns, hs, _, rfl⟩ := h
  rcases hs with rfl | rfl <;> rfl

theorem IsNormal.isName {p : Text} (h : IsNormal p) : ∀ n ∈ names p, IsName n := by
  obtain ⟨slashes, ns, hs, hns, rfl⟩ := h
  rw [names_slashed hs fun n hn => (hns n hn).isPart]
  exact hns

theorem ofNames_isNormal {ns : List Text} (h : ∀ n ∈ ns, IsName n) : IsNormal (ofNames ns) :=
  ⟨['/'], ns, Or.inl rfl, h, rfl⟩

theorem leadingSlashes_of_isAbsolute {p : Text} (h : isAbsolute p = true) :
    leadingSlashes p = ['/'] ∨ leadingSlashes p = ['/', '/'] := by
  obtain ⟨q, rfl⟩ := isAbsolute_iff.mp h
  unfold leadingSlashes
  split <;> simp_all

theorem leadingSlashes_ne_nil {p : Text} (h : isAbsolute p = true) : leadingSlashes p ≠ [] := by
  rcases leadingSlashes_of_isAbsolute h with hs | hs <;> simp [hs]

theorem normalize_isNormal {p : Text} (h : isAbsolute p = true) : IsNormal (normalize p) := by
  refine ⟨leadingSlashes p, collapse true (parts p), leadingSlashes_of_isAbsolute h,
    collapse_isName fun q hq => not_mem_of_mem_partsAt hq, ?_⟩
  simp [normalize, h, leadingSlashes_ne_nil h]

theorem absolute_isNormal_of_rooted {p : Text} (h : isAbsolute p = true) (cwd : Text) :
    IsNormal (absolute cwd p) := by
  rw [absolute, if_pos h]
  exact normalize_isNormal h

theorem absolute_isNormal {cwd : Text} (hcwd : isAbsolute cwd = true) (p : Text) :
    IsNormal (absolute cwd p) := by
  unfold absolute
  split
  next hp => exact normalize_isNormal hp
  next => exact normalize_isNormal (isAbsolute_join hcwd p)

theorem intercalate_head_ne_slash {ns : List Text} (h : ∀ n ∈ ns, IsPart n) :
    (['/'].intercalate ns).head? ≠ some '/' := by
  cases ns with
  | nil => simp
  | cons n ns =>
    have hn := h n (by simp)
    obtain ⟨c, cs, rfl⟩ := List.exists_cons_of_ne_nil hn.filled
    have hc : c ≠ '/' := fun hc => hn.unslashed (by simp [hc])
    simp [hc]

theorem leadingSlashes_append {slashes p : Text} (hs : slashes = ['/'] ∨ slashes = ['/', '/'])
    (hp : p.head? ≠ some '/') : leadingSlashes (slashes ++ p) = slashes := by
  cases p with
  | nil => rcases hs with rfl | rfl <;> rfl
  | cons c cs =>
    have hc : c ≠ '/' := by simpa using hp
    rcases hs with rfl | rfl <;> simp [leadingSlashes, hc]

theorem leadingSlashes_slashed {slashes : Text} (hs : slashes = ['/'] ∨ slashes = ['/', '/'])
    {ns : List Text} (h : ∀ n ∈ ns, IsPart n) :
    leadingSlashes (slashes ++ ['/'].intercalate ns) = slashes :=
  leadingSlashes_append hs (intercalate_head_ne_slash h)

theorem IsNormal.eq_slashed {p : Text} (h : IsNormal p) :
    p = leadingSlashes p ++ ['/'].intercalate (names p) := by
  obtain ⟨slashes, ns, hs, hns, rfl⟩ := h
  have hparts (n : Text) (hn : n ∈ ns) : IsPart n := (hns n hn).isPart
  rw [leadingSlashes_slashed hs hparts, names_slashed hs hparts]

theorem normalize_of_isNormal {p : Text} (h : IsNormal p) : normalize p = p := by
  have habs := h.isAbsolute
  obtain ⟨slashes, ns, hs, hns, rfl⟩ := h
  have hlead := leadingSlashes_slashed hs fun n hn => (hns n hn).isPart
  have hcollapse : collapse true (parts (slashes ++ ['/'].intercalate ns)) = ns := by
    have inner := collapse_parts_intercalate hns
    rcases hs with rfl | rfl <;>
      simpa [parts, partsAt, collapse_nil_cons] using inner
  have hne : slashes ≠ [] := by rcases hs with rfl | rfl <;> simp
  simp [normalize, hlead, habs, hcollapse, hne]

theorem absolute_of_isNormal {p : Text} (h : IsNormal p) (cwd : Text) : absolute cwd p = p := by
  rw [absolute, if_pos h.isAbsolute, normalize_of_isNormal h]

/-- What stands before the last slash of a path, and the trailing slashes of that taken away. -/
theorem parent_append_slash {a n : Text} (hn : '/' ∉ n) :
    parent (a ++ '/' :: n) =
      if (a.reverse.dropWhile (· = '/')).reverse = [] then a ++ ['/']
      else (a.reverse.dropWhile (· = '/')).reverse := by
  have hname : ∀ c ∈ n.reverse, (decide (c ≠ '/')) = true := by
    intro c hc
    have : c ≠ '/' := fun h => hn (h ▸ List.mem_reverse.mp hc)
    simpa using this
  have hhead : ((a ++ '/' :: n).reverse.dropWhile (· ≠ '/')).reverse = a ++ ['/'] := by
    rw [List.reverse_append, List.reverse_cons, List.append_assoc,
      List.dropWhile_append_of_pos hname]
    simp
  rw [parent, hhead]
  simp

theorem intercalate_append {ns ms : List Text} (hns : ns ≠ []) (hms : ms ≠ []) :
    ['/'].intercalate (ns ++ ms) = ['/'].intercalate ns ++ '/' :: ['/'].intercalate ms := by
  induction ns with
  | nil => exact absurd rfl hns
  | cons n ns ih =>
    rw [List.cons_append, List.intercalate_cons_of_ne_nil (by simp [hms])]
    by_cases hempty : ns = []
    · simp [hempty]
    · rw [ih hempty, List.intercalate_cons_of_ne_nil hempty]
      simp

theorem intercalate_concat {ns : List Text} (h : ns ≠ []) (n : Text) :
    ['/'].intercalate (ns ++ [n]) = ['/'].intercalate ns ++ '/' :: n := by
  rw [intercalate_append h (by simp), List.intercalate_singleton]

theorem intercalate_ends_with_part {ns : List Text} (h : ∀ n ∈ ns, IsPart n) (hne : ns ≠ []) :
    ∃ front n, IsPart n ∧ ['/'].intercalate ns = front ++ n := by
  obtain ⟨ms, n, rfl⟩ := (List.eq_nil_or_concat ns).resolve_left hne
  by_cases hms : ms = []
  · exact ⟨[], n, h n (by simp), by simp [hms]⟩
  · exact ⟨['/'].intercalate ms ++ ['/'], n, h n (by simp), by simp [intercalate_concat hms]⟩

theorem intercalate_ne_nil {ns : List Text} (h : ∀ n ∈ ns, IsPart n) (hne : ns ≠ []) :
    ['/'].intercalate ns ≠ [] := by
  obtain ⟨front, n, hn, hfront⟩ := intercalate_ends_with_part h hne
  rw [hfront]
  exact List.append_ne_nil_of_right_ne_nil front hn.filled

theorem intercalate_last_ne_slash {ns : List Text} (h : ∀ n ∈ ns, IsPart n) (hne : ns ≠ [])
    (slashes : Text) : (slashes ++ ['/'].intercalate ns).getLast? ≠ some '/' := by
  obtain ⟨front, n, hn, hfront⟩ := intercalate_ends_with_part h hne
  obtain ⟨cs, c, rfl⟩ := (List.eq_nil_or_concat n).resolve_left hn.filled
  have hc : c ≠ '/' := fun hc => hn.unslashed (by simp [hc])
  rw [hfront, List.concat_eq_append, ← List.append_assoc, ← List.append_assoc]
  simp [hc]

theorem dropWhile_slash_of_part (front : Text) {n : Text} (hn : IsPart n) :
    ((front ++ n).reverse.dropWhile (· = '/')).reverse = front ++ n := by
  obtain ⟨cs, c, rfl⟩ := (List.eq_nil_or_concat n).resolve_left hn.filled
  have hc : c ≠ '/' := fun hc => hn.unslashed (by simp [hc])
  simp [hc]

theorem parent_isNormal {p : Text} (h : IsNormal p) : IsNormal (parent p) := by
  obtain ⟨slashes, ns, hs, hns, rfl⟩ := h
  rcases List.eq_nil_or_concat ns with rfl | ⟨ms, n, rfl⟩
  · refine ⟨slashes, [], hs, by simp, ?_⟩
    rcases hs with rfl | rfl <;> rfl
  · have hn := (hns n (by simp)).unslashed
    have hms : ∀ m ∈ ms, IsName m := fun m hm => hns m (by simp [hm])
    refine ⟨slashes, ms, hs, hms, ?_⟩
    by_cases hempty : ms = []
    · have above : ∀ a, parent (a ++ '/' :: n) = _ := fun a => parent_append_slash hn
      subst hempty
      rcases hs with rfl | rfl
      · simpa using above []
      · simpa using above ['/']
    · obtain ⟨front, m, hm, hfront⟩ :=
        intercalate_ends_with_part (fun m hm => (hms m hm).isPart) hempty
      have kept := dropWhile_slash_of_part (slashes ++ front) hm
      rw [List.append_assoc, ← hfront] at kept
      have hne : slashes ++ ['/'].intercalate ms ≠ [] := by
        rcases hs with rfl | rfl <;> simp
      rw [List.concat_eq_append, intercalate_concat hempty, ← List.append_assoc,
        parent_append_slash hn, kept, if_neg hne]

theorem intercalate_not_absolute {ns : List Text} (h : ∀ n ∈ ns, IsPart n) :
    isAbsolute (['/'].intercalate ns) = false := by
  simpa [isAbsolute] using intercalate_head_ne_slash h

theorem IsPart.not_absolute {n : Text} (h : IsPart n) : isAbsolute n = false := by
  simpa using @intercalate_not_absolute [n] (by simpa)

theorem IsPart.names {n : Text} (h : IsPart n) : names n = [n] := by
  simpa using @names_intercalate [n] (by simpa using h)

theorem join_of_not_absolute {p q : Text} (hq : isAbsolute q = false) :
    join p q = if p = [] ∨ p.getLast? = some '/' then p ++ q else p ++ '/' :: q := by
  rw [join, if_neg (by simp [hq])]

theorem names_join {p q : Text} (hq : isAbsolute q = false) :
    names (join p q) = names p ++ names q := by
  rw [join_of_not_absolute hq]
  split
  next hends =>
    rcases hends with rfl | hlast
    · rfl
    · obtain ⟨front, rfl⟩ := List.getLast?_eq_some_iff.mp hlast
      rw [List.append_assoc, List.singleton_append, names_append_slash, names_append_slash]
      simp [names, parts, partsAt]
  next => rw [names_append_slash]

theorem leadingSlashes_join {p q : Text} (hp : isAbsolute p = true) (hq : isAbsolute q = false) :
    leadingSlashes (join p q) = leadingSlashes p := by
  have hhead : q.head? ≠ some '/' := by simpa [isAbsolute] using hq
  obtain ⟨rest, rfl⟩ := isAbsolute_iff.mp hp
  rw [join_of_not_absolute hq]
  match rest with
  | [] => exact leadingSlashes_append (Or.inl rfl) hhead
  | [c] =>
    by_cases hc : c = '/'
    · subst hc
      exact leadingSlashes_append (Or.inr rfl) hhead
    · simp [leadingSlashes, hc]
  | c :: d :: rest =>
    split
    · by_cases hc : c = '/' <;> by_cases hd : d = '/' <;> simp [leadingSlashes, hc, hd]
    · by_cases hc : c = '/' <;> by_cases hd : d = '/' <;> simp [leadingSlashes, hc, hd]

theorem foldl_collapseStep_filter (rooted : Bool) (ps stack : List Text) :
    (ps.filter (· ≠ [])).foldl (collapseStep rooted) stack =
      ps.foldl (collapseStep rooted) stack := by
  induction ps generalizing stack with
  | nil => rfl
  | cons p ps ih =>
    by_cases hp : p = []
    · subst hp
      simpa [collapseStep] using ih stack
    · simpa [hp] using ih (collapseStep rooted stack p)

theorem collapse_names (rooted : Bool) (p : Text) :
    collapse rooted (names p) = collapse rooted (parts p) := by
  rw [collapse, names, foldl_collapseStep_filter, collapse]

/-- Names at the end of a path are kept by normalizing. -/
theorem normalize_join_intercalate {p : Text} (hp : isAbsolute p = true) {ns : List Text}
    (hns : ∀ n ∈ ns, IsName n) :
    normalize (join p (['/'].intercalate ns)) =
      leadingSlashes p ++ ['/'].intercalate (collapse true (names p) ++ ns) := by
  have hrel := intercalate_not_absolute fun n hn => (hns n hn).isPart
  have hnames : names (['/'].intercalate ns) = ns :=
    names_intercalate fun n hn => (hns n hn).isPart
  have hcollapse : collapse true (parts (join p (['/'].intercalate ns))) =
      collapse true (names p) ++ ns := by
    rw [← collapse_names, names_join hrel, hnames, collapse, List.foldl_append,
      foldl_collapseStep_names hns, collapse]
    simp
  simp [normalize, leadingSlashes_join hp hrel, isAbsolute_join hp, hcollapse, leadingSlashes_ne_nil hp]

theorem join_name_of_names {slashes : Text} (hs : slashes = ['/'] ∨ slashes = ['/', '/'])
    {ns : List Text} (hns : ∀ n ∈ ns, IsPart n) {n : Text} (hn : IsPart n) :
    join (slashes ++ ['/'].intercalate ns) n = slashes ++ ['/'].intercalate (ns ++ [n]) := by
  rw [join_of_not_absolute hn.not_absolute]
  by_cases hempty : ns = []
  · subst hempty
    rcases hs with rfl | rfl <;> simp
  · have hfilled : slashes ++ ['/'].intercalate ns ≠ [] := by rcases hs with rfl | rfl <;> simp
    rw [if_neg (not_or.mpr ⟨hfilled, intercalate_last_ne_slash hns hempty slashes⟩),
      intercalate_concat hempty, List.append_assoc]

end Path

end SitePreview
