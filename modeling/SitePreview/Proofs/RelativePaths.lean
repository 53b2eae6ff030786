import Mathlib
import SitePreview.Proofs.LetterCase
import SitePreview.Workspace.Locate

namespace SitePreview

namespace Path

/-- A path is a directory or lies in it: after the same slashes it begins with the directory's names. -/
def LiesIn (directory p : Text) : Prop :=
  leadingSlashes p = leadingSlashes directory ∧ names directory <+: names p

instance (directory p : Text) : Decidable (LiesIn directory p) := inferInstanceAs (Decidable (_ ∧ _))

variable {cwd p way slashes : Text} {ns : List Text}

section Slashed

theorem IsPart.lower {n : Text} (h : IsPart n) : IsPart n.lower :=
  ⟨mt Text.lower_eq_nil.mp h.filled, Text.slash_not_mem_lower h.unslashed⟩

theorem lower_intercalate (ns : List Text) :
    Text.lower (['/'].intercalate ns) = ['/'].intercalate (ns.map Text.lower) := by
  induction ns with
  | nil => rfl
  | cons n ns ih =>
    by_cases hns : ns = []
    · simp [hns]
    · rw [List.intercalate_cons_of_ne_nil hns, List.map_cons,
        List.intercalate_cons_of_ne_nil (by simpa using hns), ← ih]
      simp [Text.lower_append_slash]

theorem lower_slashed (hs : slashes = ['/'] ∨ slashes = ['/', '/']) (ns : List Text) :
    Text.lower (slashes ++ ['/'].intercalate ns) = slashes ++ ['/'].intercalate (ns.map Text.lower) := by
  have hfront (s : Text) : Text.lower ('/' :: s) = '/' :: s.lower := Text.lower_append_slash [] s
  rcases hs with rfl | rfl <;> simp [hfront, lower_intercalate]

end Slashed

theorem isAbsolute_join_of_relative (p : Text) (hway : isAbsolute way = false) :
    isAbsolute (join p way) = isAbsolute p := by
  rw [join_of_not_absolute hway]
  cases p with
  | nil => exact hway
  | cons c p => split <;> rfl

theorem normalize_of_isAbsolute (h : isAbsolute p = true) :
    normalize p = leadingSlashes p ++ ['/'].intercalate (collapse true (names p)) := by
  simp [normalize, h, leadingSlashes_ne_nil h, collapse_names]

theorem isPart_collapse (p : Text) : ∀ n ∈ collapse true (names p), IsPart n := fun n hn =>
  (collapse_isName (fun _ hq => (isPart_of_mem_names hq).unslashed) n hn).isPart

theorem leadingSlashes_normalize (h : isAbsolute p = true) :
    leadingSlashes (normalize p) = leadingSlashes p := by
  rw [normalize_of_isAbsolute h]
  exact leadingSlashes_slashed (leadingSlashes_of_isAbsolute h) (isPart_collapse p)

theorem names_normalize (h : isAbsolute p = true) : names (normalize p) = collapse true (names p) := by
  rw [normalize_of_isAbsolute h]
  exact names_slashed (leadingSlashes_of_isAbsolute h) (isPart_collapse p)

/-- The path that is normalized for a path read from a working directory. -/
def rooted (cwd p : Text) : Text := if isAbsolute p then p else join cwd p

theorem isAbsolute_rooted (hcwd : isAbsolute cwd = true) (p : Text) : isAbsolute (rooted cwd p) = true := by
  unfold rooted
  split
  next hp => exact hp
  next => exact isAbsolute_join hcwd p

/-- A way that is joined to a path before that is read from a working directory may be joined after it. -/
theorem rooted_join (cwd p : Text) (hway : isAbsolute way = false) :
    names (rooted cwd (join p way)) = names (rooted cwd p) ++ names way := by
  cases hp : isAbsolute p with
  | true => simp [rooted, isAbsolute_join_of_relative p hway, hp, names_join hway]
  | false =>
    have hjoined : isAbsolute (join p way) = false := (isAbsolute_join_of_relative p hway).trans hp
    simp [rooted, hp, hjoined, names_join hway, names_join hp, names_join hjoined]

theorem leadingSlashes_rooted_join (hcwd : isAbsolute cwd = true) (p : Text) (hway : isAbsolute way = false) :
    leadingSlashes (rooted cwd (join p way)) = leadingSlashes (rooted cwd p) := by
  cases hp : isAbsolute p with
  | true => simp [rooted, isAbsolute_join_of_relative p hway, hp, leadingSlashes_join hp hway]
  | false =>
    have hjoined : isAbsolute (join p way) = false := (isAbsolute_join_of_relative p hway).trans hp
    simp [rooted, hp, hjoined, leadingSlashes_join hcwd hp, leadingSlashes_join hcwd hjoined]

theorem leadingSlashes_absolute_join (hcwd : isAbsolute cwd = true) (p : Text)
    (hway : isAbsolute way = false) :
    leadingSlashes (absolute cwd (join p way)) = leadingSlashes (absolute cwd p) := by
  have hslashes (p : Text) : leadingSlashes (absolute cwd p) = leadingSlashes (rooted cwd p) :=
    leadingSlashes_normalize (isAbsolute_rooted hcwd p)
  rw [hslashes, hslashes, leadingSlashes_rooted_join hcwd p hway]

theorem names_absolute_join (hcwd : isAbsolute cwd = true) (p : Text) (hway : isAbsolute way = false) :
    names (absolute cwd (join p way)) =
      ((names way).foldl (collapseStep true) (names (absolute cwd p)).reverse).reverse := by
  have hnames (p : Text) : names (absolute cwd p) = collapse true (names (rooted cwd p)) :=
    names_normalize (isAbsolute_rooted hcwd p)
  rw [hnames, hnames, rooted_join cwd p hway, collapse, List.foldl_append, collapse, List.reverse_reverse]

theorem take_sharedLength (here there : List Text) :
    here.take (sharedLength here there) = there.take (sharedLength here there) := by
  induction here generalizing there with
  | nil => simp [sharedLength]
  | cons n here ih =>
    cases there with
    | nil => simp [sharedLength]
    | cons m there =>
      by_cases hsame : n = m
      · simp [sharedLength, hsame, ih there]
      · simp [sharedLength, hsame]

theorem sharedLength_le (here there : List Text) : sharedLength here there ≤ here.length := by
  induction here generalizing there with
  | nil => simp [sharedLength]
  | cons n here ih =>
    cases there with
    | nil => simp [sharedLength]
    | cons m there =>
      have hrest := ih there
      by_cases hsame : n = m
      · simpa [sharedLength, hsame] using hrest
      · simp [sharedLength, hsame]

theorem sharedLength_of_prefix {here there : List Text} (h : here <+: there) :
    sharedLength here there = here.length := by
  obtain ⟨rest, rfl⟩ := h
  induction here with
  | nil => simp [sharedLength]
  | cons n here ih => simp [sharedLength, ih]

/-- The parts of a way between two places: up as far as their names are not shared, and then down. -/
def wayParts (here there : List Text) : List Text :=
  List.replicate (here.length - sharedLength here there) oneUp ++ there.drop (sharedLength here there)

theorem relative_eq (cwd p directory : Text) :
    relative cwd p directory =
      match wayParts (names (absolute cwd directory)) (names (absolute cwd p)) with
      | [] => ['.']
      | way => ['/'].intercalate way := rfl

section Way

variable {here there : List Text}

theorem isPart_wayParts (hthere : ∀ n ∈ there, IsPart n) : ∀ n ∈ wayParts here there, IsPart n := by
  intro n hn
  rcases List.mem_append.mp hn with hup | hdown
  · rw [List.eq_of_mem_replicate hup]
    exact ⟨by decide, by decide⟩
  · exact hthere n (List.mem_of_mem_drop hdown)

theorem foldl_collapseStep_up (count : Nat) {stack : List Text} (h : ∀ n ∈ stack, IsName n) :
    (List.replicate count oneUp).foldl (collapseStep true) stack = stack.drop count := by
  induction count generalizing stack with
  | zero => rfl
  | succ count ih =>
    rw [List.replicate_succ, List.foldl_cons]
    cases stack with
    | nil => exact (@ih [] (List.forall_mem_nil _)).trans List.drop_nil
    | cons top stack =>
      have hstep : collapseStep true (top :: stack) oneUp = stack := by
        rw [collapseStep, if_neg (by decide), if_pos rfl]
        exact if_neg (h top (by simp)).notUp
      rw [hstep, ih fun n hn => h n (by simp [hn]), List.drop_succ_cons]

theorem foldl_wayParts (hhere : ∀ n ∈ here, IsName n) (hthere : ∀ n ∈ there, IsName n) :
    (wayParts here there).foldl (collapseStep true) here.reverse = there.reverse := by
  have hdown : ∀ n ∈ there.drop (sharedLength here there), IsName n :=
    fun n hn => hthere n (List.mem_of_mem_drop hn)
  have hbound := sharedLength_le here there
  rw [wayParts, List.foldl_append, foldl_collapseStep_up _ (by simpa using hhere),
    foldl_collapseStep_names hdown, List.drop_reverse, Nat.sub_sub_self hbound, take_sharedLength,
    ← List.reverse_append, List.take_append_drop]

theorem wayParts_of_prefix (h : here <+: there) : wayParts here there = there.drop here.length := by
  simp [wayParts, sharedLength_of_prefix h]

end Way

theorem isName_of_mem_names_absolute (hcwd : isAbsolute cwd = true) (p : Text) :
    ∀ n ∈ names (absolute cwd p), IsName n := (absolute_isNormal hcwd p).isName

/-- A relative path is the parts of the way, or a dot where there is no way to go. -/
theorem relative_cases (hcwd : isAbsolute cwd = true) (p directory : Text) :
    let way := wayParts (names (absolute cwd directory)) (names (absolute cwd p))
    isAbsolute (relative cwd p directory) = false ∧
      (names (relative cwd p directory) = way ∨
        way = [] ∧ names (relative cwd p directory) = [['.']]) := by
  intro way
  have hparts : ∀ n ∈ way, IsPart n :=
    isPart_wayParts fun n hn => (isName_of_mem_names_absolute hcwd p n hn).isPart
  rw [relative_eq]
  split
  next hway => exact ⟨rfl, .inr ⟨hway, rfl⟩⟩
  next => exact ⟨intercalate_not_absolute hparts, .inl (names_intercalate hparts)⟩

/-- A relative path leads from its directory to the names of its path. -/
theorem names_join_relative (hcwd : isAbsolute cwd = true) (p directory : Text) :
    names (absolute cwd (join directory (relative cwd p directory))) = names (absolute cwd p) := by
  obtain ⟨hrelative, hnames⟩ := relative_cases hcwd p directory
  have hlead := foldl_wayParts (isName_of_mem_names_absolute hcwd directory)
    (isName_of_mem_names_absolute hcwd p)
  rw [names_absolute_join hcwd directory hrelative]
  rcases hnames with hway | ⟨hnone, hdot⟩
  · rw [hway, hlead, List.reverse_reverse]
  · rw [hnone] at hlead
    rw [hdot]
    exact (congrArg List.reverse hlead).trans (List.reverse_reverse _)

theorem absolute_join_relative (hcwd : isAbsolute cwd = true) {p directory : Text}
    (hslashes : leadingSlashes (absolute cwd p) = leadingSlashes (absolute cwd directory)) :
    absolute cwd (join directory (relative cwd p directory)) = absolute cwd p := by
  have hrelative := (relative_cases hcwd p directory).1
  rw [(absolute_isNormal hcwd (join _ _)).eq_slashed, leadingSlashes_absolute_join hcwd _ hrelative,
    names_join_relative hcwd, ← hslashes, ← (absolute_isNormal hcwd p).eq_slashed]

/-- The way to a path that lies in the directory only goes down. -/
theorem oneUp_not_mem_relative (hcwd : isAbsolute cwd = true) {p directory : Text}
    (h : names (absolute cwd directory) <+: names (absolute cwd p)) :
    oneUp ∉ names (relative cwd p directory) := by
  rcases (relative_cases hcwd p directory).2 with hway | ⟨-, hdot⟩
  · rw [hway, wayParts_of_prefix h]
    exact fun hup => (isName_of_mem_names_absolute hcwd p _ (List.mem_of_mem_drop hup)).notUp rfl
  · rw [hdot]
    decide

theorem relative_absolute (hcwd : isAbsolute cwd = true) (p directory : Text) :
    relative cwd (absolute cwd p) (absolute cwd directory) = relative cwd p directory := by
  simp only [relative, absolute_of_isNormal (absolute_isNormal hcwd p),
    absolute_of_isNormal (absolute_isNormal hcwd directory)]

section LetterCase

variable {directory : Text}

theorem IsNormal.leadingSlashes_lower (h : IsNormal p) : leadingSlashes p.lower = leadingSlashes p := by
  obtain ⟨slashes, ns, hs, hns, rfl⟩ := h
  have hparts (n : Text) (hn : n ∈ ns) : IsPart n := (hns n hn).isPart
  rw [lower_slashed hs, leadingSlashes_slashed hs hparts, leadingSlashes_slashed hs]
  simpa using fun n hn => (hparts n hn).lower

theorem IsNormal.lower_eq (h : IsNormal p) :
    p.lower = leadingSlashes p ++ ['/'].intercalate (names p.lower) := by
  rw [names_lower, ← lower_slashed (leadingSlashes_of_isAbsolute h.isAbsolute), ← h.eq_slashed]

theorem isPart_names_lower (p : Text) : ∀ n ∈ names p.lower, IsPart n := fun _ hn => isPart_of_mem_names hn

theorem LiesIn.lower (hdirectory : IsNormal directory) (hp : IsNormal p) (h : LiesIn directory p) :
    LiesIn directory.lower p.lower := by
  obtain ⟨hslashes, hnames⟩ := h
  refine ⟨?_, ?_⟩
  · rw [hp.leadingSlashes_lower, hdirectory.leadingSlashes_lower, hslashes]
  · rw [names_lower, names_lower]
    exact hnames.map Text.lower

theorem liesBelow_of_top (hdirectory : IsNormal directory) (hp : IsNormal p) (htop : names directory = []) :
    liesBelow directory p = true := by
  have hslashes := leadingSlashes_of_isAbsolute hdirectory.isAbsolute
  have hfront := leadingSlashes_of_isAbsolute hp.isAbsolute
  rw [liesBelow, hdirectory.lower_eq, hp.lower_eq, names_lower, htop]
  rcases hslashes with h | h <;> rcases hfront with h' | h' <;> simp [h, h']

theorem liesBelow_iff (hdirectory : IsNormal directory) (hne : names directory ≠ []) :
    liesBelow directory p = true ↔ directory.lower ++ ['/'] <+: p.lower := by
  have hfilled : names directory.lower ≠ [] := by simpa [names_lower] using hne
  obtain ⟨front, n, hn, hfront⟩ := intercalate_ends_with_part (isPart_names_lower directory) hfilled
  have hends : directory.lower = leadingSlashes directory ++ front ++ n := by
    rw [hdirectory.lower_eq, hfront, List.append_assoc]
  rw [liesBelow, List.isPrefixOf_iff_prefix, hends, dropWhile_slash_of_part _ hn]

/-- What lies in a directory, letter case left out, is that directory or is found below it. -/
theorem LiesIn.lower_eq_or_liesBelow (hdirectory : IsNormal directory) (hp : IsNormal p)
    (h : LiesIn directory.lower p.lower) : p.lower = directory.lower ∨ liesBelow directory p = true := by
  obtain ⟨hslashes, rest, hrest⟩ := h
  rw [hp.leadingSlashes_lower, hdirectory.leadingSlashes_lower] at hslashes
  have hfile : p.lower = leadingSlashes directory ++ ['/'].intercalate (names directory.lower ++ rest) := by
    rw [hrest, ← hslashes, ← hp.lower_eq]
  by_cases htop : names directory = []
  · exact .inr (liesBelow_of_top hdirectory hp htop)
  · by_cases hnone : rest = []
    · left
      rw [hfile, hnone, List.append_nil, ← hdirectory.lower_eq]
    · right
      rw [liesBelow_iff hdirectory htop, hfile, intercalate_append (by simpa [names_lower] using htop) hnone,
        ← List.append_assoc, ← hdirectory.lower_eq]
      exact ⟨['/'].intercalate rest, by simp⟩

/-- What is found below a directory begins with the same slashes, unless the directory is the top. -/
theorem leadingSlashes_of_liesBelow (hdirectory : IsNormal directory) (hp : IsNormal p)
    (h : liesBelow directory p = true) :
    names directory = [] ∨ leadingSlashes p = leadingSlashes directory := by
  by_cases htop : names directory = []
  · exact .inl htop
  · right
    obtain ⟨rest, hrest⟩ := (liesBelow_iff hdirectory htop).mp h
    have hfilled : names directory.lower ≠ [] := by simpa [names_lower] using htop
    have hhead : (['/'].intercalate (names directory.lower) ++ '/' :: rest).head? ≠ some '/' := by
      rw [List.head?_append_of_ne_nil _ (intercalate_ne_nil (isPart_names_lower directory) hfilled)]
      exact intercalate_head_ne_slash (isPart_names_lower directory)
    have hlead := leadingSlashes_append (leadingSlashes_of_isAbsolute hdirectory.isAbsolute) hhead
    rw [← List.append_assoc, ← hdirectory.lower_eq] at hlead
    rw [← hp.leadingSlashes_lower, ← hrest, List.append_assoc, List.singleton_append, hlead]

end LetterCase

end Path

section Workspace

variable {cwd full shown root : Text}

/-- What is shown for a path from a workspace: a dot for the workspace itself, the way to a path below it,
and any other path as it stands. -/
inductive ShownFrom (cwd root full : Text) : Text → Prop
  | empty : full = [] → ShownFrom cwd root full full
  | home : (Path.absolute cwd full).lower = (Path.absolute cwd root).lower → ShownFrom cwd root full ['.']
  | below : liesBelow (Path.absolute cwd root) (Path.absolute cwd full) = true →
      ShownFrom cwd root full (Path.relative cwd full root)
  | elsewhere : (Path.absolute cwd full).lower ≠ (Path.absolute cwd root).lower →
      liesBelow (Path.absolute cwd root) (Path.absolute cwd full) ≠ true → ShownFrom cwd root full full

theorem shownFrom_workspaceRelative (hcwd : Path.isAbsolute cwd = true) (path : Text) (hroot : root ≠ []) :
    ShownFrom cwd root path.trim (workspaceRelative cwd path (some root)) := by
  obtain ⟨w, ws, rfl⟩ := List.exists_cons_of_ne_nil hroot
  unfold workspaceRelative
  simp only
  split
  next c cs w ws hfull hsome =>
    cases hsome
    rw [hfull]
    split
    next hhome => exact .home hhome
    next hnot =>
      split
      next hbelow =>
        rw [Path.relative_absolute hcwd]
        exact .below hbelow
      next hout => exact .elsewhere hnot hout
  next hother =>
    cases hfull : path.trim with
    | nil => exact .empty rfl
    | cons c cs => exact absurd rfl (hother c cs w ws hfull)

/-- What is shown for a path is that path, where it is empty or does not lie in the workspace, or a way
that only goes down and leads from the workspace back to it. -/
def LeadsBack (cwd root full shown : Text) : Prop :=
  (shown = full ∧ (full = [] ∨ ¬Path.LiesIn (Path.absolute cwd root) (Path.absolute cwd full))) ∨
    (Path.isAbsolute shown = false ∧ Path.oneUp ∉ Path.names shown ∧
      Path.absolute cwd (Path.join root shown) = Path.absolute cwd full)

instance (cwd root full shown : Text) : Decidable (LeadsBack cwd root full shown) :=
  inferInstanceAs (Decidable (_ ∨ _))

theorem absolute_join_dot (hcwd : Path.isAbsolute cwd = true) (root : Text) :
    Path.absolute cwd (Path.join root ['.']) = Path.absolute cwd root := by
  have hnames : Path.names (Path.absolute cwd (Path.join root ['.'])) = Path.names (Path.absolute cwd root) :=
    (Path.names_absolute_join hcwd root rfl).trans (List.reverse_reverse _)
  rw [(Path.absolute_isNormal hcwd (Path.join root ['.'])).eq_slashed,
    Path.leadingSlashes_absolute_join hcwd root rfl, hnames, ← (Path.absolute_isNormal hcwd root).eq_slashed]

/-- What is shown for a path is that path, where it is empty or does not lie in the workspace even when
letter case is left out; or it leads from the workspace back to it, and only down if it lies there. A dot
may stand for another spelling of the workspace, and seen from the top two leading slashes are not told
from one. -/
theorem workspaceRelative_leads_back (hcwd : Path.isAbsolute cwd = true) (path : Text) (hroot : root ≠ []) :
    let full := path.trim
    let home := Path.absolute cwd root
    let file := Path.absolute cwd full
    let shown := workspaceRelative cwd path (some root)
    let back := Path.absolute cwd (Path.join root shown)
    (shown = full ∧
      (full = [] ∨ ¬Path.LiesIn home file ∧ ¬Path.LiesIn home.lower file.lower)) ∨
    (Path.isAbsolute shown = false ∧
      (Path.LiesIn home file → Path.oneUp ∉ Path.names shown) ∧
      (back = file ∨
        shown = ['.'] ∧ back = home ∧ file.lower = home.lower ∨
        Path.names home = [] ∧ Path.names back = Path.names file)) := by
  intro full home file shown back
  have hhome : Path.IsNormal home := Path.absolute_isNormal hcwd root
  have hfile : Path.IsNormal file := Path.absolute_isNormal hcwd full
  have hcases : ShownFrom cwd root full shown := shownFrom_workspaceRelative hcwd path hroot
  clear_value shown full
  cases hcases with
  | empty hempty => exact .inl ⟨rfl, .inl hempty⟩
  | home hsame =>
    exact .inr ⟨rfl, fun _ => by decide, .inr (.inl ⟨rfl, absolute_join_dot hcwd root, hsame⟩)⟩
  | below hbelow =>
    refine .inr ⟨(Path.relative_cases hcwd full root).1,
      fun hlies => Path.oneUp_not_mem_relative hcwd hlies.2, ?_⟩
    rcases Path.leadingSlashes_of_liesBelow hhome hfile hbelow with htop | hslashes
    · exact .inr (.inr ⟨htop, Path.names_join_relative hcwd full root⟩)
    · exact .inl (Path.absolute_join_relative hcwd hslashes)
  | elsewhere hnot hout =>
    have hcaseless : ¬Path.LiesIn home.lower file.lower := fun hlies =>
      (hlies.lower_eq_or_liesBelow hhome hfile).elim hnot hout
    exact .inl ⟨rfl, .inr ⟨fun hlies => hcaseless (hlies.lower hhome hfile), hcaseless⟩⟩

theorem workspaceRelative_leads_back_detour :
    let cwd := "/srv".toList
    let root := "./ws/../site/".toList
    let path : Text := " site//a/../b.conf\n".toList
    let home := "/srv/site".toList
    let file := "/srv/site/b.conf".toList
    Path.isAbsolute cwd = true ∧ root ≠ [] ∧
      Path.absolute cwd root = home ∧ Path.absolute cwd (Text.trim path) = file ∧
      workspaceRelative cwd path (some root) = "b.conf".toList ∧
      Path.LiesIn home file ∧ Path.oneUp ∉ Path.names "b.conf".toList ∧
      Path.absolute cwd (Path.join root "b.conf".toList) = file := by
  intro cwd root path home file
  have hcwd : Path.isAbsolute cwd = true := by decide
  have hroot : root ≠ [] := by decide
  have hhome : Path.absolute cwd root = home := by decide +kernel
  have hfile : Path.absolute cwd (Text.trim path) = file := by decide +kernel
  have hshown : workspaceRelative cwd path (some root) = "b.conf".toList := by decide +kernel
  have hlies : Path.LiesIn home file := by decide +kernel
  have hback := workspaceRelative_leads_back hcwd path hroot
  simp only [hhome, hfile, hshown] at hback
  rcases hback with ⟨hsame, -⟩ | ⟨-, hdown, hfound | ⟨hdot, -⟩ | ⟨htop, -⟩⟩
  · exact absurd hsame (by decide +kernel)
  · exact ⟨hcwd, hroot, hhome, hfile, hshown, hlies, hdown hlies, hfound⟩
  · exact absurd hdot (by decide)
  · exact absurd htop (by decide +kernel)

/-- Paths that letter case alone tells from the workspace or from paths in it, and two leading slashes. -/
theorem workspaceRelative_strays :
    ¬LeadsBack ['/'] "/ws".toList (Text.trim "/WS".toList)
      (workspaceRelative ['/'] "/WS".toList (some "/ws".toList)) ∧
    ¬LeadsBack ['/'] "/ws".toList (Text.trim "/WS/a".toList)
      (workspaceRelative ['/'] "/WS/a".toList (some "/ws".toList)) ∧
    ¬LeadsBack ['/'] ['/'] (Text.trim "//a".toList)
      (workspaceRelative ['/'] "//a".toList (some ['/'])) := by
  decide +kernel

end Workspace

end SitePreview
