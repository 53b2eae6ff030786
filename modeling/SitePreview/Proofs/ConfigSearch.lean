import Mathlib
import SitePreview.Proofs.LocatedConfig
import SitePreview.Serving.SafeJoin

namespace SitePreview

/-- A tree in which each directory gives different names to its entries. -/
inductive Entry.IsProper : Entry → Prop
  | file (content : Bytes) : IsProper (.file content)
  | link (target : Text) : IsProper (.link target)
  | pipe : IsProper .pipe
  | directory {entries : List (Text × Entry)} (isName : ∀ c ∈ entries, Path.IsName c.1)
    (nodup : (entries.map Prod.fst).Nodup) (below : ∀ c ∈ entries, IsProper c.2) :
    IsProper (.directory entries)

/-- Names lead from an entry to a directory with a configuration that neither is a directory nor links
to one, through directories that are no links and have no excluded names. -/
structure HoldsConfig (d : Disk) (path : Text) (e : Entry) (ns : List Text) : Prop where
  held : ∃ entries c, e.at? ns = some (.directory entries) ∧ entries.lookup configName = some c ∧
    Walk.leadsToDirectory d (Path.join (joinSegments path ns) configName) c = false
  included : ∀ n ∈ ns, n ∉ excludedNames

/-- The path through some names is not too long to be looked up. -/
def IsWalkable (path : Text) (ns : List Text) : Prop :=
  Disk.octetLength (joinSegments path ns) ≤ Disk.longestPath

/-- The configuration in the directory to which names lead, as it is shown. -/
def configPath (path : Text) (ns : List Text) : Text :=
  Path.shown (Path.join (joinSegments path ns) configName)

section Trees

variable {e c : Entry} {entries : List (Text × Entry)} {n name : Text} {ns : List Text}

theorem Entry.mem_of_lookup (h : entries.lookup name = some c) : (name, c) ∈ entries := by
  obtain ⟨front, back, rfl, -⟩ := List.lookup_eq_some_iff.mp h
  simp

theorem Entry.lookup_eq_some_iff_mem (nodup : (entries.map Prod.fst).Nodup) :
    entries.lookup name = some c ↔ (name, c) ∈ entries := by
  refine ⟨Entry.mem_of_lookup, fun h => ?_⟩
  obtain ⟨front, back, rfl⟩ := List.append_of_mem h
  refine List.lookup_eq_some_iff.mpr ⟨front, back, rfl, fun p hp => ?_⟩
  rw [List.map_append, List.map_cons, List.nodup_middle, List.nodup_cons] at nodup
  have hfront : p.1 ∈ front.map Prod.fst := List.mem_map_of_mem hp
  have hother : name ≠ p.1 := fun hsame => nodup.1 (List.mem_append_left _ (hsame ▸ hfront))
  simpa using hother

theorem Entry.at?_cons_eq_some {found : Entry} :
    e.at? (n :: ns) = some found ↔
      ∃ entries c, e = .directory entries ∧ entries.lookup n = some c ∧ c.at? ns = some found := by
  cases e with
  | directory entries => simp [Entry.at?, Entry.child?, Option.bind_eq_some_iff]
  | file content => simp [Entry.at?, Entry.child?]
  | link target => simp [Entry.at?, Entry.child?]
  | pipe => simp [Entry.at?, Entry.child?]

theorem Entry.IsProper.at? (proper : e.IsProper) {found : Entry} (h : e.at? ns = some found) :
    found.IsProper ∧ ∀ n ∈ ns, Path.IsName n := by
  induction ns generalizing e with
  | nil =>
    cases h
    exact ⟨proper, by simp⟩
  | cons n ns ih =>
    obtain ⟨entries, c, rfl, hlookup, h⟩ := Entry.at?_cons_eq_some.mp h
    cases proper with
    | directory isName nodup below =>
      have hmem := Entry.mem_of_lookup hlookup
      obtain ⟨hfound, hns⟩ := ih (below _ hmem) h
      exact ⟨hfound, List.forall_mem_cons.mpr ⟨isName _ hmem, hns⟩⟩

end Trees

section Paths

variable {path n : Text} {ns ms : List Text}

theorem octetLength_le_join (h : Path.IsName n) :
    Disk.octetLength path ≤ Disk.octetLength (Path.join path n) := by
  refine Disk.octetLength_le_of_sublist ?_
  rw [Path.join_of_not_absolute h.isPart.not_absolute]
  split
  · exact List.sublist_append_left _ _
  · exact List.sublist_append_left _ _

theorem octetLength_le_joinSegments (h : ∀ n ∈ ns, Path.IsName n) :
    Disk.octetLength path ≤ Disk.octetLength (joinSegments path ns) := by
  induction ns generalizing path with
  | nil => exact Nat.le_refl _
  | cons n ns ih =>
    obtain ⟨hn, hns⟩ := List.forall_mem_cons.mp h
    exact (octetLength_le_join hn).trans (ih hns)

theorem names_joinSegments (h : ∀ n ∈ ns, Path.IsName n) :
    Path.names (joinSegments path ns) = Path.names path ++ ns := by
  induction ns generalizing path with
  | nil => simp [joinSegments]
  | cons n ns ih =>
    obtain ⟨hn, hns⟩ := List.forall_mem_cons.mp h
    have hjoin : joinSegments path (n :: ns) = joinSegments (Path.join path n) ns := rfl
    rw [hjoin, ih hns, Path.names_join hn.isPart.not_absolute, hn.isPart.names, List.append_assoc,
      List.singleton_append]

theorem shownNames_configPath (h : ∀ n ∈ ns, Path.IsName n) :
    Path.shownNames (configPath path ns) = Path.shownNames path ++ (ns ++ [configName]) := by
  have hnames : Path.names (Path.join (joinSegments path ns) configName) =
      Path.names path ++ (ns ++ [configName]) := by
    rw [Path.names_join rfl, names_joinSegments h, List.append_assoc]
    rfl
  have hdots : (ns ++ [configName]).filter (· ≠ ['.']) = ns ++ [configName] := by
    refine List.filter_eq_self.mpr fun n hn => ?_
    rcases List.mem_append.mp hn with hn | hn
    · simpa using (h n hn).notHere
    · rw [List.mem_singleton.mp hn]
      rfl
  rw [configPath, (Path.shownAs_shown _).shownNames, Path.shownNames, hnames, List.filter_append,
    hdots, Path.shownNames]

theorem configPath_injective (hns : ∀ n ∈ ns, Path.IsName n) (hms : ∀ n ∈ ms, Path.IsName n)
    (h : configPath path ns = configPath path ms) : ns = ms := by
  have hshown := congrArg Path.shownNames h
  rw [shownNames_configPath hns, shownNames_configPath hms] at hshown
  exact List.append_cancel_right (List.append_cancel_left hshown)

end Paths

namespace Walk

theorem notAfter_iff {a b : Text} : notAfter a b = true ↔ ¬b < a := by
  induction a generalizing b with
  | nil => simp [notAfter]
  | cons c a ih =>
    cases b with
    | nil => simp [notAfter]
    | cons e b =>
      rw [notAfter, List.cons_lt_cons_iff]
      by_cases hsame : c = e
      · subst hsame
        simp [ih]
      · have hcode : c.toNat < e.toNat ↔ c < e := by
          rw [Char.lt_def, UInt32.lt_iff_toNat_lt]
          rfl
        simpa [hsame, Ne.symm hsame, hcode] using lt_iff_le_and_ne.trans (and_iff_left hsame)

/-- The entries of a directory in the order in which a search comes to them. -/
def inOrder (entries : List (Text × Entry)) : List (Text × Entry) :=
  entries.mergeSort fun a b => notAfter a.1 b.1

theorem inOrder_pairwise {entries : List (Text × Entry)} (nodup : (entries.map Prod.fst).Nodup) :
    (inOrder entries).Pairwise fun a b => a.1 < b.1 := by
  have hsorted : (inOrder entries).Pairwise fun a b => notAfter a.1 b.1 = true :=
    List.pairwise_mergeSort
      (fun a b c hab hbc => by
        rw [notAfter_iff, not_lt] at hab hbc ⊢
        exact hab.trans hbc)
      (fun a b => by
        rw [Bool.or_eq_true, notAfter_iff, notAfter_iff, not_lt, not_lt]
        exact le_total a.1 b.1) entries
  have hdistinct : (inOrder entries).Pairwise fun a b => a.1 ≠ b.1 :=
    List.pairwise_map.mp (((List.mergeSort_perm entries _).map Prod.fst).nodup_iff.mpr nodup)
  exact (hsorted.and hdistinct).imp fun h => lt_of_le_of_ne (not_lt.mp (notAfter_iff.mp h.1)) h.2

theorem mem_inOrder {entries : List (Text × Entry)} {c : Text × Entry} :
    c ∈ inOrder entries ↔ c ∈ entries :=
  List.mem_mergeSort

end Walk

/-- Lists of names that satisfy a condition, all of them: a directory before those below it, and of
siblings one with a smaller name before the other, each with what is below it. -/
structure ListsInOrder (holds : List Text → Prop) (dirs : List (List Text)) : Prop where
  ordered : dirs.Pairwise (· < ·)
  exact : ∀ ns, ns ∈ dirs ↔ holds ns

/-- What is found in an entry of a directory, as seen from the directory. -/
def entering (found : Text × Entry → List (List Text)) (c : Text × Entry) : List (List Text) :=
  if c.1 ∈ excludedNames then [] else (found c).map (c.1 :: ·)

section Search

variable {d : Disk} {path : Text} {entries : List (Text × Entry)} {ns : List Text}
  {found : Text × Entry → List (List Text)}

theorem mem_entering {c : Text × Entry} :
    ns ∈ entering found c ↔ c.1 ∉ excludedNames ∧ ∃ ms ∈ found c, c.1 :: ms = ns := by
  unfold entering
  split
  next h => simp [h]
  next h => simp [h]

theorem pairwise_entering {sorted : List (Text × Entry)} {own : List (List Text)}
    (hsorted : sorted.Pairwise fun a b => a.1 < b.1) (hown : own = [] ∨ own = [[]])
    (hfound : ∀ c ∈ sorted, (found c).Pairwise (· < ·)) :
    (own ++ sorted.flatMap (entering found)).Pairwise (· < ·) := by
  rw [List.pairwise_append, List.pairwise_flatMap]
  refine ⟨?_, ⟨fun c hc => ?_, ?_⟩, ?_⟩
  · rcases hown with rfl | rfl <;> simp
  · unfold entering
    split
    next => exact List.Pairwise.nil
    next => exact List.pairwise_map.mpr ((hfound c hc).imp fun h => List.Lex.cons h)
  · refine hsorted.imp fun {a b} hless x hx y hy => ?_
    obtain ⟨_, _, _, rfl⟩ := mem_entering.mp hx
    obtain ⟨_, _, _, rfl⟩ := mem_entering.mp hy
    exact List.Lex.rel hless
  · intro x hx y hy
    obtain ⟨c, _, hy⟩ := List.mem_flatMap.mp hy
    obtain ⟨_, _, _, rfl⟩ := mem_entering.mp hy
    rcases hown with rfl | rfl
    · cases hx
    · rw [List.mem_singleton.mp hx]
      exact List.Lex.nil

theorem exists_own (d : Disk) (path : Text) (entries : List (Text × Entry)) :
    ∃ own : List (List Text), (own = [] ∨ own = [[]]) ∧
      ([] ∈ own ↔ HoldsConfig d path (.directory entries) []) ∧
      Walk.here d path entries = own.map (configPath path) := by
  unfold Walk.here
  split
  next hnone =>
    refine ⟨[], Or.inl rfl, iff_of_false (by simp) ?_, rfl⟩
    rintro ⟨⟨_, c, hat, hlookup, _⟩, _⟩
    cases hat
    cases hnone.symm.trans hlookup
  next c hsome =>
    split
    next hleads =>
      refine ⟨[], Or.inl rfl, iff_of_false (by simp) ?_, rfl⟩
      rintro ⟨⟨_, c', hat, hlookup, hplain⟩, _⟩
      cases hat
      cases hsome.symm.trans hlookup
      cases hleads.symm.trans hplain
    next hplain =>
      refine ⟨[[]], Or.inr rfl, iff_of_true (by simp) ⟨⟨entries, c, rfl, hsome, ?_⟩, by simp⟩, rfl⟩
      exact eq_false_of_ne_true hplain

theorem holdsConfig_cons {n : Text} (nodup : (entries.map Prod.fst).Nodup) :
    HoldsConfig d path (.directory entries) (n :: ns) ↔
      n ∉ excludedNames ∧ ∃ e, (n, e) ∈ entries ∧ HoldsConfig d (Path.join path n) e ns := by
  constructor
  · rintro ⟨⟨inner, c, hat, hlookup, hplain⟩, hincluded⟩
    obtain ⟨hn, hns⟩ := List.forall_mem_cons.mp hincluded
    obtain ⟨_, e, hentries, he, hat⟩ := Entry.at?_cons_eq_some.mp hat
    cases hentries
    exact ⟨hn, e, (Entry.lookup_eq_some_iff_mem nodup).mp he, ⟨inner, c, hat, hlookup, hplain⟩, hns⟩
  · rintro ⟨hn, e, he, ⟨inner, c, hat, hlookup, hplain⟩, hns⟩
    have he := (Entry.lookup_eq_some_iff_mem nodup).mpr he
    exact ⟨⟨inner, c, Entry.at?_cons_eq_some.mpr ⟨entries, e, rfl, he, hat⟩, hlookup, hplain⟩,
      List.forall_mem_cons.mpr ⟨hn, hns⟩⟩

theorem HoldsConfig.isName {e : Entry} (h : HoldsConfig d path e ns) (proper : e.IsProper) :
    ∀ n ∈ ns, Path.IsName n := by
  obtain ⟨⟨_, _, hat, _⟩, _⟩ := h
  exact (proper.at? hat).2

theorem below_directory {own : List (List Text)} (hshort : Disk.octetLength path ≤ Disk.longestPath)
    (hown : Walk.here d path entries = own.map (configPath path))
    (hfound : ∀ c ∈ entries,
      Walk.below d (Path.join path c.1) c.2 = (found c).map (configPath (Path.join path c.1))) :
    Walk.below d path (.directory entries) =
      (own ++ (Walk.inOrder entries).flatMap (entering found)).map (configPath path) := by
  have hsorted : (Walk.belowEach d path entries).mergeSort (fun a b => Walk.notAfter a.1 b.1) =
      (Walk.inOrder entries).map fun c =>
        (c.1, if excludedNames.contains c.1 then [] else Walk.below d (Path.join path c.1) c.2) := by
    rw [Walk.belowEach_eq_map, Walk.inOrder]
    refine (List.map_mergeSort ?_).symm
    exact fun a _ b _ => rfl
  rw [Walk.below, if_neg (Nat.not_lt.mpr hshort), hown, hsorted, List.map_append, List.map_flatMap,
    List.flatMap_map]
  refine congrArg _ (List.flatMap_congr fun c hc => ?_)
  have hsame := hfound c (Walk.mem_inOrder.mp hc)
  by_cases hin : c.1 ∈ excludedNames
  · simp [entering, hin]
  · simp only [entering, hin, List.contains_iff_mem, if_false, hsame, List.map_map]
    rfl

theorem not_holdsConfig {e : Entry} (h : e.isDirectory = false) : ¬HoldsConfig d path e ns := by
  rintro ⟨⟨entries, c, hat, -⟩, -⟩
  cases ns with
  | nil =>
    cases hat
    cases h
  | cons n ns =>
    obtain ⟨_, _, rfl, -⟩ := Entry.at?_cons_eq_some.mp hat
    cases h

theorem mem_own_or_entering {own : List (List Text)}
    (hshort : Disk.octetLength path ≤ Disk.longestPath) (nodup : (entries.map Prod.fst).Nodup)
    (hshape : own = [] ∨ own = [[]])
    (hown : [] ∈ own ↔ HoldsConfig d path (.directory entries) [])
    (hfound : ∀ c ∈ entries, ∀ ms, ms ∈ found c ↔
      HoldsConfig d (Path.join path c.1) c.2 ms ∧ IsWalkable (Path.join path c.1) ms) :
    ns ∈ own ++ (Walk.inOrder entries).flatMap (entering found) ↔
      HoldsConfig d path (.directory entries) ns ∧ IsWalkable path ns := by
  rw [List.mem_append, List.mem_flatMap]
  cases ns with
  | nil =>
    have hlater : ¬∃ c ∈ Walk.inOrder entries, [] ∈ entering found c := by
      rintro ⟨c, -, h⟩
      obtain ⟨-, ms, -, h⟩ := mem_entering.mp h
      cases h
    rw [hown, or_iff_left hlater]
    exact (and_iff_left hshort).symm
  | cons n ns =>
    have hlater : n :: ns ∉ own := by rcases hshape with rfl | rfl <;> simp
    rw [or_iff_right hlater, holdsConfig_cons nodup]
    constructor
    · rintro ⟨c, hc, h⟩
      obtain ⟨hincluded, ms, hms, heq⟩ := mem_entering.mp h
      cases heq
      have hc := Walk.mem_inOrder.mp hc
      obtain ⟨hholds, hwalk⟩ := (hfound c hc ns).mp hms
      exact ⟨⟨hincluded, c.2, hc, hholds⟩, hwalk⟩
    · rintro ⟨⟨hincluded, e, he, hholds⟩, hwalk⟩
      have hms : ns ∈ found (n, e) := (hfound (n, e) he ns).mpr ⟨hholds, hwalk⟩
      exact ⟨(n, e), Walk.mem_inOrder.mpr he, mem_entering.mpr ⟨hincluded, ns, hms, rfl⟩⟩

theorem exists_below_eq_nil {e : Entry} (h : ∀ ns, ¬(HoldsConfig d path e ns ∧ IsWalkable path ns))
    (hnone : Walk.below d path e = []) :
    ∃ dirs, ListsInOrder (fun ns => HoldsConfig d path e ns ∧ IsWalkable path ns) dirs ∧
      Walk.below d path e = dirs.map (configPath path) :=
  ⟨[], ⟨List.Pairwise.nil, fun ns => iff_of_false (by simp) (h ns)⟩, hnone⟩

/-- A search gives the configurations of all directories that it may enter, in order. -/
theorem exists_below_eq {e : Entry} (proper : e.IsProper) (path : Text) :
    ∃ dirs, ListsInOrder (fun ns => HoldsConfig d path e ns ∧ IsWalkable path ns) dirs ∧
      Walk.below d path e = dirs.map (configPath path) := by
  induction proper generalizing path with
  | file content => exact exists_below_eq_nil (fun _ h => not_holdsConfig rfl h.1) (by simp [Walk.below])
  | link target => exact exists_below_eq_nil (fun _ h => not_holdsConfig rfl h.1) (by simp [Walk.below])
  | pipe => exact exists_below_eq_nil (fun _ h => not_holdsConfig rfl h.1) (by simp [Walk.below])
  | @directory entries isName nodup below ih =>
    by_cases hshort : Disk.octetLength path ≤ Disk.longestPath
    · -- The path grows on the way down, so that each entry is searched with a path of its own.
      choose! found hlists hbelow using fun c hc => ih c hc (Path.join path c.1)
      obtain ⟨own, hshape, hown, hhere⟩ := exists_own d path entries
      refine ⟨own ++ (Walk.inOrder entries).flatMap (entering found), ⟨?_, fun ns => ?_⟩,
        below_directory hshort hhere hbelow⟩
      · exact pairwise_entering (Walk.inOrder_pairwise nodup) hshape
          fun c hc => (hlists c (Walk.mem_inOrder.mp hc)).ordered
      · exact mem_own_or_entering hshort nodup hshape hown fun c hc => (hlists c hc).exact
    · -- Every directory below has a path that is longer still.
      refine exists_below_eq_nil (fun ns h => hshort ?_) ?_
      · have hnames := h.1.isName (.directory isName nodup below)
        exact (octetLength_le_joinSegments hnames).trans h.2
      · rw [Walk.below, if_pos (Nat.not_le.mp hshort)]

/-- Names lead from a workspace to a directory with a configuration. -/
def Disk.HoldsConfigAt (d : Disk) (workspace : Text) (ns : List Text) : Prop :=
  ∃ place e, d.locate workspace = .ok (place, e) ∧ HoldsConfig d workspace e ns

theorem findConfigs_of_unlocated {workspace : Text} {error : FileError}
    (h : d.locate workspace = .error error) (hnul : '\x00' ∉ workspace) (limit : Nat) :
    findConfigs d workspace limit = .ok [] := by
  unfold findConfigs
  split
  next hfound => cases h.symm.trans hfound
  next hfound => exact absurd (Disk.mem_of_locate_nulCharacter hfound) hnul
  next => rfl

theorem exists_findConfigs_eq {workspace : Text} (proper : d.root.IsProper)
    (hnul : '\x00' ∉ workspace) :
    ∃ dirs, ListsInOrder (fun ns => d.HoldsConfigAt workspace ns ∧ IsWalkable workspace ns) dirs ∧
      (dirs.map (configPath workspace)).Nodup ∧
      ∀ limit, 1 ≤ limit →
        findConfigs d workspace limit = .ok ((dirs.map (configPath workspace)).take limit) := by
  cases hlocate : d.locate workspace with
  | error error =>
    refine ⟨[], ⟨List.Pairwise.nil, fun ns => iff_of_false (by simp) ?_⟩, List.nodup_nil,
      fun limit _ => ?_⟩
    · rintro ⟨⟨place, e, h, -⟩, -⟩
      cases hlocate.symm.trans h
    · rw [findConfigs_of_unlocated hlocate hnul, List.map_nil, List.take_nil]
  | ok found =>
    obtain ⟨place, e⟩ := found
    have hproper : e.IsProper := (proper.at? (Disk.at?_of_locate hlocate)).1
    obtain ⟨dirs, hlists, hbelow⟩ := exists_below_eq (d := d) hproper workspace
    have hholds (ns : List Text) : d.HoldsConfigAt workspace ns ↔ HoldsConfig d workspace e ns := by
      constructor
      · rintro ⟨_, _, h, hns⟩
        cases hlocate.symm.trans h
        exact hns
      · exact fun hns => ⟨place, e, hlocate, hns⟩
    refine ⟨dirs, ⟨hlists.ordered, fun ns => ?_⟩, ?_, fun limit hlimit => ?_⟩
    · rw [hholds, hlists.exact]
    · have hnames {ns : List Text} (h : ns ∈ dirs) : ∀ n ∈ ns, Path.IsName n :=
        ((hlists.exact ns).mp h).1.isName hproper
      have hnodup : dirs.Nodup := hlists.ordered.imp fun h => ne_of_lt h
      exact hnodup.map_on fun ns hns ms hms => configPath_injective (hnames hns) (hnames hms)
    · unfold findConfigs
      rw [hlocate, Nat.max_eq_left hlimit]
      exact congrArg (fun paths => Except.ok (paths.take limit)) hbelow

end Search

/-- What a search for a configuration comes to: none without a workspace, and else the first of the
shortest paths among so many that the search gives. -/
inductive SearchesTo (d : Disk) : Option Text → Option Text → Prop
  | nowhere : SearchesTo d none none
  | unnamed : SearchesTo d (some []) none
  | searched {workspace : Text} {dirs : List (List Text)} (filled : workspace ≠ [])
    (lists : ListsInOrder (fun ns => d.HoldsConfigAt workspace ns ∧ IsWalkable workspace ns) dirs) :
    SearchesTo d (some workspace)
      (((dirs.map (configPath workspace)).take searchLimit).argmin List.length)

/-- A workspace that the settings name has a path without a NUL, and no regular configuration of its
own. -/
def NotDirect (d : Disk) (s : Settings) : Prop :=
  ∀ workspace, s.workspaceRoot = some workspace → workspace ≠ [] →
    '\x00' ∉ workspace ∧ d.isRegularFile (Path.join workspace configName) = false

theorem exists_lookUpConfig_searchesTo {d : Disk} {s : Settings} (proper : d.root.IsProper)
    (hnot : NotConfigured d s) (hdirect : NotDirect d s) :
    ∃ l, lookUpConfig d s = .ok l ∧ SearchesTo d s.workspaceRoot l.path? := by
  have hlookup {found : Found} (h : searchWorkspace d s.workspaceRoot = .ok found) :
      ∃ l, lookUpConfig d s = .ok l ∧ l.found = found :=
    exists_lookUpConfig_of_search hnot h
  match hroot : s.workspaceRoot with
  | none =>
    rw [hroot] at hlookup
    obtain ⟨l, hl, hfound⟩ := hlookup rfl
    exact ⟨l, hl, by rw [l.path?_of_nowhere hfound]; exact .nowhere⟩
  | some [] =>
    rw [hroot] at hlookup
    obtain ⟨l, hl, hfound⟩ := hlookup rfl
    exact ⟨l, hl, by rw [l.path?_of_nowhere hfound]; exact .unnamed⟩
  | some (c :: cs) =>
    have hfilled : c :: cs ≠ [] := List.cons_ne_nil c cs
    obtain ⟨hnul, hplain⟩ := hdirect (c :: cs) hroot hfilled
    obtain ⟨dirs, hlists, -, hsearch⟩ := exists_findConfigs_eq proper hnul
    rw [hroot, searchWorkspace_of_filled hfilled, if_neg (by simp [hplain]),
      hsearch searchLimit (by decide)] at hlookup
    obtain ⟨l, hl, hfound⟩ := hlookup rfl
    exact ⟨l, hl, by rw [l.path?_of_searched hfound]; exact .searched hfilled hlists⟩

/-- A search gives the first of all configurations that it can come to, in order and each once, and
without a configuration that the settings or the workspace name, the first of the shortest is taken. -/
theorem findConfigs_exact {d : Disk} (proper : d.root.IsProper) :
    (∀ workspace, '\x00' ∉ workspace →
      ∃ dirs, ListsInOrder (fun ns => d.HoldsConfigAt workspace ns ∧ IsWalkable workspace ns) dirs ∧
        (dirs.map (configPath workspace)).Nodup ∧
        ∀ limit, 1 ≤ limit →
          findConfigs d workspace limit = .ok ((dirs.map (configPath workspace)).take limit)) ∧
    ∀ s, NotConfigured d s → NotDirect d s →
      ∃ l, lookUpConfig d s = .ok l ∧ SearchesTo d s.workspaceRoot l.path? :=
  ⟨fun _ hnul => exists_findConfigs_eq proper hnul,
    fun _ hnot hdirect => exists_lookUpConfig_searchesTo proper hnot hdirect⟩

theorem Entry.IsProper.single {n : Text} {e : Entry} (hn : Path.IsName n) (proper : e.IsProper) :
    (Entry.directory [(n, e)]).IsProper :=
  .directory (List.forall_mem_singleton.mpr hn) (List.nodup_singleton n)
    (List.forall_mem_singleton.mpr proper)

theorem configName_isName : Path.IsName configName := ⟨by decide, by decide, by decide, by decide⟩

theorem pipedWorkspace_isProper : pipedWorkspace.root.IsProper := by
  have ha : Path.IsName "a".toList := ⟨by decide, by decide, by decide, by decide⟩
  have hb : Path.IsName "bb".toList := ⟨by decide, by decide, by decide, by decide⟩
  have hw : Path.IsName "ws".toList := ⟨by decide, by decide, by decide, by decide⟩
  refine .single hw (.directory ?_ (by decide) ?_)
  · exact List.forall_mem_cons.mpr ⟨ha, List.forall_mem_singleton.mpr hb⟩
  · exact List.forall_mem_cons.mpr ⟨.single configName_isName .pipe,
      List.forall_mem_singleton.mpr (.single configName_isName (.file []))⟩

theorem findConfigs_exact_piped :
    (∃ dirs, ListsInOrder
        (fun ns => pipedWorkspace.HoldsConfigAt "/ws".toList ns ∧ IsWalkable "/ws".toList ns) dirs ∧
      (dirs.map (configPath "/ws".toList)).take searchLimit =
        ["/ws/a/nginx.conf".toList, "/ws/bb/nginx.conf".toList]) ∧
    ∃ l, lookUpConfig pipedWorkspace pipedSettings = .ok l ∧
      SearchesTo pipedWorkspace (some "/ws".toList) l.path? := by
  obtain ⟨hfind, hlook⟩ := findConfigs_exact pipedWorkspace_isProper
  obtain ⟨dirs, hlists, -, hfound⟩ := hfind "/ws".toList (by decide)
  have hfirst := hfound searchLimit (by decide)
  rw [findConfigs_pipedWorkspace] at hfirst
  refine ⟨⟨dirs, hlists, (Except.ok.inj hfirst).symm⟩, hlook pipedSettings (Or.inl rfl) ?_⟩
  rintro workspace ⟨⟩ -
  exact ⟨by decide, by cbv⟩

section Replicate

variable {c : Char} {n : Nat}

theorem isName_replicate (hslash : c ≠ '/') (hdot : c ≠ '.') (hn : n ≠ 0) :
    Path.IsName (List.replicate n c) := by
  have hmem {e : Char} (he : e ∈ List.replicate n c) : c = e := (List.eq_of_mem_replicate he).symm
  refine ⟨by simpa using hn, fun h => hslash (hmem h), fun h => hdot (hmem ?_), fun h => hdot (hmem ?_)⟩
  · rw [h]
    exact List.mem_singleton_self _
  · rw [h]
    exact List.mem_cons_self

theorem octetLength_append (a b : Text) :
    Disk.octetLength (a ++ b) = Disk.octetLength a + Disk.octetLength b := by
  simp only [Disk.octetLength, Utf8.encode, List.flatMap_append, List.length_append]

theorem octetLength_replicate (hc : Disk.octetLength [c] = 1) (n : Nat) :
    Disk.octetLength (List.replicate n c) = n := by
  induction n with
  | zero => rfl
  | succ n ih => rw [List.replicate_succ', octetLength_append, ih, hc]

theorem names_replicate_slash (n : Nat) : Path.names (List.replicate n '/') = [] := by
  induction n with
  | zero => rfl
  | succ n ih => rw [List.replicate_succ, Path.names_cons_slash, ih]

end Replicate

def longName : Text := List.replicate Disk.longestName 'a'

/-- A configuration below a name as long as names can be. -/
def longNameSite : Disk := .ofTop <| .directory [
  (longName, .directory [(configName, .file [])])]

def manySlashes : Text := List.replicate 4000 '/'

theorem octetLength_manySlashes : Disk.octetLength manySlashes = 4000 :=
  octetLength_replicate (by decide) 4000

theorem longNameSite_isProper : longNameSite.root.IsProper :=
  .single (isName_replicate (by decide) (by decide) (by decide)) (.single configName_isName (.file []))

theorem nul_not_mem_manySlashes : '\x00' ∉ manySlashes := fun h =>
  absurd (List.eq_of_mem_replicate h) (by decide)

theorem getLast?_manySlashes : manySlashes.getLast? = some '/' := by
  rw [manySlashes, List.getLast?_replicate, if_neg (by decide)]

theorem locate_manySlashes : longNameSite.locate manySlashes = .ok ([], longNameSite.root) := by
  have habs : Path.isAbsolute manySlashes = true := by
    rw [Path.isAbsolute, manySlashes, List.head?_replicate, if_neg (by decide)]
    rfl
  have hsteps : Disk.steps manySlashes = [['.']] := by
    rw [Disk.steps, if_pos getLast?_manySlashes, manySlashes, names_replicate_slash, List.nil_append]
  have hfilled : manySlashes ≠ [] := fun h => by cases h ▸ getLast?_manySlashes
  refine Disk.locate_eq_ok.mpr ⟨nul_not_mem_manySlashes, hfilled,
    octetLength_manySlashes.trans_le (by decide), ?_⟩
  rw [hsteps, Disk.start, if_pos habs]
  simp [Disk.follow, longNameSite, Disk.ofTop, Entry.at?]

theorem below_longName : Walk.below longNameSite (Path.join manySlashes longName)
    (.directory [(configName, .file [])]) = [] := by
  have hname : Path.IsName longName := isName_replicate (by decide) (by decide) (by decide)
  have hlength : Disk.octetLength longName = 255 := octetLength_replicate (by decide) 255
  have hlong : Disk.octetLength (Path.join manySlashes longName) = 4255 := by
    rw [Path.join_of_not_absolute hname.isPart.not_absolute, if_pos (Or.inr getLast?_manySlashes),
      octetLength_append, octetLength_manySlashes, hlength]
  rw [Walk.below, if_pos (by rw [hlong]; decide)]

theorem ne_longName {n : Text} (h : n.length < 255) : n ≠ longName := by
  rintro rfl
  rw [longName, List.length_replicate] at h
  exact absurd h (by decide)

theorem findConfigs_manySlashes : findConfigs longNameSite manySlashes 1 = .ok [] := by
  have hshort : ¬Disk.octetLength manySlashes > Disk.longestPath := by
    rw [octetLength_manySlashes]
    decide
  have hhere : Walk.here longNameSite manySlashes
      [(longName, .directory [(configName, .file [])])] = [] := by
    have hconfig : configName.length < 255 := by decide
    simp [Walk.here, List.lookup, beq_false_of_ne (ne_longName hconfig)]
  have hbelow : Walk.below longNameSite manySlashes
      (.directory [(longName, .directory [(configName, .file [])])]) = [] := by
    rw [Walk.below, if_neg hshort, hhere, Walk.belowEach, Walk.belowEach, below_longName]
    simp
  unfold findConfigs
  rw [locate_manySlashes]
  exact congrArg (fun paths => Except.ok (paths.take 1)) hbelow

/-- A configuration below a path that is too long is not found. -/
theorem findConfigs_exact_overlong : ¬∀ (d : Disk) (workspace : Text), d.root.IsProper →
    '\x00' ∉ workspace → ∃ dirs, ListsInOrder (d.HoldsConfigAt workspace) dirs ∧
      ∀ limit, 1 ≤ limit →
        findConfigs d workspace limit = .ok ((dirs.map (configPath workspace)).take limit) := by
  intro h
  obtain ⟨dirs, hlists, hfound⟩ :=
    h longNameSite manySlashes longNameSite_isProper nul_not_mem_manySlashes
  have hat : longNameSite.root.at? [longName] = some (.directory [(configName, .file [])]) := by
    simp [longNameSite, Disk.ofTop, Entry.at?, Entry.child?]
  have hshort : ∀ n ∈ excludedNames, n.length < 255 := by decide
  have hincluded : longName ∉ excludedNames := fun h => ne_longName (hshort longName h) rfl
  have hmem : [longName] ∈ dirs :=
    (hlists.exact _).mpr ⟨[], _, locate_manySlashes, ⟨_, .file [], hat, rfl, rfl⟩,
      List.forall_mem_singleton.mpr hincluded⟩
  have hnone := Except.ok.inj (findConfigs_manySlashes.symm.trans (hfound 1 (Nat.le_refl 1)))
  obtain ⟨first, rest, rfl⟩ := List.exists_cons_of_ne_nil (List.ne_nil_of_mem hmem)
  cases hnone

end SitePreview
