import Mathlib
import SitePreview.Conf.Source
import SitePreview.Proofs.Fallible
import SitePreview.Proofs.ShownPath
import SitePreview.Workspace.Locate

namespace SitePreview

/-- What holds of whatever is no directory, and of a directory if it holds of all its entries. -/
theorem Entry.induct_entries {P : Entry → Prop} (file : ∀ content, P (.file content))
    (link : ∀ target, P (.link target)) (pipe : P .pipe)
    (directory : ∀ entries : List (Text × Entry), (∀ c ∈ entries, P c.2) → P (.directory entries)) :
    ∀ e, P e
  | .file content => file content
  | .link target => link target
  | .pipe => pipe
  | .directory entries =>
    directory entries fun c _hc => Entry.induct_entries file link pipe directory c.2
decreasing_by
  have hentries := List.sizeOf_lt_of_mem _hc
  have hchild : sizeOf c.2 < sizeOf c := by
    cases c
    simp
  simp only [Entry.directory.sizeOf_spec]
  omega

namespace Walk

theorem belowEach_eq_map (d : Disk) (path : Text) (entries : List (Text × Entry)) :
    belowEach d path entries = entries.map fun c =>
      (c.1, if excludedNames.contains c.1 then [] else below d (Path.join path c.1) c.2) := by
  induction entries with
  | nil => rw [belowEach, List.map_nil]
  | cons c entries ih => rw [belowEach, ih, List.map_cons]

theorem shown_of_mem_below (d : Disk) (e : Entry) :
    ∀ path, ∀ p ∈ below d path e, Path.shown p = p := by
  induction e using Entry.induct_entries with
  | file content => simp [below]
  | link target => simp [below]
  | pipe => simp [below]
  | directory entries ih =>
    intro path p hp
    rw [below] at hp
    split at hp
    next => cases hp
    next =>
      rcases List.mem_append.mp hp with hp | hp
      · unfold here at hp
        split at hp
        next => cases hp
        next =>
          split at hp
          next => cases hp
          next =>
            rw [List.mem_singleton.mp hp]
            exact Path.shown_shown _
      · obtain ⟨found, hfound, hp⟩ := List.mem_flatMap.mp hp
        rw [List.mem_mergeSort, belowEach_eq_map] at hfound
        obtain ⟨c, hc, rfl⟩ := List.mem_map.mp hfound
        split at hp
        next => cases hp
        next => exact ih c hc (Path.join path c.1) p hp

end Walk

variable {d : Disk} {s : Settings} {p workspace : Text} {candidates : List Text} {l : Lookup}

theorem shown_of_mem_findConfigs {limit : Nat} (h : findConfigs d workspace limit = .ok candidates)
    (hp : p ∈ candidates) : Path.shown p = p := by
  unfold findConfigs at h
  split at h
  next place e _ =>
    cases h
    exact Walk.shown_of_mem_below d e workspace p (List.mem_of_mem_take hp)
  next => cases h
  next =>
    cases h
    cases hp

theorem shortestPath_eq_argmin (paths : List Text) : shortestPath paths = paths.argmin List.length := by
  have hstep : shorterPath = List.argAux fun a b : Text => a.length < b.length := by
    funext best p
    cases best <;> rfl
  rw [shortestPath, hstep]
  rfl

theorem Lookup.path?_of_nowhere (l : Lookup) (h : l.found = .nowhere) : l.path? = none := by
  rw [Lookup.path?, h]

theorem Lookup.path?_of_searched (l : Lookup) (h : l.found = .searched workspace candidates) :
    l.path? = candidates.argmin List.length := by
  rw [Lookup.path?, h]
  exact shortestPath_eq_argmin candidates

namespace Disk

theorem isRegularFile_iff : d.isRegularFile p = true ↔ ∃ content, d.status p = .ok (.file content) := by
  unfold isRegularFile
  split
  next e he => cases e <;> simp [Entry.isRegular, he]
  next fault he => simp [he]

/-- Octets are had where the path, as it is shown, names a regular file. -/
theorem exists_fileContent_iff :
    (∃ content, d.fileContent p = .ok content) ↔ d.isRegularFile (Path.shown p) = true := by
  rw [isRegularFile_iff]
  unfold fileContent
  constructor
  · rintro ⟨content, h⟩
    split at h
    next other hstatus => exact ⟨other, hstatus⟩
    next => cases h
    next => cases h
  · rintro ⟨content, hstatus⟩
    exact ⟨content, by rw [hstatus]⟩

theorem isForeseen_of_fileContent {e : SourceError} (h : d.fileContent p = .error e) :
    e.isForeseen = true := by
  unfold fileContent at h
  split at h
  next => cases h
  next => cases h; rfl
  next => cases h; rfl

theorem fileContent_of_status {content : Bytes} (h : d.status p = .ok (.file content)) :
    d.fileContent p = .ok content := by
  rw [fileContent, status_shown h]

theorem readConfig_of_content (platform : Platform) {content : Bytes}
    (h : d.fileContent p = .ok content) :
    d.readConfig platform p = (platform.decode content).mapError .undecodable := by
  rw [readConfig, h]
  rfl

/-- A file is refused, and foreseen so, just where no octets are had. What a code makes of octets is
never foreseen. -/
theorem readConfig_refused_iff (platform : Platform) :
    (∃ e, d.readConfig platform p = .error e ∧ e.isForeseen = true) ↔
      d.isRegularFile (Path.shown p) = false := by
  cases hcontent : d.fileContent p with
  | error e =>
    have hread : d.readConfig platform p = .error e := by
      rw [readConfig, hcontent]
      rfl
    have hregular : d.isRegularFile (Path.shown p) = false := by
      by_contra h
      obtain ⟨content, h⟩ := exists_fileContent_iff.mpr (by simpa using h)
      cases hcontent.symm.trans h
    exact iff_of_true ⟨e, hread, isForeseen_of_fileContent hcontent⟩ hregular
  | ok content =>
    have hregular := exists_fileContent_iff.mp ⟨content, hcontent⟩
    rw [readConfig_of_content platform hcontent, hregular]
    refine iff_of_false ?_ (by simp)
    rintro ⟨e, he, hforeseen⟩
    obtain ⟨why, -, rfl⟩ := exceptMapError_eq_error.mp he
    cases hforeseen

end Disk

/-- What the settings ask for is no regular file, or they ask for nothing. -/
def NotConfigured (d : Disk) (s : Settings) : Prop :=
  s.configPath = [] ∨ d.isRegularFile (inWorkspace s.configPath s.workspaceRoot) = false

/-- The places for a configuration. -/
inductive IsOffered (d : Disk) (s : Settings) : Text → Prop
  | configured (asked : s.configPath ≠ []) :
    IsOffered d s (inWorkspace s.configPath s.workspaceRoot)
  | direct {workspace : Text} (named : s.workspaceRoot = some workspace) (filled : workspace ≠ []) :
    IsOffered d s (Path.join workspace configName)
  | candidate {workspace p : Text} {candidates : List Text} (named : s.workspaceRoot = some workspace)
    (filled : workspace ≠ []) (found : findConfigs d workspace searchLimit = .ok candidates)
    (listed : p ∈ candidates) : IsOffered d s p

/-- A search comes to a path: neither the settings nor the workspace name a regular file, and it is
the first of the shortest paths that are found. -/
structure PickedBySearch (d : Disk) (s : Settings) (p : Text) : Prop where
  notConfigured : NotConfigured d s
  searched : ∃ workspace candidates, s.workspaceRoot = some workspace ∧ workspace ≠ [] ∧
    d.isRegularFile (Path.join workspace configName) = false ∧
      findConfigs d workspace searchLimit = .ok candidates ∧
        candidates.argmin List.length = some p

theorem lookUpConfig_of_configured (hasked : s.configPath ≠ [])
    (h : d.isRegularFile (inWorkspace s.configPath s.workspaceRoot) = true) :
    lookUpConfig d s = .ok ⟨none, .configured (inWorkspace s.configPath s.workspaceRoot)⟩ := by
  rw [lookUpConfig, if_neg hasked]
  simp only [h, if_true]

theorem lookUpConfig_of_notConfigured (h : NotConfigured d s) :
    lookUpConfig d s = (searchWorkspace d s.workspaceRoot).map fun found =>
      ⟨if s.configPath = [] then none else some (inWorkspace s.configPath s.workspaceRoot),
        found⟩ := by
  unfold lookUpConfig
  by_cases hasked : s.configPath = []
  · simp only [if_pos hasked]
  · simp only [if_neg hasked, h.resolve_left hasked]
    rfl

theorem searchWorkspace_of_filled (h : workspace ≠ []) :
    searchWorkspace d (some workspace) =
      if d.isRegularFile (Path.join workspace configName) then
        .ok (.direct (Path.join workspace configName))
      else (findConfigs d workspace searchLimit).map (.searched workspace) := by
  obtain ⟨c, cs, rfl⟩ := List.exists_cons_of_ne_nil h
  rfl

theorem configured_or_not (d : Disk) (s : Settings) :
    NotConfigured d s ∨ (s.configPath ≠ [] ∧
      d.isRegularFile (inWorkspace s.configPath s.workspaceRoot) = true) := by
  unfold NotConfigured
  by_cases hasked : s.configPath = []
  · exact Or.inl (Or.inl hasked)
  · cases hregular : d.isRegularFile (inWorkspace s.configPath s.workspaceRoot) with
    | true => exact Or.inr ⟨hasked, rfl⟩
    | false => exact Or.inl (Or.inr rfl)

theorem exists_lookUpConfig_of_search (h : NotConfigured d s) {found : Found}
    (hsearch : searchWorkspace d s.workspaceRoot = .ok found) :
    ∃ l, lookUpConfig d s = .ok l ∧ l.found = found := by
  rw [lookUpConfig_of_notConfigured h, hsearch]
  exact ⟨_, rfl, rfl⟩

/-- What is found is a regular file, unless a search came to it. -/
theorem isRegularFile_or_picked (h : lookUpConfig d s = .ok l) (hp : l.path? = some p) :
    d.isRegularFile p = true ∨ PickedBySearch d s p := by
  rcases configured_or_not d s with hnot | ⟨hasked, hregular⟩
  · rw [lookUpConfig_of_notConfigured hnot] at h
    obtain ⟨found, hsearch, rfl⟩ := exceptMap_eq_ok.mp h
    match hroot : s.workspaceRoot with
    | none =>
      rw [hroot] at hsearch
      cases hsearch
      cases hp
    | some [] =>
      rw [hroot] at hsearch
      cases hsearch
      cases hp
    | some (c :: cs) =>
      rw [hroot, searchWorkspace_of_filled (List.cons_ne_nil c cs)] at hsearch
      split at hsearch
      next hdirect =>
        cases hsearch
        cases hp
        exact Or.inl hdirect
      next hdirect =>
        obtain ⟨candidates, hfound, rfl⟩ := exceptMap_eq_ok.mp hsearch
        refine Or.inr ⟨hnot, c :: cs, candidates, hroot, List.cons_ne_nil c cs,
          by simpa using hdirect, hfound, ?_⟩
        rw [← shortestPath_eq_argmin]
        exact hp
  · rw [lookUpConfig_of_configured hasked hregular] at h
    cases h
    cases hp
    exact Or.inl hregular

theorem PickedBySearch.exists_lookUpConfig (h : PickedBySearch d s p) :
    ∃ l, lookUpConfig d s = .ok l ∧ l.path? = some p := by
  obtain ⟨hnot, workspace, candidates, hroot, hfilled, hdirect, hfound, hpicked⟩ := h
  have hsearch : searchWorkspace d s.workspaceRoot = .ok (.searched workspace candidates) := by
    rw [hroot, searchWorkspace_of_filled hfilled, if_neg (by simp [hdirect]), hfound]
    rfl
  obtain ⟨l, hl, heq⟩ := exists_lookUpConfig_of_search hnot hsearch
  exact ⟨l, hl, (l.path?_of_searched heq).trans hpicked⟩

theorem PickedBySearch.shown (h : PickedBySearch d s p) : Path.shown p = p := by
  obtain ⟨_, workspace, candidates, _, _, _, hfound, hpicked⟩ := h
  exact shown_of_mem_findConfigs hfound (List.argmin_mem hpicked)

theorem exists_path_of_offered (h : IsOffered d s p) (hregular : d.isRegularFile p = true) :
    ∃ l q, lookUpConfig d s = .ok l ∧ l.path? = some q := by
  rcases configured_or_not d s with hnot | ⟨hasked, hconfigured⟩
  · cases h with
    | configured asked => simp [hnot.resolve_left asked] at hregular
    | direct named filled =>
      have hsearch := searchWorkspace_of_filled (d := d) filled
      rw [if_pos hregular, ← named] at hsearch
      obtain ⟨l, hl, heq⟩ := exists_lookUpConfig_of_search hnot hsearch
      exact ⟨l, _, hl, by rw [Lookup.path?, heq]⟩
    | @candidate workspace p candidates named filled found listed =>
      cases hdirect : d.isRegularFile (Path.join workspace configName) with
      | true =>
        have hsearch := searchWorkspace_of_filled (d := d) filled
        rw [if_pos hdirect, ← named] at hsearch
        obtain ⟨l, hl, heq⟩ := exists_lookUpConfig_of_search hnot hsearch
        exact ⟨l, _, hl, by rw [Lookup.path?, heq]⟩
      | false =>
        obtain ⟨q, hq⟩ : ∃ q, candidates.argmin List.length = some q :=
          Option.ne_none_iff_exists'.mp
            (mt List.argmin_eq_none.mp (List.ne_nil_of_mem listed))
        have hpicked : PickedBySearch d s q :=
          ⟨hnot, workspace, candidates, named, filled, hdirect, found, hq⟩
        obtain ⟨l, hl, hpath⟩ := hpicked.exists_lookUpConfig
        exact ⟨l, q, hl, hpath⟩
  · exact ⟨_, _, lookUpConfig_of_configured hasked hconfigured, rfl⟩

/-- What is found is refused just if it is no regular file, and of a regular file the octets are
decoded. It is a regular file unless a search came to it; where a regular file is offered something is
found, and what a search comes to is found whatever it is. -/
theorem lookUpConfig_finds (platform : Platform) (d : Disk) (s : Settings) :
    (∀ l p, lookUpConfig d s = .ok l → l.path? = some p →
      ((∃ e, d.readConfig platform p = .error e ∧ e.isForeseen = true) ↔ d.isRegularFile p = false) ∧
        (∀ content, d.status p = .ok (.file content) →
          d.readConfig platform p = (platform.decode content).mapError .undecodable) ∧
        (d.isRegularFile p = true ∨ PickedBySearch d s p)) ∧
    (∀ p, IsOffered d s p → d.isRegularFile p = true →
      ∃ l q, lookUpConfig d s = .ok l ∧ l.path? = some q) ∧
    ∀ p, PickedBySearch d s p → ∃ l, lookUpConfig d s = .ok l ∧ l.path? = some p := by
  refine ⟨fun l p h hp => ?_, fun p => exists_path_of_offered,
    fun p hpicked => hpicked.exists_lookUpConfig⟩
  refine ⟨?_, fun content hstatus =>
    Disk.readConfig_of_content platform (Disk.fileContent_of_status hstatus),
    isRegularFile_or_picked h hp⟩
  rw [Disk.readConfig_refused_iff]
  rcases isRegularFile_or_picked h hp with hregular | hpicked
  · obtain ⟨content, hcontent⟩ := Disk.isRegularFile_iff.mp hregular
    have hshown : d.isRegularFile (Path.shown p) = true :=
      Disk.isRegularFile_iff.mpr ⟨content, Disk.status_shown hcontent⟩
    rw [hregular, hshown]
  · rw [hpicked.shown]

/-- A pipe with the name of a configuration, and a configuration below a longer path. -/
def pipedWorkspace : Disk := .ofTop <| .directory [
  ("ws".toList, .directory [
    ("a".toList, .directory [("nginx.conf".toList, .pipe)]),
    ("bb".toList, .directory [("nginx.conf".toList, .file [])])])]

def pipedSettings : Settings where
  workspaceRoot := some "/ws".toList

/-- A directory that holds nothing but an entry with the name of a configuration. -/
theorem Walk.below_of_alone {d : Disk} {e : Entry} {path : Text}
    (hshort : ¬Disk.octetLength path > Disk.longestPath)
    (hplain : leadsToDirectory d (Path.join path configName) e = false)
    (hnone : below d (Path.join path configName) e = []) :
    below d path (.directory [(configName, e)]) = [Path.shown (Path.join path configName)] := by
  have heach : belowEach d path [(configName, e)] = [(configName, [])] := by
    rw [belowEach, belowEach, hnone]
    simp
  rw [below, if_neg hshort, heach, List.mergeSort_singleton]
  simp [here, hplain]

theorem findConfigs_pipedWorkspace : findConfigs pipedWorkspace "/ws".toList searchLimit =
    .ok ["/ws/a/nginx.conf".toList, "/ws/bb/nginx.conf".toList] := by
  have hlocate : pipedWorkspace.locate "/ws".toList =
      .ok (["ws".toList], .directory [
        ("a".toList, .directory [(configName, .pipe)]),
        ("bb".toList, .directory [(configName, .file [])])]) := by cbv
  have hpipe : Walk.below pipedWorkspace "/ws/a".toList (.directory [(configName, .pipe)]) =
      ["/ws/a/nginx.conf".toList] :=
    Walk.below_of_alone (by decide) rfl (by rw [Walk.below]; simp)
  have hfile : Walk.below pipedWorkspace "/ws/bb".toList (.directory [(configName, .file [])]) =
      ["/ws/bb/nginx.conf".toList] :=
    Walk.below_of_alone (by decide) rfl (by rw [Walk.below]; simp)
  have heach : Walk.belowEach pipedWorkspace "/ws".toList [
      ("a".toList, .directory [(configName, .pipe)]),
      ("bb".toList, .directory [(configName, .file [])])] =
        [("a".toList, ["/ws/a/nginx.conf".toList]),
          ("bb".toList, ["/ws/bb/nginx.conf".toList])] := by
    rw [Walk.belowEach, Walk.belowEach, Walk.belowEach, if_neg (by decide), if_neg (by decide)]
    exact congrArg₂ (fun a b => [("a".toList, a), ("bb".toList, b)]) hpipe hfile
  have hbelow : Walk.below pipedWorkspace "/ws".toList (.directory [
      ("a".toList, .directory [(configName, .pipe)]),
      ("bb".toList, .directory [(configName, .file [])])]) =
        ["/ws/a/nginx.conf".toList, "/ws/bb/nginx.conf".toList] := by
    rw [Walk.below, if_neg (by decide), heach, List.mergeSort_of_pairwise (by decide)]
    rfl
  simp only [findConfigs, hlocate, hbelow]
  rfl

/-- A regular file is offered, and a pipe is found, which every platform is refused. -/
theorem lookUpConfig_finds_pipe :
    IsOffered pipedWorkspace pipedSettings "/ws/bb/nginx.conf".toList ∧
      pipedWorkspace.isRegularFile "/ws/bb/nginx.conf".toList = true ∧
      ∃ l, lookUpConfig pipedWorkspace pipedSettings = .ok l ∧
        l.path? = some "/ws/a/nginx.conf".toList ∧
          pipedWorkspace.isRegularFile "/ws/a/nginx.conf".toList = false ∧
            ∀ platform, ∃ e, pipedWorkspace.readConfig platform "/ws/a/nginx.conf".toList = .error e ∧
              e.isForeseen = true := by
  have hregular : pipedWorkspace.isRegularFile "/ws/bb/nginx.conf".toList = true := by cbv
  have hpipe : pipedWorkspace.isRegularFile "/ws/a/nginx.conf".toList = false := by cbv
  have hdirect : pipedWorkspace.isRegularFile (Path.join "/ws".toList configName) = false := by cbv
  have hshortest : shortestPath ["/ws/a/nginx.conf".toList, "/ws/bb/nginx.conf".toList] =
      some "/ws/a/nginx.conf".toList := by cbv
  have hpicked : PickedBySearch pipedWorkspace pipedSettings "/ws/a/nginx.conf".toList :=
    ⟨Or.inl rfl, _, _, rfl, by decide, hdirect, findConfigs_pipedWorkspace,
      (shortestPath_eq_argmin _).symm.trans hshortest⟩
  have hlisted : "/ws/bb/nginx.conf".toList ∈
      ["/ws/a/nginx.conf".toList, "/ws/bb/nginx.conf".toList] :=
    List.mem_cons_of_mem _ (List.mem_singleton.mpr rfl)
  obtain ⟨l, hl, hpath⟩ := hpicked.exists_lookUpConfig
  refine ⟨.candidate rfl (by decide) findConfigs_pipedWorkspace hlisted, hregular, l, hl, hpath,
    hpipe, fun platform => ?_⟩
  rw [Disk.readConfig_refused_iff, hpicked.shown, hpipe]

end SitePreview
