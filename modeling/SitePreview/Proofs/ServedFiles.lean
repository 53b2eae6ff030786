import SitePreview.Proofs.Containment
import SitePreview.Serving.Resolve

namespace SitePreview

/-- The front that paths below a directory share. -/
def belowFront (directory : Text) : Text :=
  if directory.getLast? = some '/' then directory else directory ++ ['/']

/-- A path is a directory or lies below it, letter case left out. -/
def Confined (directory path : Text) : Prop :=
  path.lower = directory.lower ∨ belowFront directory.lower <+: path.lower

/-- Resolving a request path in a root meets a link that leads back to itself. -/
def RequestLoops (d : Disk) (root path : Text) : Prop :=
  ∃ base segments, d.canonical root = .ok base ∧
    requestSegments (requestedPath (some path)) = some segments ∧
    d.MeetsLoop (joinSegments base segments)

theorem liesWithin_iff_confined {directory path : Text} :
    liesWithin directory path = true ↔ Confined directory path := by
  simp only [liesWithin, Bool.or_eq_true, beq_iff_eq, List.isPrefixOf_iff_prefix, Confined,
    belowFront]

theorem prefix_belowFront (directory : Text) : directory <+: belowFront directory := by
  unfold belowFront
  split
  · exact List.prefix_refl directory
  · exact List.prefix_append directory ['/']

theorem Confined.trans {a b c : Text} (hab : Confined a b) (hbc : Confined b c) :
    Confined a c := by
  rcases hbc with heq | hbelow
  · rw [Confined, heq]
    exact hab
  · rcases hab with heq | habove
    · rw [heq] at hbelow
      exact Or.inr hbelow
    · exact Or.inr ((habove.trans (prefix_belowFront b.lower)).trans hbelow)

theorem safeJoin_confined {d : Disk} {root base p : Text} {path : Option Text}
    (h : safeJoin d root path = .ok (some p)) (hbase : d.canonical root = .ok base) :
    Confined base p := by
  obtain ⟨_, found, _, hfound, _, hwithin⟩ := safeJoin_eq_ok_some.mp h
  cases hbase.symm.trans hfound
  exact liesWithin_iff_confined.mp hwithin

theorem safeJoin_canonical {d : Disk} {root path p : Text}
    (h : safeJoin d root (some path) = .ok (some p)) (hloop : ¬RequestLoops d root path) :
    d.canonical p = .ok p := by
  obtain ⟨segments, base, hsegments, hbase, hp, _⟩ := safeJoin_eq_ok_some.mp h
  have habs := isAbsolute_joinSegments (Disk.canonical_isAbsolute hbase) segments
  exact Disk.canonical_canonical habs hp fun hm => hloop ⟨base, segments, hbase, hsegments, hm⟩

theorem safeJoinFault_eq_ok {d : Disk} {root path : Text} {found : Option Text} :
    safeJoinFault d root path = .ok found ↔ safeJoin d root (some path) = .ok found :=
  exceptMapError_eq_ok

theorem Disk.status?_eq_ok_some {d : Disk} {p : Text} {e : Entry} :
    d.status? p = .ok (some e) ↔ d.status p = .ok e := by
  unfold status? presentOf
  split <;> simp_all

theorem firstRegular_eq_ok_some {d : Disk} {directory p : Text} {names : List Text}
    (h : firstRegular d directory names = .ok (some p)) :
    ∃ name ∈ names, safeJoin d directory (some name) = .ok (some p) ∧
      ∃ content, d.status p = .ok (.file content) := by
  induction names with
  | nil => simp [firstRegular, firstRegularBy] at h
  | cons name names ih =>
    have further (h : firstRegular d directory names = .ok (some p)) :
        ∃ other ∈ name :: names, safeJoin d directory (some other) = .ok (some p) ∧
          ∃ content, d.status p = .ok (.file content) := by
      obtain ⟨other, hmem, hfound⟩ := ih h
      exact ⟨other, by simp [hmem], hfound⟩
    obtain ⟨found, hjoin, h⟩ := exceptBind_eq_ok.mp h
    cases found with
    | none => exact further h
    | some q =>
      obtain ⟨e, hstatus, h⟩ := exceptBind_eq_ok.mp h
      split at h
      next content =>
        cases h
        exact ⟨name, by simp, safeJoinFault_eq_ok.mp hjoin, content,
          Disk.status?_eq_ok_some.mp hstatus⟩
      next => exact further h

/-- The ways to a file that is served. -/
inductive ServedBy (d : Disk) (config : ServerConfig) (location : Option LocationRule)
    (root requested file : Text) : Prop where
  | path (same : file = requested)
  | index (name : Text) (listed : name ∈ config.indexFiles)
      (joined : safeJoin d requested (some name) = .ok (some file))
  | candidate (name : Text) (listed : name ∈ rootedCandidates location)
      (joined : safeJoin d root (some name) = .ok (some file))

theorem resolveCandidates_serve {d : Disk} {root file mediaType : Text}
    {location : Option LocationRule} {inDirectory : Bool}
    (h : resolveCandidates d root location inDirectory = .ok (.serve file mediaType)) :
    ∃ name ∈ rootedCandidates location, safeJoin d root (some name) = .ok (some file) ∧
      (∃ content, d.status file = .ok (.file content)) ∧ mediaType = mediaTypeOf file := by
  obtain ⟨found, hfirst, h⟩ := exceptBind_eq_ok.mp h
  cases found with
  | none => cases h
  | some q =>
    cases h
    obtain ⟨name, hname, hjoin, hfile⟩ := firstRegular_eq_ok_some hfirst
    exact ⟨name, hname, hjoin, hfile, rfl⟩

theorem resolve_serve {d : Disk} {config : ServerConfig} {location : Option LocationRule}
    {path file mediaType : Text} (h : resolve d config location path = .ok (.serve file mediaType)) :
    ∃ requested, safeJoin d (config.rootFor location d.cwd) (some path) = .ok (some requested) ∧
      ServedBy d config location (config.rootFor location d.cwd) requested file ∧
      (∃ content, d.status file = .ok (.file content)) ∧ mediaType = mediaTypeOf file := by
  unfold resolve resolveBy at h
  split at h
  next => simp at h
  next =>
    obtain ⟨found, hjoin, h⟩ := exceptBind_eq_ok.mp h
    cases found with
    | none => cases h
    | some requested =>
      refine ⟨requested, safeJoinFault_eq_ok.mp hjoin, ?_⟩
      have fallback {inDirectory : Bool} (h : resolveCandidates d (config.rootFor location d.cwd)
          location inDirectory = .ok (.serve file mediaType)) :
          ServedBy d config location (config.rootFor location d.cwd) requested file ∧
            (∃ content, d.status file = .ok (.file content)) ∧ mediaType = mediaTypeOf file := by
        obtain ⟨name, hname, hfound, hfile, htype⟩ := resolveCandidates_serve h
        exact ⟨.candidate name hname hfound, hfile, htype⟩
      obtain ⟨e, hstatus, h⟩ := exceptBind_eq_ok.mp h
      split at h
      next content =>
        cases h
        exact ⟨.path rfl, ⟨content, Disk.status?_eq_ok_some.mp hstatus⟩, rfl⟩
      next =>
        obtain ⟨index, hindex, h⟩ := exceptBind_eq_ok.mp h
        cases index with
        | none => exact fallback h
        | some q =>
          cases h
          obtain ⟨name, hname, hfound, hfile⟩ := firstRegular_eq_ok_some hindex
          exact ⟨.index name hname hfound, hfile, rfl⟩
      next => exact fallback h

/-- An index found through a directory lies below the canonical path of that directory. -/
theorem index_confined {d : Disk} {root base path requested name file : Text}
    (hbase : d.canonical root = .ok base)
    (hrequested : safeJoin d root (some path) = .ok (some requested))
    (hindex : safeJoin d requested (some name) = .ok (some file)) :
    ∃ place, d.canonical requested = .ok place ∧ Confined place file ∧
      (Confined base place → Confined base file) ∧
      (place = requested → Confined base file ∧ Confined requested file) ∧
      (¬RequestLoops d root path → place = requested) := by
  obtain ⟨_, place, _, hplace, _, hwithin⟩ := safeJoin_eq_ok_some.mp hindex
  have hbelow : Confined place file := liesWithin_iff_confined.mp hwithin
  have habove : Confined base requested := safeJoin_confined hrequested hbase
  refine ⟨place, hplace, hbelow, fun hin => hin.trans hbelow, ?_, fun hloop => ?_⟩
  · rintro rfl
    exact ⟨habove.trans hbelow, hbelow⟩
  · have hsame := safeJoin_canonical hrequested hloop
    exact Except.ok.inj (hplace.symm.trans hsame)

theorem resolve_serves_confined {d : Disk} {config : ServerConfig}
    {location : Option LocationRule} {path file mediaType : Text}
    (h : resolve d config location path = .ok (.serve file mediaType)) :
    (∃ content, d.status file = .ok (.file content)) ∧ mediaType = mediaTypeOf file ∧
      ∃ base requested, d.canonical (config.rootFor location d.cwd) = .ok base ∧
        safeJoin d (config.rootFor location d.cwd) (some path) = .ok (some requested) ∧
        Confined base requested ∧
        ((file = requested ∧ Confined base file) ∨
          (∃ name ∈ rootedCandidates location,
            safeJoin d (config.rootFor location d.cwd) (some name) = .ok (some file) ∧
            Confined base file) ∨
          ∃ name ∈ config.indexFiles, safeJoin d requested (some name) = .ok (some file) ∧
            ∃ place, d.canonical requested = .ok place ∧ Confined place file ∧
              (Confined base place → Confined base file) ∧
              (place = requested → Confined base file ∧ Confined requested file) ∧
              (¬RequestLoops d (config.rootFor location d.cwd) path → place = requested)) := by
  obtain ⟨requested, hrequested, hserved, hregular, htype⟩ := resolve_serve h
  obtain ⟨_, base, _, hbase, _, _⟩ := safeJoin_eq_ok_some.mp hrequested
  have habove : Confined base requested := safeJoin_confined hrequested hbase
  refine ⟨hregular, htype, base, requested, hbase, hrequested, habove, ?_⟩
  cases hserved with
  | path same =>
    subst same
    exact Or.inl ⟨rfl, habove⟩
  | candidate name listed joined =>
    exact Or.inr (Or.inl ⟨name, listed, joined, safeJoin_confined joined hbase⟩)
  | index name listed joined =>
    exact Or.inr (Or.inr ⟨name, listed, joined, index_confined hbase hrequested joined⟩)

/-- A site with a link out of it, and a link that reaches it through a loop. -/
def loopedSite : Disk := .ofTop <| .directory [
  ("site".toList, .directory [
    ("index.html".toList, .file []),
    ("out".toList, .link "../outside".toList),
    ("loop".toList, .link "loop".toList),
    ("a".toList, .link "loop/../out".toList)]),
  ("outside".toList, .directory [("index.html".toList, .file [])])]

def loopedConfig : ServerConfig where
  documentRoot := "/site".toList
  indexFiles := defaultIndexFiles
  baseDir := ['/']

theorem resolve_loopedSite :
    resolve loopedSite loopedConfig none "/a".toList =
      .ok (.serve "/outside/index.html".toList "text/html".toList) := by cbv

theorem resolve_serves_confined_home :
    resolve loopedSite loopedConfig none "/".toList =
        .ok (.serve "/site/index.html".toList "text/html".toList) ∧
      (∃ content, loopedSite.status "/site/index.html".toList = .ok (.file content)) ∧
      ∃ base requested, loopedSite.canonical "/site".toList = .ok base ∧
        safeJoin loopedSite "/site".toList (some "/".toList) = .ok (some requested) ∧
        Confined base requested := by
  have h : resolve loopedSite loopedConfig none "/".toList =
      .ok (.serve "/site/index.html".toList "text/html".toList) := by cbv
  obtain ⟨hregular, _, base, requested, hbase, hrequested, habove, _⟩ := resolve_serves_confined h
  exact ⟨h, hregular, base, requested, hbase, hrequested, habove⟩

/-- Through a loop the index lies outside the root. -/
theorem resolve_serves_outside : ¬∀ (d : Disk) (config : ServerConfig)
    (location : Option LocationRule) (path file mediaType base : Text),
    resolve d config location path = .ok (.serve file mediaType) →
      d.canonical (config.rootFor location d.cwd) = .ok base → Confined base file := by
  intro h
  have hbase : loopedSite.canonical (loopedConfig.rootFor none loopedSite.cwd) =
      .ok "/site".toList := by cbv
  rcases h _ _ _ _ _ _ _ resolve_loopedSite hbase with heq | hbelow
  · exact absurd heq (by decide +kernel)
  · exact absurd hbelow (by decide +kernel)

end SitePreview
