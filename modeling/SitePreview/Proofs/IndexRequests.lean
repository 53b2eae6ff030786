import Mathlib
import SitePreview.Proofs.ResolutionOrder
import SitePreview.Proofs.ServedFiles

namespace SitePreview

section Segments

variable {path name : Text} {segments more stack out : List Text} {segment : Text}

theorem requestSegments_requestedPath (path : Text) :
    requestSegments (requestedPath (some path)) = requestSegments path := by
  cases path with
  | nil => rfl
  | cons c cs => rfl

theorem segmentStep_append (h : segmentStep stack segment = some out) (below : List Text) :
    segmentStep (stack ++ below) segment = some (out ++ below) := by
  unfold segmentStep at h ⊢
  split at h
  next hdot =>
    cases h
    rw [if_pos hdot]
  next hdot =>
    rw [if_neg hdot]
    split at h
    next hup =>
      rw [if_pos hup]
      cases stack with
      | nil => cases h
      | cons top rest =>
        cases h
        rfl
    next hup =>
      rw [if_neg hup]
      split at h
      next => cases h
      next hides =>
        cases h
        rw [if_neg hides]
        rfl

/-- A run that takes nothing back from below its stack leaves what stands there. -/
theorem foldlM_segmentStep_append (h : segments.foldlM segmentStep stack = some out)
    (below : List Text) : segments.foldlM segmentStep (stack ++ below) = some (out ++ below) := by
  induction segments generalizing stack with
  | nil =>
    cases h
    rfl
  | cons segment segments ih =>
    rw [List.foldlM_cons] at h ⊢
    obtain ⟨next, hnext, h⟩ := Option.bind_eq_some_iff.mp h
    rw [segmentStep_append hnext below]
    exact ih h

theorem requestSegments_append_slash (hpath : requestSegments path = some segments)
    (hname : requestSegments name = some more) :
    requestSegments (path ++ '/' :: name) = some (segments ++ more) := by
  simp only [requestSegments] at hpath hname ⊢
  have hraw : Text.replace '\\' '/' (path ++ '/' :: name) =
      Text.replace '\\' '/' path ++ '/' :: Text.replace '\\' '/' name := List.map_append
  split at hpath
  next => cases hpath
  next hnul =>
    split at hname
    next => cases hname
    next hnul' =>
      obtain ⟨stack, hstack, rfl⟩ := Option.map_eq_some_iff.mp hpath
      obtain ⟨top, htop, rfl⟩ := Option.map_eq_some_iff.mp hname
      rw [if_neg (by
        simp only [List.contains_iff_mem, hraw, List.mem_append, List.mem_cons, not_or] at hnul hnul' ⊢
        exact ⟨hnul, by decide, hnul'⟩)]
      simp only [hraw, partsAt_append_cons, List.foldlM_append, hstack]
      have hrun := foldlM_segmentStep_append htop stack
      rw [List.nil_append] at hrun
      simp only [Option.bind_eq_bind, Option.bind_some, hrun, Option.map_some, List.reverse_append]

end Segments

namespace Disk

/-- Where no loop is met, joining more segments goes on from the canonical path of the first. -/
theorem canonical_joinSegments_append {d : Disk} {root base q : Text} {segments more : List Text}
    (hbase : d.canonical root = .ok base) (hsegments : ∀ s ∈ segments, Path.IsName s)
    (hmore : ∀ s ∈ more, Path.IsName s) (h : d.canonical (joinSegments base segments) = .ok q)
    (hloop : ¬d.MeetsLoop (joinSegments base segments)) :
    d.canonical (joinSegments q more) = d.canonical (joinSegments base (segments ++ more)) := by
  obtain ⟨slashes, ns, hs, hns, rfl⟩ := canonical_parted hbase
  have hparts : ∀ s ∈ segments, Path.IsPart s := fun s hs => (hsegments s hs).isPart
  have hmoreParts : ∀ s ∈ more, Path.IsPart s := fun s hs => (hmore s hs).isPart
  have hfront : ∀ n ∈ ns ++ segments, Path.IsPart n := List.forall_mem_append.mpr ⟨hns, hparts⟩
  have hwhole : ∀ n ∈ (ns ++ segments) ++ more, Path.IsPart n :=
    List.forall_mem_append.mpr ⟨hfront, hmoreParts⟩
  have hjoined := joinSegments_of_parts hs hns hparts
  have habs : Path.isAbsolute (slashes ++ ['/'].intercalate (ns ++ segments)) = true := by
    rcases hs with rfl | rfl <;> rfl
  have hwalk : canonicalFrom d.root (d.root.linkCount + 1) []
      (d.start (slashes ++ ['/'].intercalate (ns ++ segments)))
      (Path.parts (slashes ++ ['/'].intercalate (ns ++ segments))) =
        canonicalFrom d.root (d.root.linkCount + 1) [] [] (ns ++ segments) := by
    rw [start_of_isAbsolute habs, canonicalFrom_parts_of_names hs fun n hn => (hfront n hn).unslashed]
  rw [hjoined, MeetsLoop, hwalk] at hloop
  rw [hjoined, canonical, hwalk] at h
  split at h
  next => cases h
  next place hplace =>
    cases h
    have hclear := canonicalFrom_isClear (IsClear.nil d.root) (fun n hn => (hfront n hn).unslashed) hplace
    have hplaceParts : ∀ n ∈ place.reverse, Path.IsPart n :=
      fun n hn => (hclear.isName n (List.mem_reverse.mp hn)).isPart
    have hreach : canonicalFrom d.root (d.root.linkCount + 1) [] [] place.reverse =
        .ok (.names place) := by
      have hclear' : IsClear d.root (place.reverse.reverse ++ []) := by simpa using hclear
      simpa using canonicalFrom_of_isClear hclear' (d.root.linkCount + 1) []
    have hon : canonicalFrom d.root (d.root.linkCount + 1) [] [] (place.reverse ++ more) =
        canonicalFrom d.root (d.root.linkCount + 1) [] [] ((ns ++ segments) ++ more) := by
      rw [canonicalFrom_append hreach, canonicalFrom_append hplace]
    have hbelow : joinSegments (Path.ofNames place.reverse) more =
        ['/'] ++ ['/'].intercalate (place.reverse ++ more) :=
      joinSegments_of_parts (Or.inl rfl) hplaceParts hmoreParts
    rw [hbelow, joinSegments_of_parts hs hns (List.forall_mem_append.mpr ⟨hparts, hmoreParts⟩),
      ← List.append_assoc ns]
    exact canonical_eq_of_walk (Or.inl rfl) hs
      (fun n hn => (List.forall_mem_append.mpr ⟨hplaceParts, hmoreParts⟩ n hn).unslashed)
      (fun n hn => (hwhole n hn).unslashed) hon
  next r hr => exact absurd ⟨r, hr⟩ hloop

end Disk

/-- Joining a name to what a path was joined to is joining both at once. -/
theorem safeJoin_append_slash {d : Disk} {root path requested name file : Text}
    (hpath : safeJoin d root (some path) = .ok (some requested))
    (hname : safeJoin d requested (some name) = .ok (some file))
    (hloop : ¬RequestLoops d root path) :
    safeJoin d root (some (path ++ '/' :: name)) = .ok (some file) := by
  have hown := safeJoin_canonical hpath hloop
  have habove {base : Text} (hbase : d.canonical root = .ok base) : Confined base requested :=
    safeJoin_confined hpath hbase
  have hbelow := safeJoin_confined hname hown
  obtain ⟨segments, base, hsegments, hbase, hrequested, _⟩ := safeJoin_eq_ok_some.mp hpath
  obtain ⟨more, place, hmore, hplace, hfile, _⟩ := safeJoin_eq_ok_some.mp hname
  cases hown.symm.trans hplace
  have hnames {p : Text} {found : List Text} (h : requestSegments (requestedPath (some p)) = some found) :
      ∀ s ∈ found, Path.IsName s := by
    intro s hs
    exact finalStack_isName ((requestSegments_eq_some.mp h).2 ▸ hs)
  have hsame := Disk.canonical_joinSegments_append hbase (hnames hsegments) (hnames hmore) hrequested
    fun hmeets => hloop ⟨base, segments, hbase, hsegments, hmeets⟩
  rw [requestSegments_requestedPath] at hsegments hmore
  refine safeJoin_eq_ok_some.mpr ⟨segments ++ more, base, ?_, hbase, hsame.symm.trans hfile, ?_⟩
  · rw [requestSegments_requestedPath]
    exact requestSegments_append_slash hsegments hmore
  · exact liesWithin_iff_confined.mpr ((habove hbase).trans hbelow)

/-- A request that is not passed on leads to a directory, and of the index names one is the first that
leads to a regular file. -/
structure IndexHit (d : Disk) (config : ServerConfig) (location : Option LocationRule)
    (path requested name file : Text) : Prop where
  own : proxyOf location = none
  joined : safeJoin d (config.rootFor location d.cwd) (some path) = .ok (some requested)
  directory : ∃ entries, d.status requested = .ok (.directory entries)
  first : ∃ before after, config.indexFiles = before ++ name :: after ∧
    firstRegular d requested before = .ok none
  named : safeJoin d requested (some name) = .ok (some file)
  regular : ∃ content, d.status file = .ok (.file content)

section Hits

variable {d : Disk} {config : ServerConfig} {location : Option LocationRule}
  {path requested name file : Text}

theorem firstRegularBy_append {stat : Text → Except FileFault Entry} {directory : Text}
    {before : List Text} (h : firstRegularBy d stat directory before = .ok none) (after : List Text) :
    firstRegularBy d stat directory (before ++ after) = firstRegularBy d stat directory after := by
  induction before with
  | nil => rfl
  | cons name before ih =>
    rw [firstRegularBy] at h
    rw [List.cons_append, firstRegularBy]
    obtain ⟨found, hjoin, h⟩ := exceptBind_eq_ok.mp h
    rw [hjoin]
    cases found with
    | none => exact ih h
    | some q =>
      obtain ⟨e, hstatus, h⟩ := exceptBind_eq_ok.mp h
      simp only [bind, Except.bind, hstatus]
      split at h
      next => cases h
      next => exact ih h

theorem firstRegular_cons (named : safeJoin d requested (some name) = .ok (some file))
    (regular : ∃ content, d.status file = .ok (.file content)) (after : List Text) :
    firstRegular d requested (name :: after) = .ok (some file) := by
  obtain ⟨content, hcontent⟩ := regular
  simp only [firstRegular, firstRegularBy, safeJoinFault_of_ok named, hcontent, Disk.presentOf, bind,
    Except.bind]
  rfl

theorem resolve_of_regular (own : proxyOf location = none)
    (joined : safeJoin d (config.rootFor location d.cwd) (some path) = .ok (some file))
    (regular : ∃ content, d.status file = .ok (.file content)) :
    resolve d config location path = .ok (.ofFile file) := by
  obtain ⟨content, hcontent⟩ := regular
  rw [resolve, resolveBy_of_own own]
  simp only [resolveFileBy, safeJoinFault_of_ok joined, hcontent, Disk.presentOf, bind, Except.bind]
  rfl

theorem IndexHit.resolve (hit : IndexHit d config location path requested name file) :
    resolve d config location path = .ok (.ofFile file) := by
  obtain ⟨entries, hentries⟩ := hit.directory
  obtain ⟨before, after, hindex, hbefore⟩ := hit.first
  have hfirst : firstRegularBy d d.status requested config.indexFiles = .ok (some file) := by
    rw [hindex, firstRegularBy_append hbefore]
    exact firstRegular_cons hit.named hit.regular after
  rw [SitePreview.resolve, resolveBy_of_own hit.own]
  simp only [resolveFileBy, safeJoinFault_of_ok hit.joined, hentries, Disk.presentOf, hfirst, bind,
    Except.bind]
  rfl

theorem resolve_index_by_name (hit : IndexHit d config location path requested name file)
    (unlooped : ¬RequestLoops d (config.rootFor location d.cwd) path) :
    resolve d config location path = .ok (.serve file (mediaTypeOf file)) ∧
      resolve d config location (path ++ '/' :: name) = .ok (.serve file (mediaTypeOf file)) := by
  have joined := safeJoin_append_slash hit.joined hit.named unlooped
  exact ⟨hit.resolve, resolve_of_regular hit.own joined hit.regular⟩

end Hits

/-- A site with a link to its pages, whose index is named on a detour. -/
def linkedSite : Disk := .ofTop <| .directory [
  ("site".toList, .directory [
    ("pages".toList, .directory [("home.html".toList, .file [])]),
    ("start".toList, .link "pages".toList)])]

def detourConfig : ServerConfig where
  documentRoot := "/site".toList
  indexFiles := ["none.html".toList, "old/../home.html".toList]
  baseDir := ['/']

theorem resolve_index_by_name_detour :
    resolve linkedSite detourConfig none "/start".toList =
        .ok (.serve "/site/pages/home.html".toList "text/html".toList) ∧
      resolve linkedSite detourConfig none "/start/old/../home.html".toList =
        .ok (.serve "/site/pages/home.html".toList "text/html".toList) := by
  have hit : IndexHit linkedSite detourConfig none "/start".toList "/site/pages".toList
      "old/../home.html".toList "/site/pages/home.html".toList :=
    { own := rfl
      joined := by cbv
      directory := ⟨[("home.html".toList, .file [])], by cbv⟩
      first := ⟨["none.html".toList], [], rfl, by cbv⟩
      named := by cbv
      regular := ⟨[], by cbv⟩ }
  refine resolve_index_by_name hit ?_
  rintro ⟨base, segments, hbase, hsegments, r, hr⟩
  have hbase' : linkedSite.canonical "/site".toList = .ok "/site".toList := by cbv
  cases hbase.symm.trans hbase'
  have hsegments' : requestSegments (requestedPath (some "/start".toList)) =
      some ["start".toList] := by cbv
  cases hsegments.symm.trans hsegments'
  have hwalk : Disk.canonicalFrom linkedSite.root (linkedSite.root.linkCount + 1) []
      (linkedSite.start (joinSegments "/site".toList ["start".toList]))
      (Path.parts (joinSegments "/site".toList ["start".toList])) =
        .ok (.names ["pages".toList, "site".toList]) := by cbv
  cases hr.symm.trans hwalk

/-- A site with a link to its pages that goes through a loop, and an index that is a link. -/
def loopedIndexSite : Disk := .ofTop <| .directory [
  ("site".toList, .directory [
    ("pages".toList, .directory [
      ("home.html".toList, .file []),
      ("index.html".toList, .link "home.html".toList)]),
    ("loop".toList, .link "loop".toList),
    ("start".toList, .link "loop/../pages".toList)])]

/-- Through a loop the index by its name is the link itself, not what it leads to. -/
theorem resolve_index_by_name_looped : ¬∀ (d : Disk) (config : ServerConfig)
    (location : Option LocationRule) (path requested name file : Text),
    IndexHit d config location path requested name file →
      resolve d config location (path ++ '/' :: name) = .ok (.serve file (mediaTypeOf file)) := by
  intro h
  have hit : IndexHit loopedIndexSite loopedConfig none "/start".toList "/site/pages".toList
      "index.html".toList "/site/pages/home.html".toList :=
    { own := rfl
      joined := by cbv
      directory := ⟨_, by cbv⟩
      first := ⟨[], _, rfl, rfl⟩
      named := by cbv
      regular := ⟨[], by cbv⟩ }
  have hlink : resolve loopedIndexSite loopedConfig none "/start/index.html".toList =
      .ok (.serve "/site/pages/index.html".toList "text/html".toList) := by cbv
  have hother : "/site/pages/index.html".toList ≠ "/site/pages/home.html".toList := by decide
  have hsame := hlink.symm.trans (h _ _ _ _ _ _ _ hit)
  injection hsame with hserved
  injection hserved with hfile
  exact hother hfile

end SitePreview
