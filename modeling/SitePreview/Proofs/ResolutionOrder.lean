import Mathlib
import SitePreview.Proofs.FirstElement
import SitePreview.Proofs.Following
import SitePreview.Proofs.LexicalJoin
import SitePreview.Serving.Resolve

namespace SitePreview

section Looks

variable (stat : Text → Except FileFault Entry)

def ShowsRegular (p : Text) : Prop := ∃ content, stat p = .ok (.file content)

/-- A look-up fails for another reason than that nothing is there. -/
def FailsAt (p : Text) (fault : FileFault) : Prop :=
  stat p = .error fault ∧ fault.error ≠ .missing ∧ fault.error ≠ .notDirectory

/-- Looking ends at a path. -/
def EndsAt (p : Text) : Prop := ShowsRegular stat p ∨ ∃ fault, FailsAt stat p fault

def isDirectoryAt (p : Text) : Bool :=
  match stat p with
  | .ok e => e.isDirectory
  | .error _ => false

/-- What looking at paths in order comes to. -/
inductive Looks (paths : List Text) : Except FileFault (Option Text) → Prop
  | found {p} (first : IsFirst (EndsAt stat) paths p) (regular : ShowsRegular stat p) :
    Looks paths (.ok (some p))
  | failed {p fault} (first : IsFirst (EndsAt stat) paths p) (fails : FailsAt stat p fault) :
    Looks paths (.error fault)
  | nothing (passed : ∀ p ∈ paths, ¬EndsAt stat p) : Looks paths (.ok none)

variable {stat} {p : Text} {fault : FileFault} {paths more : List Text}
  {found : Except FileFault (Option Text)}

theorem FailsAt.unique {other : FileFault} (h : FailsAt stat p fault)
    (hother : FailsAt stat p other) : fault = other :=
  Except.error.inj (h.1.symm.trans hother.1)

theorem ShowsRegular.not_failsAt (h : ShowsRegular stat p) : ¬FailsAt stat p fault := by
  obtain ⟨content, hcontent⟩ := h
  rintro ⟨herror, _⟩
  rw [hcontent] at herror
  cases herror

theorem presentOf_cases (stat : Text → Except FileFault Entry) (p : Text) :
    (∃ content, Disk.presentOf (stat p) = .ok (some (.file content)) ∧ ShowsRegular stat p) ∨
      (∃ fault, Disk.presentOf (stat p) = .error fault ∧ FailsAt stat p fault) ∨
      (¬EndsAt stat p ∧
        ((isDirectoryAt stat p = true ∧
            ∃ entries, Disk.presentOf (stat p) = .ok (some (.directory entries))) ∨
          (isDirectoryAt stat p = false ∧ ∃ e, Disk.presentOf (stat p) = .ok e ∧
            ∀ content entries, e ≠ some (.file content) ∧ e ≠ some (.directory entries)))) := by
  cases hstat : stat p with
  | ok e =>
    cases e with
    | file content => exact Or.inl ⟨content, rfl, content, hstat⟩
    | directory entries =>
      simp [Disk.presentOf, EndsAt, ShowsRegular, FailsAt, isDirectoryAt, hstat, Entry.isDirectory]
    | link target =>
      simp [Disk.presentOf, EndsAt, ShowsRegular, FailsAt, isDirectoryAt, hstat, Entry.isDirectory]
    | pipe =>
      simp [Disk.presentOf, EndsAt, ShowsRegular, FailsAt, isDirectoryAt, hstat, Entry.isDirectory]
  | error fault =>
    obtain ⟨error, path⟩ := fault
    cases error <;>
      simp [Disk.presentOf, EndsAt, ShowsRegular, FailsAt, isDirectoryAt, hstat]

theorem Looks.of_showsRegular (h : ShowsRegular stat p) (paths : List Text) :
    Looks stat (p :: paths) (.ok (some p)) := .found ⟨[], paths, rfl, Or.inl h, by simp⟩ h

theorem Looks.of_failsAt (h : FailsAt stat p fault) (paths : List Text) :
    Looks stat (p :: paths) (.error fault) :=
  .failed ⟨[], paths, rfl, Or.inr ⟨fault, h⟩, by simp⟩ h

theorem Looks.cons (hp : ¬EndsAt stat p) (h : Looks stat paths found) :
    Looks stat (p :: paths) found := by
  have hfront : ∀ q ∈ [p], ¬EndsAt stat q := by simpa using hp
  cases h with
  | found first regular => exact .found (first.append_right hfront) regular
  | failed first fails => exact .failed (first.append_right hfront) fails
  | nothing passed => exact .nothing (List.forall_mem_cons.mpr ⟨hp, passed⟩)

/-- Where the first paths show nothing, what comes after them decides. -/
theorem Looks.append (h : Looks stat paths (.ok none)) (hmore : Looks stat more found) :
    Looks stat (paths ++ more) found := by
  cases h with
  | nothing passed =>
    cases hmore with
    | found first regular => exact .found (first.append_right passed) regular
    | failed first fails => exact .failed (first.append_right passed) fails
    | nothing further => exact .nothing (List.forall_mem_append.mpr ⟨passed, further⟩)

theorem Looks.append_of_found (h : Looks stat paths (.ok (some p))) (more : List Text) :
    Looks stat (paths ++ more) (.ok (some p)) := by
  cases h with
  | found first regular => exact .found (first.append_left more) regular

theorem Looks.append_of_failed (h : Looks stat paths (.error fault)) (more : List Text) :
    Looks stat (paths ++ more) (.error fault) := by
  cases h with
  | failed first fails => exact .failed (first.append_left more) fails

theorem Looks.unique {other : Except FileFault (Option Text)} (h : Looks stat paths found)
    (hother : Looks stat paths other) : found = other := by
  cases h with
  | found first regular =>
    cases hother with
    | found first' _ => rw [first.unique first']
    | failed first' fails => exact absurd fails (first.unique first' ▸ regular).not_failsAt
    | nothing passed => exact absurd first.holds (passed _ first.mem)
  | failed first fails =>
    cases hother with
    | found first' regular => exact absurd fails (first'.unique first ▸ regular).not_failsAt
    | failed first' fails' =>
      cases first.unique first'
      rw [fails.unique fails']
    | nothing passed => exact absurd first.holds (passed _ first.mem)
  | nothing passed =>
    cases hother with
    | found first _ => exact absurd first.holds (passed _ first.mem)
    | failed first _ => exact absurd first.holds (passed _ first.mem)
    | nothing _ => rfl

/-- Looking fails where a look-up fails before the first regular file. -/
theorem Looks.failed_iff (h : Looks stat paths found) : (∃ fault, found = .error fault) ↔
    ∃ before p after fault, paths = before ++ p :: after ∧ FailsAt stat p fault ∧
      ∀ q ∈ before, ¬ShowsRegular stat q := by
  constructor
  · rintro ⟨fault, rfl⟩
    cases h with
    | failed first fails =>
      obtain ⟨before, after, hpaths, _, hbefore⟩ := first
      exact ⟨before, _, after, fault, hpaths, fails, fun q hq hr => hbefore q hq (Or.inl hr)⟩
  · rintro ⟨before, p, after, fault, rfl, fails, hbefore⟩
    cases h with
    | failed first fails' => exact ⟨_, rfl⟩
    | nothing passed => exact absurd (Or.inr ⟨fault, fails⟩) (passed p (by simp))
    | found first regular =>
      obtain ⟨front, rest, hpaths, _, hfront⟩ := first
      rcases List.append_eq_append_iff.mp hpaths with ⟨gap, hgap, hrest⟩ | ⟨gap, hgap, hrest⟩
      · cases gap with
        | nil => exact absurd fails ((List.cons.inj hrest).1 ▸ regular).not_failsAt
        | cons q gap =>
          cases (List.cons.inj hrest).1
          exact absurd (Or.inr ⟨fault, fails⟩) (hfront p (by simp [hgap]))
      · cases gap with
        | nil => exact absurd fails ((List.cons.inj hrest).1 ▸ regular).not_failsAt
        | cons q gap =>
          cases (List.cons.inj hrest).1
          exact absurd regular (hbefore _ (by simp [hgap]))

end Looks

theorem Outcome.reason_notFound_iff (inDirectory : Bool) :
    (Outcome.notFound inDirectory).reason = "Directory index not found".toList ↔
      inDirectory = true := by
  cases inDirectory <;> decide

/-- The paths that some names join to, without the names that are refused. -/
def joinedTo (d : Disk) (directory : Text) (names : List Text) : List Text :=
  names.filterMap fun name => (safeJoin d directory (some name)).toOption.join

/-- The paths that are tried in a location for a path that was joined, in their order. -/
def triedPaths (d : Disk) (stat : Text → Except FileFault Entry) (config : ServerConfig)
    (location : Option LocationRule) (requested : Text) : List Text :=
  requested ::
    ((if isDirectoryAt stat requested then joinedTo d requested config.indexFiles else []) ++
      joinedTo d (config.rootFor location d.cwd) (rootedCandidates location))

/-- The target that requests in a location are passed on to. -/
def proxyOf (location : Option LocationRule) : Option Text :=
  (location.bind LocationRule.proxyTarget).filter (· ≠ [])

/-- What a request comes to in a location. -/
inductive ResolvesTo (d : Disk) (stat : Text → Except FileFault Entry) (config : ServerConfig)
    (location : Option LocationRule) (path : Text) : Except FileFault Outcome → Prop
  | proxied {target} (named : proxyOf location = some target) :
    ResolvesTo d stat config location path (.ok (.proxy target))
  | forbidden (own : proxyOf location = none)
    (refused : safeJoin d (config.rootFor location d.cwd) (some path) = .ok none) :
    ResolvesTo d stat config location path (.ok .forbidden)
  | served {requested file} (own : proxyOf location = none)
    (joined : safeJoin d (config.rootFor location d.cwd) (some path) = .ok (some requested))
    (found : Looks stat (triedPaths d stat config location requested) (.ok (some file))) :
    ResolvesTo d stat config location path (.ok (.serve file (mediaTypeOf file)))
  | nothing {requested} (own : proxyOf location = none)
    (joined : safeJoin d (config.rootFor location d.cwd) (some path) = .ok (some requested))
    (passed : Looks stat (triedPaths d stat config location requested) (.ok none)) :
    ResolvesTo d stat config location path (.ok (.notFound (isDirectoryAt stat requested)))
  | failed {requested fault} (own : proxyOf location = none)
    (joined : safeJoin d (config.rootFor location d.cwd) (some path) = .ok (some requested))
    (fails : Looks stat (triedPaths d stat config location requested) (.error fault)) :
    ResolvesTo d stat config location path (.error fault)

section Resolution

variable {d : Disk} {stat : Text → Except FileFault Entry} {config : ServerConfig}
  {location : Option LocationRule} {path directory root requested : Text}

theorem joinedTo_cons {name : Text} {names : List Text} {found : Option Text}
    (h : safeJoin d directory (some name) = .ok found) :
    joinedTo d directory (name :: names) = found.toList ++ joinedTo d directory names := by
  cases found <;> simp [joinedTo, h, Except.toOption]

theorem safeJoinFault_of_ok {found : Option Text} (h : safeJoin d root (some path) = .ok found) :
    safeJoinFault d root path = .ok found := by
  rw [safeJoinFault, h]
  rfl

theorem firstRegularBy_looks (hd : d.IsNulFree) (hdirectory : NulFree directory)
    (names : List Text) :
    Looks stat (joinedTo d directory names) (firstRegularBy d stat directory names) := by
  induction names with
  | nil => exact .nothing (by simp [joinedTo])
  | cons name names ih =>
    obtain ⟨found, hjoin, _⟩ := exists_safeJoin hd hdirectory (some name)
    rw [joinedTo_cons hjoin, firstRegularBy, safeJoinFault_of_ok hjoin]
    cases found with
    | none => exact ih
    | some p =>
      rcases presentOf_cases stat p with ⟨content, hpresent, hregular⟩ |
        ⟨fault, hpresent, hfails⟩ | ⟨hpassed, ⟨_, entries, hpresent⟩ | ⟨_, e, hpresent, hother⟩⟩
      · simp only [bind, Except.bind, hpresent]
        exact .of_showsRegular hregular _
      · simp only [bind, Except.bind, hpresent]
        exact .of_failsAt hfails _
      · simp only [bind, Except.bind, hpresent]
        exact ih.cons hpassed
      · simp only [bind, Except.bind, hpresent]
        split
        next content => exact absurd rfl (hother content []).1
        next => exact ih.cons hpassed

theorem resolveCandidatesBy_resolvesTo (hd : d.IsNulFree)
    (hroot : NulFree (config.rootFor location d.cwd)) (own : proxyOf location = none)
    (joined : safeJoin d (config.rootFor location d.cwd) (some path) = .ok (some requested))
    {before : List Text} (passed : Looks stat before (.ok none))
    (order : triedPaths d stat config location requested =
      before ++ joinedTo d (config.rootFor location d.cwd) (rootedCandidates location)) :
    ResolvesTo d stat config location path (resolveCandidatesBy d stat
      (config.rootFor location d.cwd) location (isDirectoryAt stat requested)) := by
  have hlooks := passed.append (firstRegularBy_looks hd hroot (rootedCandidates location))
  rw [← order] at hlooks
  rw [resolveCandidatesBy]
  cases hfound : firstRegularBy d stat (config.rootFor location d.cwd)
      (rootedCandidates location) with
  | error fault =>
    rw [hfound] at hlooks
    exact .failed own joined hlooks
  | ok found =>
    rw [hfound] at hlooks
    cases found with
    | none => exact .nothing own joined hlooks
    | some file => exact .served own joined hlooks

theorem resolveFileBy_resolvesTo (hd : d.IsNulFree)
    (hroot : NulFree (config.rootFor location d.cwd)) (own : proxyOf location = none) :
    ResolvesTo d stat config location path (resolveFileBy d stat config location path) := by
  obtain ⟨found, joined, hfree⟩ := exists_safeJoin hd hroot (some path)
  rw [resolveFileBy]
  simp only [safeJoinFault_of_ok joined, bind, Except.bind]
  cases found with
  | none => exact .forbidden own joined
  | some requested =>
    rcases presentOf_cases stat requested with ⟨content, hpresent, hregular⟩ |
      ⟨fault, hpresent, hfails⟩ |
      ⟨hpassed, ⟨hdirectory, entries, hpresent⟩ | ⟨hdirectory, e, hpresent, hother⟩⟩
    · simp only [hpresent]
      exact .served own joined (.of_showsRegular hregular _)
    · simp only [hpresent]
      exact .failed own joined (.of_failsAt hfails _)
    · simp only [hpresent]
      have order : triedPaths d stat config location requested =
          (requested :: joinedTo d requested config.indexFiles) ++
            joinedTo d (config.rootFor location d.cwd) (rootedCandidates location) := by
        rw [triedPaths, if_pos hdirectory, List.cons_append]
      have hindex : Looks stat (requested :: joinedTo d requested config.indexFiles)
          (firstRegularBy d stat requested config.indexFiles) :=
        (firstRegularBy_looks hd (hfree requested rfl) config.indexFiles).cons hpassed
      cases hfound : firstRegularBy d stat requested config.indexFiles with
      | error fault =>
        rw [hfound] at hindex
        exact .failed own joined (order ▸ hindex.append_of_failed _)
      | ok index =>
        rw [hfound] at hindex
        cases index with
        | some file => exact .served own joined (order ▸ hindex.append_of_found _)
        | none =>
          have hlast := resolveCandidatesBy_resolvesTo hd hroot own joined hindex order
          rwa [hdirectory] at hlast
    · have order : triedPaths d stat config location requested =
          [requested] ++
            joinedTo d (config.rootFor location d.cwd) (rootedCandidates location) := by
        simp [triedPaths, hdirectory]
      have hpath : Looks stat [requested] (.ok none) := .nothing (by simpa using hpassed)
      have hlast := resolveCandidatesBy_resolvesTo hd hroot own joined hpath order
      rw [hdirectory] at hlast
      simp only [hpresent]
      split
      next content => exact absurd rfl (hother content []).1
      next entries => exact absurd rfl (hother [] entries).2
      next => exact hlast

theorem resolveBy_of_proxy {target : Text} (h : proxyOf location = some target) :
    resolveBy d stat config location path = .ok (.proxy target) := by
  obtain ⟨htarget, hfilled⟩ := Option.filter_eq_some_iff.mp h
  obtain ⟨c, cs, rfl⟩ := List.exists_cons_of_ne_nil (by simpa using hfilled)
  rw [resolveBy, htarget]

theorem resolveBy_of_own (h : proxyOf location = none) :
    resolveBy d stat config location path = resolveFileBy d stat config location path := by
  unfold resolveBy
  split
  next c cs htarget => simp [proxyOf, htarget] at h
  next => rfl

theorem resolveBy_resolvesTo (hd : d.IsNulFree)
    (hroot : NulFree (config.rootFor location d.cwd)) :
    ResolvesTo d stat config location path (resolveBy d stat config location path) := by
  cases hproxy : proxyOf location with
  | some target =>
    rw [resolveBy_of_proxy hproxy]
    exact .proxied hproxy
  | none =>
    rw [resolveBy_of_own hproxy]
    exact resolveFileBy_resolvesTo hd hroot hproxy

theorem ResolvesTo.unique {result other : Except FileFault Outcome}
    (h : ResolvesTo d stat config location path result)
    (hother : ResolvesTo d stat config location path other) : result = other := by
  cases h <;> cases hother <;> grind [Looks.unique]

theorem nulFree_joinedTo (hd : d.IsNulFree) (hdirectory : NulFree directory) (names : List Text) :
    ∀ p ∈ joinedTo d directory names, NulFree p := by
  intro p hp
  obtain ⟨name, _, hname⟩ := List.mem_filterMap.mp hp
  obtain ⟨found, hjoin, hfree⟩ := exists_safeJoin hd hdirectory (some name)
  rw [hjoin] at hname
  exact hfree p hname

theorem nulFree_triedPaths (hd : d.IsNulFree) (hroot : NulFree (config.rootFor location d.cwd))
    (hrequested : NulFree requested) :
    ∀ p ∈ triedPaths d stat config location requested, NulFree p := by
  refine List.forall_mem_cons.mpr ⟨hrequested, List.forall_mem_append.mpr ⟨?_, ?_⟩⟩
  · split
    · exact nulFree_joinedTo hd hrequested config.indexFiles
    · simp
  · exact nulFree_joinedTo hd hroot (rootedCandidates location)

theorem exists_failsAt_of_resolveBy (hd : d.IsNulFree)
    (hroot : NulFree (config.rootFor location d.cwd)) {fault : FileFault}
    (h : resolveBy d stat config location path = .error fault) :
    ∃ p, NulFree p ∧ FailsAt stat p fault := by
  have hresolves : ResolvesTo d stat config location path
      (resolveBy d stat config location path) := resolveBy_resolvesTo hd hroot
  rw [h] at hresolves
  cases hresolves with
  | failed own joined fails =>
    obtain ⟨found, hfound, hfree⟩ := exists_safeJoin hd hroot (some path)
    cases joined.symm.trans hfound
    cases fails with
    | failed first hfails =>
      exact ⟨_, nulFree_triedPaths hd hroot (hfree _ rfl) _ first.mem, hfails⟩

/-- A request fails where a look-up fails before the first regular file. -/
theorem resolveBy_fails_iff (hd : d.IsNulFree) (hroot : NulFree (config.rootFor location d.cwd)) :
    (∃ fault, resolveBy d stat config location path = .error fault) ↔
      proxyOf location = none ∧
        ∃ requested, safeJoin d (config.rootFor location d.cwd) (some path) = .ok (some requested) ∧
          ∃ before p after fault,
            triedPaths d stat config location requested = before ++ p :: after ∧
              FailsAt stat p fault ∧ ∀ q ∈ before, ¬ShowsRegular stat q := by
  have hresolves : ResolvesTo d stat config location path
      (resolveBy d stat config location path) := resolveBy_resolvesTo hd hroot
  constructor
  · rintro ⟨fault, h⟩
    rw [h] at hresolves
    cases hresolves with
    | failed own joined fails => exact ⟨own, _, joined, fails.failed_iff.mp ⟨fault, rfl⟩⟩
  · rintro ⟨own, requested, joined, hfails⟩
    generalize resolveBy d stat config location path = result at hresolves ⊢
    cases hresolves with
    | proxied named => cases own.symm.trans named
    | forbidden _ refused => cases joined.symm.trans refused
    | served _ joined' found =>
      cases joined.symm.trans joined'
      exact absurd (found.failed_iff.mpr hfails) (by simp)
    | nothing _ joined' passed =>
      cases joined.symm.trans joined'
      exact absurd (passed.failed_iff.mpr hfails) (by simp)
    | failed _ _ _ => exact ⟨_, rfl⟩

/-- Whatever is said of each path, a request comes to what the order of the paths gives, and it
fails only as a look-up does, never for a NUL. -/
theorem resolveBy_order (hd : d.IsNulFree) (hroot : NulFree (config.rootFor location d.cwd))
    (hstat : ∀ p fault, stat p = .error fault → fault.error = .nulCharacter → ¬NulFree p)
    (path : Text) :
    (∀ target, proxyOf location = some target → ∀ other see asked,
      resolveBy other see config location asked = .ok (.proxy target)) ∧
    (∀ result, resolveBy d stat config location path = result ↔
      ResolvesTo d stat config location path result) ∧
    (∀ requested inDirectory,
      safeJoin d (config.rootFor location d.cwd) (some path) = .ok (some requested) →
        resolveBy d stat config location path = .ok (.notFound inDirectory) →
          ((Outcome.notFound inDirectory).reason = "Directory index not found".toList ↔
            isDirectoryAt stat requested = true)) ∧
    ((∃ fault, resolveBy d stat config location path = .error fault) ↔
      proxyOf location = none ∧
        ∃ requested, safeJoin d (config.rootFor location d.cwd) (some path) = .ok (some requested) ∧
          ∃ before p after fault,
            triedPaths d stat config location requested = before ++ p :: after ∧
              FailsAt stat p fault ∧ ∀ q ∈ before, ¬ShowsRegular stat q) ∧
    ∀ fault, resolveBy d stat config location path = .error fault →
      fault.error ≠ .nulCharacter := by
  have hresolves : ResolvesTo d stat config location path
      (resolveBy d stat config location path) := resolveBy_resolvesTo hd hroot
  refine ⟨fun target h other see asked => resolveBy_of_proxy h, fun result => ⟨?_, hresolves.unique⟩,
    fun requested inDirectory joined h => ?_, resolveBy_fails_iff hd hroot, fun fault h hnul => ?_⟩
  · rintro rfl
    exact hresolves
  · rw [h] at hresolves
    cases hresolves with
    | nothing _ joined' _ =>
      cases joined.symm.trans joined'
      exact Outcome.reason_notFound_iff _
  · obtain ⟨p, hfree, hfails⟩ := exists_failsAt_of_resolveBy hd hroot h
    exact hstat p fault hfails.1 hnul hfree

end Resolution

/-- A directory without an index, and a page that stands in for it. -/
def fallbackSite : Disk := .ofTop <| .directory [
  ("site".toList, .directory [
    ("docs".toList, .directory []),
    ("fallback.html".toList, .file [])])]

def fallbackConfig : ServerConfig where
  documentRoot := "/site".toList
  indexFiles := defaultIndexFiles
  baseDir := ['/']

def fallbackRule : LocationRule where
  selector := .prefixed false
  matcher := ['/']
  tryFiles := some ["index.html".toList, "/../up.html".toList, "/fallback.html".toList]

theorem resolveBy_order_fallback :
    resolve fallbackSite fallbackConfig (some fallbackRule) "/docs".toList =
        .ok (.serve "/site/fallback.html".toList "text/html".toList) ∧
      ResolvesTo fallbackSite fallbackSite.status fallbackConfig (some fallbackRule)
        "/docs".toList (.ok (.serve "/site/fallback.html".toList "text/html".toList)) := by
  have hserved : resolve fallbackSite fallbackConfig (some fallbackRule) "/docs".toList =
      .ok (.serve "/site/fallback.html".toList "text/html".toList) := by cbv
  have hd : fallbackSite.IsNulFree :=
    .of_targets (by decide)
      (by simp [fallbackSite, Disk.ofTop, Entry.targets, Entry.targetsAll])
  have hroot : NulFree (fallbackConfig.rootFor (some fallbackRule) fallbackSite.cwd) := by decide
  obtain ⟨_, hresolves, _⟩ := resolveBy_order hd hroot
    (fun _ _ h hnul hfree => hfree (Disk.mem_of_status_nulCharacter h hnul)) "/docs".toList
  exact ⟨hserved, (hresolves _).mp hserved⟩

end SitePreview
