import Mathlib
import SitePreview.Proofs.Containment
import SitePreview.Proofs.NulFree
import SitePreview.Proofs.RequestSegments

namespace SitePreview

theorem mem_foldl_scanSegment {segments stack : List Text} {s : Text}
    (h : s ∈ segments.foldl scanSegment stack) : s ∈ stack ∨ (s ∈ segments ∧ IsPushed s) := by
  induction segments generalizing stack with
  | nil => exact Or.inl h
  | cons first rest ih =>
    rcases ih h with hs | ⟨hs, hpushed⟩
    · unfold scanSegment at hs
      split at hs
      next => exact Or.inl hs
      next hdot =>
        split at hs
        next => exact Or.inl (List.mem_of_mem_tail hs)
        next hup =>
          rcases List.mem_cons.mp hs with rfl | hs
          · exact Or.inr ⟨by simp, fun h => hdot (Or.inl h), fun h => hdot (Or.inr h), hup⟩
          · exact Or.inl hs
    · exact Or.inr ⟨by simp [hs], hpushed⟩

theorem finalStack_isName {path s : Text} (h : s ∈ finalStack path) : Path.IsName s := by
  obtain ⟨hs, hne, hhere, hup⟩ :=
    (mem_foldl_scanSegment (List.mem_reverse.mp h)).resolve_left (by simp)
  rw [← partsAt_replace] at hs
  exact ⟨hne, not_mem_of_mem_partsAt hs, hhere, hup⟩

theorem finalStack_nulFree {path s : Text} (hpath : NulFree path) (h : s ∈ finalStack path) :
    NulFree s := by
  obtain ⟨hs, _⟩ := (mem_foldl_scanSegment (List.mem_reverse.mp h)).resolve_left (by simp)
  rw [← partsAt_replace] at hs
  have hraw : NulFree (Text.replace '\\' '/' path) := mt nul_mem_replace.mp hpath
  exact hraw.of_subset (sublist_of_mem_partsAt hs).subset

theorem nulFree_joinSegments {base : Text} {segments : List Text} (hbase : NulFree base)
    (h : ∀ s ∈ segments, NulFree s) : NulFree (joinSegments base segments) := by
  induction segments generalizing base with
  | nil => exact hbase
  | cons s segments ih =>
    obtain ⟨hs, hrest⟩ := List.forall_mem_cons.mp h
    exact ih (Path.nulFree_join hbase hs) hrest

theorem exists_safeJoin {d : Disk} {root : Text} (hd : d.IsNulFree) (hroot : NulFree root)
    (path : Option Text) :
    ∃ found, safeJoin d root path = .ok found ∧ ∀ p, found = some p → NulFree p := by
  unfold safeJoin
  rcases requestSegments_cases (requestedPath path) with ⟨hnone, _⟩ | ⟨hsome, hpassed⟩
  · rw [hnone]
    exact ⟨none, rfl, nofun⟩
  · have hpath : NulFree (requestedPath path) := fun held => hpassed (.nul held)
    obtain ⟨base, hbase, hfree⟩ := Disk.exists_canonical hd hroot
    obtain ⟨p, hp, hpfree⟩ := Disk.exists_canonical hd
      (nulFree_joinSegments hfree fun s hs => finalStack_nulFree hpath hs)
    rw [hsome]
    refine ⟨if liesWithin base p then some p else none, ?_, fun q hq => ?_⟩
    · exact exceptBind_eq_ok.mpr ⟨base, hbase, exceptBind_eq_ok.mpr ⟨p, hp, rfl⟩⟩
    · obtain ⟨_, heq⟩ := Option.ite_none_right_eq_some.mp hq
      exact Option.some.inj heq ▸ hpfree

theorem liesWithin_append_slash (directory rest : Text) :
    liesWithin directory (directory ++ '/' :: rest) = true := by
  simp only [liesWithin, Bool.or_eq_true, beq_iff_eq, List.isPrefixOf_iff_prefix,
    Text.lower_append_slash]
  right
  split
  · exact List.prefix_append _ _
  · exact ⟨rest.lower, by simp⟩

theorem liesWithin_of_ends_with_slash (front rest : Text) :
    liesWithin (front ++ ['/']) (front ++ '/' :: rest) = true := by
  simp only [liesWithin, Bool.or_eq_true, beq_iff_eq, List.isPrefixOf_iff_prefix,
    Text.lower_append_slash]
  right
  rw [Text.lower_eq_nil.mpr rfl, if_pos List.getLast?_concat]
  exact ⟨rest.lower, by simp⟩

theorem joinSegments_of_parts {slashes : Text} (hs : slashes = ['/'] ∨ slashes = ['/', '/'])
    {ns segments : List Text} (hns : ∀ n ∈ ns, Path.IsPart n)
    (hsegments : ∀ s ∈ segments, Path.IsPart s) :
    joinSegments (slashes ++ ['/'].intercalate ns) segments =
      slashes ++ ['/'].intercalate (ns ++ segments) := by
  induction segments generalizing ns with
  | nil => simp [joinSegments]
  | cons s segments ih =>
    obtain ⟨hpart, hrest⟩ := List.forall_mem_cons.mp hsegments
    have hlonger : ∀ n ∈ ns ++ [s], Path.IsPart n :=
      List.forall_mem_append.mpr ⟨hns, by simpa using hpart⟩
    have hjoined := ih hlonger hrest
    rwa [← Path.join_name_of_names hs hns hpart, List.append_assoc,
      List.singleton_append] at hjoined

theorem joinSegments_of_names {slashes : Text} (hs : slashes = ['/'] ∨ slashes = ['/', '/'])
    {ns segments : List Text} (hns : ∀ n ∈ ns, Path.IsName n)
    (hsegments : ∀ s ∈ segments, Path.IsName s) :
    joinSegments (slashes ++ ['/'].intercalate ns) segments =
      slashes ++ ['/'].intercalate (ns ++ segments) :=
  joinSegments_of_parts hs (fun n hn => (hns n hn).isPart) fun s hs => (hsegments s hs).isPart

theorem liesWithin_joinSegments {base : Text} (hbase : Path.IsNormal base) {segments : List Text}
    (hsegments : ∀ s ∈ segments, Path.IsName s) :
    liesWithin base (joinSegments base segments) = true := by
  obtain ⟨slashes, ns, hs, hns, rfl⟩ := hbase
  rw [joinSegments_of_names hs hns hsegments]
  by_cases hnone : segments = []
  · simp [hnone, liesWithin]
  · by_cases htop : ns = []
    · subst htop
      rcases hs with rfl | rfl
      · exact liesWithin_of_ends_with_slash [] _
      · exact liesWithin_of_ends_with_slash ['/'] _
    · rw [Path.intercalate_append htop hnone, ← List.append_assoc]
      exact liesWithin_append_slash _ _

theorem joinSegments_absolute {p cwd : Text} (hp : Path.isAbsolute p = true)
    {rest segments : List Text} (hrest : ∀ n ∈ rest, Path.IsName n)
    (hsegments : ∀ s ∈ segments, Path.IsName s) :
    joinSegments (Path.absolute cwd (Path.join p (['/'].intercalate rest))) segments =
      Path.absolute cwd (Path.join p (['/'].intercalate (rest ++ segments))) := by
  have hfound : ∀ ns : List Text, (∀ n ∈ ns, Path.IsName n) →
      Path.absolute cwd (Path.join p (['/'].intercalate ns)) =
        Path.leadingSlashes p ++ ['/'].intercalate (Path.collapse true (Path.names p) ++ ns) := by
    intro ns hns
    rw [Path.absolute, if_pos (Path.isAbsolute_join hp _), Path.normalize_join_intercalate hp hns]
  have hcollapsed : ∀ n ∈ Path.collapse true (Path.names p), Path.IsName n :=
    Path.collapse_isName fun n hn => not_mem_of_mem_partsAt (List.mem_filter.mp hn).1
  rw [hfound rest hrest, hfound _ (List.forall_mem_append.mpr ⟨hrest, hsegments⟩),
    joinSegments_of_names (Path.leadingSlashes_of_isAbsolute hp)
      (List.forall_mem_append.mpr ⟨hcollapsed, hrest⟩) hsegments, List.append_assoc]

namespace Disk

/-- No link stands at a path or below it. -/
def LinkFreeBelow (d : Disk) (base : Text) : Prop :=
  ∀ below target, d.root.at? (Path.names base ++ below) ≠ some (.link target)

/-- Below a path that is its own canonical path, names are taken as they stand where there are no
links. -/
theorem canonical_joinSegments {d : Disk} {base : Text} (hbase : d.canonical base = .ok base)
    (hlink : d.LinkFreeBelow base) {segments : List Text}
    (hsegments : ∀ s ∈ segments, Path.IsName s ∧ '\x00' ∉ s) :
    d.canonical (joinSegments base segments) = .ok (joinSegments base segments) := by
  have habs := canonical_isAbsolute hbase
  have hnames : ∀ s ∈ segments, Path.IsName s := fun s hs => (hsegments s hs).1
  obtain ⟨slashes, ns, hs, hns, heq⟩ := canonical_isNormal habs hbase
  have hunslashed : ∀ n ∈ ns, '/' ∉ n := fun n hn => (hns n hn).unslashed
  have hlonger : ∀ n ∈ ns ++ segments, '/' ∉ n :=
    List.forall_mem_append.mpr ⟨hunslashed, fun s hs => (hnames s hs).unslashed⟩
  have hwalk : canonicalFrom d.root (d.root.linkCount + 1) [] (d.start base) (Path.parts base) =
      canonicalFrom d.root (d.root.linkCount + 1) [] [] ns := by
    rw [start_of_isAbsolute habs, heq, canonicalFrom_parts_of_names hs hunslashed]
  have hwalkOn : canonicalFrom d.root (d.root.linkCount + 1) []
      (d.start (joinSegments base segments)) (Path.parts (joinSegments base segments)) =
        canonicalFrom d.root (d.root.linkCount + 1) [] [] (ns ++ segments) := by
    rw [start_of_isAbsolute (isAbsolute_joinSegments habs segments), heq,
      joinSegments_of_names hs hns hnames, canonicalFrom_parts_of_names hs hlonger]
  rw [canonical, hwalk] at hbase
  rw [canonical, hwalkOn]
  split at hbase
  next => cases hbase
  next place hplace =>
    have hclear := canonicalFrom_isClear (IsClear.nil d.root) hunslashed hplace
    have hplaceNames : ∀ n ∈ place.reverse, Path.IsName n :=
      fun n hn => hclear.isName n (List.mem_reverse.mp hn)
    have hfound : Path.names base = place.reverse := by
      rw [← Except.ok.inj hbase]
      exact Path.names_ofNames fun n hn => (hplaceNames n hn).isPart
    have hall := hclear.append hsegments (hfound ▸ hlink)
    have hjoined : joinSegments (Path.ofNames place.reverse) segments =
        Path.ofNames (place.reverse ++ segments) :=
      joinSegments_of_names (Or.inl rfl) hplaceNames hnames
    rw [canonicalFrom_append hplace, canonicalFrom_of_isClear hall, ← Except.ok.inj hbase, hjoined]
    simp
  next q hq =>
    obtain ⟨p, rest, hp, hrest, rfl, hmore⟩ := canonicalFrom_looped_append hq
    have hkept : ∀ n ∈ rest, Path.IsName n := fun n hn => hns n (hrest.subset hn)
    rw [hmore segments, ← Except.ok.inj hbase, joinSegments_absolute hp hkept hnames]

end Disk

theorem safeJoin_of_refused {path : Option Text} (h : RefusedPath (requestedPath path)) (d : Disk)
    (root : Text) : safeJoin d root path = .ok none := by
  unfold safeJoin
  rw [requestSegments_eq_none.mpr h]

theorem safeJoin_eq_of_finalStack_eq {path other : Option Text}
    (hpath : ¬RefusedPath (requestedPath path)) (hother : ¬RefusedPath (requestedPath other))
    (h : finalStack (requestedPath other) = finalStack (requestedPath path)) (d : Disk)
    (root : Text) : safeJoin d root other = safeJoin d root path := by
  unfold safeJoin
  rw [requestSegments_eq_some.mpr ⟨hpath, rfl⟩, requestSegments_eq_some.mpr ⟨hother, h⟩]

theorem safeJoin_of_linkFree {d : Disk} {root base : Text} {path : Option Text}
    (hpath : ¬RefusedPath (requestedPath path)) (hroot : d.canonical root = .ok base)
    (hbase : d.canonical base = .ok base) (hlink : d.LinkFreeBelow base) :
    safeJoin d root path =
      .ok (some (joinSegments base (finalStack (requestedPath path)))) := by
  have hsegments : ∀ s ∈ finalStack (requestedPath path), Path.IsName s ∧ '\x00' ∉ s :=
    fun s hs => ⟨finalStack_isName hs, finalStack_nulFree (fun held => hpath (.nul held)) hs⟩
  have hnormal := Disk.canonical_isNormal (Disk.canonical_isAbsolute hbase) hbase
  exact safeJoin_eq_ok_some.mpr ⟨_, base, requestSegments_eq_some.mpr ⟨hpath, rfl⟩, hroot,
    Disk.canonical_joinSegments hbase hlink hsegments,
    liesWithin_joinSegments hnormal fun s hs => (hsegments s hs).1⟩

/-- Which paths are refused is read off their text, whatever the disk holds. The others are joined
by the segments that they end with, as they stand where the canonical root is canonical and no link
stands at or below it. -/
theorem safeJoin_lexical {d : Disk} {root : Text} (hd : d.IsNulFree) (hroot : NulFree root)
    (path : Option Text) :
    (RefusedPath (requestedPath path) → ∀ other base, safeJoin other base path = .ok none) ∧
      (¬RefusedPath (requestedPath path) →
        (∃ found, safeJoin d root path = .ok found) ∧
        (∀ other, ¬RefusedPath (requestedPath other) →
          finalStack (requestedPath other) = finalStack (requestedPath path) →
            safeJoin d root other = safeJoin d root path) ∧
        ∃ base, d.canonical root = .ok base ∧
          (d.LinkFreeBelow base → d.canonical base = .ok base → safeJoin d root path =
            .ok (some (joinSegments base (finalStack (requestedPath path))))) ∧
          (Disk.IsClear d.root (d.start root) → ¬d.MeetsLoop root →
            d.canonical base = .ok base)) := by
  refine ⟨fun h => safeJoin_of_refused h, fun hpath => ?_⟩
  obtain ⟨found, hfound, _⟩ := exists_safeJoin hd hroot path
  obtain ⟨base, hbase, _⟩ := Disk.exists_canonical hd hroot
  refine ⟨⟨found, hfound⟩, fun other hother heq => ?_, base, hbase, fun hlink hown => ?_,
    fun hstart hloop => ?_⟩
  · exact safeJoin_eq_of_finalStack_eq hpath hother heq d root
  · exact safeJoin_of_linkFree hpath hbase hown hlink
  · exact Disk.canonical_canonical_of_start hstart hbase hloop

def plainSite : Disk := .ofTop <| .directory [
  ("srv".toList, .directory [("index.html".toList, .file [])])]

theorem plainSite_targets : plainSite.root.targets = [] := by
  simp [plainSite, Disk.ofTop, Entry.targets, Entry.targetsAll]

theorem plainSite_linkFree (base : Text) : plainSite.LinkFreeBelow base := by
  intro below target hat
  have hmem := Entry.mem_targets_of_at? hat
  rw [plainSite_targets] at hmem
  cases hmem

theorem plainSite_isNulFree : plainSite.IsNulFree :=
  .of_targets (by decide) (by rw [plainSite_targets]; simp)

theorem safeJoin_lexical_plain :
    safeJoin plainSite "/srv".toList (some "/a/..\\index.html".toList) =
        .ok (some "/srv/index.html".toList) ∧
      ∀ d root, safeJoin d root (some "/%252e%2e/secret".toList) = .ok none := by
  have hsegments : requestSegments (requestedPath (some "/a/..\\index.html".toList)) =
      some ["index.html".toList] := by cbv
  have hrefused : requestSegments (requestedPath (some "/%252e%2e/secret".toList)) = none := by
    cbv
  obtain ⟨hplain, hstack⟩ := requestSegments_eq_some.mp hsegments
  have hsrv : plainSite.canonical "/srv".toList = .ok "/srv".toList := by cbv
  have hroot : NulFree "/srv".toList := by decide
  obtain ⟨_, _, base, hbase, hjoined, _⟩ :=
    (safeJoin_lexical plainSite_isNulFree hroot _).2 hplain
  cases hsrv.symm.trans hbase
  rw [hjoined (plainSite_linkFree _) hsrv, hstack]
  exact ⟨rfl, (safeJoin_lexical plainSite_isNulFree hroot _).1
    (requestSegments_eq_none.mp hrefused)⟩

/-- The root is reached over a link that leads back to itself, and what is kept of it leads over
another link. -/
def loopedRoot : Disk := .ofTop <| .directory [
  ("outside".toList, .directory [
    ("sub".toList, .directory [("index.html".toList, .file [])])]),
  ("site".toList, .directory [
    ("a".toList, .link "loop/../out".toList),
    ("loop".toList, .link "loop".toList),
    ("out".toList, .link "../outside".toList)])]

/-- Without links at or below the canonical root a file in it can still be refused: the canonical
path of a root over a loop may have a canonical path of its own. -/
theorem safeJoin_refuses_below_looped_root : ¬∀ (d : Disk) (root base : Text) (path : Option Text),
    d.IsNulFree → NulFree root → ¬RefusedPath (requestedPath path) →
      d.canonical root = .ok base → d.LinkFreeBelow base →
      (∃ place e, d.locate base = .ok (place, e) ∧ e.targets = []) →
        safeJoin d root path =
          .ok (some (joinSegments base (finalStack (requestedPath path)))) := by
  intro h
  have hnul : loopedRoot.IsNulFree := by
    refine .of_targets (by decide) ?_
    simp [loopedRoot, Disk.ofTop, Entry.targets, Entry.targetsAll, NulFree]
  have hsegments : requestSegments (requestedPath (some "/index.html".toList)) =
      some ["index.html".toList] := by cbv
  obtain ⟨hpath, _⟩ := requestSegments_eq_some.mp hsegments
  have hroot : loopedRoot.canonical "/site/a/sub".toList = .ok "/site/out/sub".toList := by cbv
  have hlink : loopedRoot.LinkFreeBelow "/site/out/sub".toList := by
    intro below target hat
    cases hat
  have hlocate : loopedRoot.locate "/site/out/sub".toList =
      .ok (["outside".toList, "sub".toList],
        .directory [("index.html".toList, .file [])]) := by cbv
  have hnone : safeJoin loopedRoot "/site/a/sub".toList (some "/index.html".toList) =
      .ok none := by cbv
  have hlaw := h loopedRoot "/site/a/sub".toList "/site/out/sub".toList
    (some "/index.html".toList) hnul (by decide) hpath hroot hlink
    ⟨_, _, hlocate, by simp [Entry.targets, Entry.targetsAll]⟩
  rw [hnone] at hlaw
  cases hlaw

end SitePreview
