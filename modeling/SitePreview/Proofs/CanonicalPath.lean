import SitePreview.Files.Canonical
import SitePreview.Proofs.PathNames

namespace SitePreview.Disk

/-- A place whose names are plain and on the way to which no link stands. -/
structure IsClear (root : Entry) (place : List Text) : Prop where
  isName : ∀ n ∈ place, Path.IsName n
  noNul : ∀ n ∈ place, '\x00' ∉ n
  noLink : ∀ above, above <:+ place → above ≠ [] → linkAt? root above = none

/-- A link that leads back to itself is met on the way of a path. -/
def MeetsLoop (d : Disk) (p : Text) : Prop :=
  ∃ q, canonicalFrom d.root (d.root.linkCount + 1) [] (d.start p) (Path.parts p) = .ok (.looped q)

theorem IsClear.nil (root : Entry) : IsClear root [] :=
  ⟨by simp, by simp, fun _ h hne => absurd (List.suffix_nil.mp h) hne⟩

theorem IsClear.of_suffix {root : Entry} {above place : List Text} (h : IsClear root place)
    (hs : above <:+ place) : IsClear root above :=
  ⟨fun n hn => h.isName n (hs.subset hn), fun n hn => h.noNul n (hs.subset hn),
    fun p hp hne => h.noLink p (hp.trans hs) hne⟩

theorem IsClear.cons {root : Entry} {place : List Text} (h : IsClear root place) {n : Text}
    (hname : Path.IsName n) (hnul : '\x00' ∉ n) (hlink : linkAt? root (n :: place) = none) :
    IsClear root (n :: place) := by
  refine ⟨?_, ?_, ?_⟩
  · intro m hm
    rcases List.mem_cons.mp hm with rfl | hm
    · exact hname
    · exact h.isName m hm
  · intro m hm
    rcases List.mem_cons.mp hm with rfl | hm
    · exact hnul
    · exact h.noNul m hm
  · intro above habove hne
    rcases List.suffix_cons_iff.mp habove with rfl | habove
    · exact hlink
    · exact h.noLink above habove hne

theorem isName_of_part {part : Text} (hs : '/' ∉ part) (hdot : ¬(part = [] ∨ part = ['.']))
    (hup : ¬part = Path.oneUp) : Path.IsName part :=
  ⟨(not_or.mp hdot).1, hs, (not_or.mp hdot).2, hup⟩

/-- Going on from a clear place ends at one, unless a loop is met. -/
theorem canonicalFrom_isClear {root : Entry} {fuel : Nat} {within : List (List Text)}
    {here ps out : List Text} (hhere : IsClear root here) (hps : ∀ p ∈ ps, '/' ∉ p)
    (h : canonicalFrom root fuel within here ps = .ok (.names out)) : IsClear root out := by
  fun_induction canonicalFrom root fuel within here ps generalizing out with
  | case1 fuel within here =>
    cases h
    exact hhere
  | case2 fuel within here part rest hdot ih =>
    exact ih hhere (fun p hp => hps p (by simp [hp])) h
  | case3 fuel within here rest hdot ih =>
    exact ih (hhere.of_suffix (List.tail_suffix here)) (fun p hp => hps p (by simp [hp])) h
  | case4 => cases h
  | case5 fuel within here part rest hdot hup hnul place hlink =>
    rename_i ih
    have hname := isName_of_part (hps part (by simp)) hdot hup
    have hplace : IsClear root place := hhere.cons hname (by simpa using hnul) hlink
    exact ih hplace (fun p hp => hps p (by simp [hp])) h
  | case6 => cases h
  | case7 => cases h
  | case8 => cases h
  | case9 => cases h
  | case10 within here part rest hdot hup hnul place target hlink _ less from' there hthere ih₁ =>
    rename_i ih₂
    have hfrom : IsClear root from' := by
      by_cases ht : Path.isAbsolute target = true
      · simpa [from', ht] using IsClear.nil root
      · simpa [from', ht] using hhere
    have hclear := ih₁ hfrom (fun p hp => not_mem_of_mem_partsAt hp) hthere
    exact ih₂ hclear (fun p hp => hps p (by simp [hp])) h

theorem canonicalFrom_of_isClear {root : Entry} {here ns : List Text}
    (h : IsClear root (ns.reverse ++ here)) (fuel : Nat) (within : List (List Text)) :
    canonicalFrom root fuel within here ns = .ok (.names (ns.reverse ++ here)) := by
  induction ns generalizing here with
  | nil => rw [canonicalFrom]; rfl
  | cons n ns ih =>
    have happ : (n :: ns).reverse ++ here = ns.reverse ++ (n :: here) := by simp
    rw [happ] at h ⊢
    have hname := h.isName n (by simp)
    have hnul := h.noNul n (by simp)
    have hlink := h.noLink (n :: here) (List.suffix_append _ _) (by simp)
    rw [canonicalFrom, if_neg (not_or.mpr ⟨hname.filled, hname.notHere⟩), if_neg hname.notUp,
      if_neg (by simpa using hnul)]
    simp only [hlink]
    exact ih h

theorem linkAt?_eq_none {root : Entry} {place : List Text}
    (h : ∀ target, root.at? place.reverse ≠ some (.link target)) : linkAt? root place = none := by
  unfold linkAt?
  split
  next => rfl
  next =>
    split
    next target hat => exact absurd hat (h target)
    next => rfl

theorem IsClear.append {root : Entry} {place ns : List Text} (h : IsClear root place)
    (hns : ∀ n ∈ ns, Path.IsName n ∧ '\x00' ∉ n)
    (hlink : ∀ below target, root.at? (place.reverse ++ below) ≠ some (.link target)) :
    IsClear root (ns.reverse ++ place) := by
  induction ns generalizing place with
  | nil => exact h
  | cons n ns ih =>
    obtain ⟨⟨hname, hnul⟩, hrest⟩ := List.forall_mem_cons.mp hns
    have hnext : IsClear root (n :: place) :=
      h.cons hname hnul (linkAt?_eq_none (by simpa using hlink [n]))
    have hbelow := ih hnext hrest fun below => by simpa using hlink (n :: below)
    simpa using hbelow

theorem canonicalFrom_nil_cons {root : Entry} {fuel : Nat} {within : List (List Text)}
    {here ps : List Text} :
    canonicalFrom root fuel within here ([] :: ps) = canonicalFrom root fuel within here ps := by
  rw [canonicalFrom, if_pos (Or.inl rfl)]

theorem canonicalFrom_parts_of_names {root : Entry} {fuel : Nat} {within : List (List Text)}
    {here ns : List Text} {slashes : Text} (hs : slashes = ['/'] ∨ slashes = ['/', '/'])
    (hns : ∀ n ∈ ns, '/' ∉ n) :
    canonicalFrom root fuel within here (Path.parts (slashes ++ ['/'].intercalate ns)) =
      canonicalFrom root fuel within here ns := by
  have hinner : canonicalFrom root fuel within here (Path.parts (['/'].intercalate ns)) =
      canonicalFrom root fuel within here ns := by
    by_cases hempty : ns = []
    · subst hempty
      exact canonicalFrom_nil_cons
    · rw [Path.parts, partsAt_intercalate hns hempty]
  rcases hs with rfl | rfl
  · exact canonicalFrom_nil_cons.trans hinner
  · exact canonicalFrom_nil_cons.trans (canonicalFrom_nil_cons.trans hinner)

/-- Where one part leads from a place. -/
def stepFrom (root : Entry) (fuel : Nat) (within : List (List Text)) (here : List Text)
    (part : Text) : Except FileError Canonical :=
  if part = [] ∨ part = ['.'] then .ok (.names here)
  else if part = Path.oneUp then .ok (.names here.tail)
  else if part.contains '\x00' then .error .nulCharacter
  else match linkAt? root (part :: here) with
    | none => .ok (.names (part :: here))
    | some target =>
      if within.contains (part :: here) then
        .ok (.looped (Path.ofNames (part :: here).reverse))
      else match fuel with
        | 0 => .ok (.looped (Path.ofNames (part :: here).reverse))
        | less + 1 =>
          canonicalFrom root less ((part :: here) :: within)
            (if Path.isAbsolute target then [] else here) (Path.parts target)

theorem canonicalFrom_cons {root : Entry} {fuel : Nat} {within : List (List Text)}
    {here rest : List Text} {part : Text} :
    canonicalFrom root fuel within here (part :: rest) =
      match stepFrom root fuel within here part with
      | .error e => .error e
      | .ok (.looped p) => .ok (.looped (Path.join p (['/'].intercalate rest)))
      | .ok (.names there) => canonicalFrom root fuel within there rest := by
  rw [canonicalFrom, stepFrom]
  split
  next => rfl
  next =>
    split
    next => rfl
    next =>
      split
      next => rfl
      next =>
        simp only
        cases linkAt? root (part :: here) with
        | none => rfl
        | some target =>
          dsimp only
          by_cases hwithin : within.contains (part :: here) = true
          · rw [if_pos hwithin, if_pos hwithin]
          · rw [if_neg hwithin, if_neg hwithin]
            cases fuel <;> rfl

theorem canonicalFrom_looped_isAbsolute {root : Entry} {fuel : Nat} {within : List (List Text)}
    {here ps : List Text} {q : Text}
    (h : canonicalFrom root fuel within here ps = .ok (.looped q)) : Path.isAbsolute q = true := by
  fun_induction canonicalFrom root fuel within here ps generalizing q with
  | case1 => cases h
  | case2 fuel within here part rest hdot ih => exact ih h
  | case3 fuel within here rest hdot ih => exact ih h
  | case4 => cases h
  | case5 fuel within here part rest hdot hup hnul place hlink =>
    rename_i ih
    exact ih h
  | case6 fuel within here part rest hdot hup hnul place target hlink kept =>
    cases h
    exact Path.isAbsolute_join (Path.isAbsolute_ofNames _) _
  | case7 within here part rest hdot hup hnul place target hlink kept =>
    cases h
    exact Path.isAbsolute_join (Path.isAbsolute_ofNames _) _
  | case8 => cases h
  | case9 within here part rest hdot hup hnul place target hlink kept _ less from' p hp =>
    rename_i ih
    cases h
    exact Path.isAbsolute_join (ih hp) _
  | case10 within here part rest hdot hup hnul place target hlink _ less from' there hthere ih₁ =>
    rename_i ih₂
    exact ih₂ h

theorem stepFrom_looped_isAbsolute {root : Entry} {fuel : Nat} {within : List (List Text)}
    {here : List Text} {part q : Text} (h : stepFrom root fuel within here part = .ok (.looped q)) :
    Path.isAbsolute q = true := by
  unfold stepFrom at h
  split at h
  next => cases h
  next =>
    split at h
    next => cases h
    next =>
      split at h
      next => cases h
      next =>
        split at h
        next => cases h
        next =>
          split at h
          next =>
            cases h
            exact Path.isAbsolute_ofNames _
          next =>
            split at h
            next =>
              cases h
              exact Path.isAbsolute_ofNames _
            next => exact canonicalFrom_looped_isAbsolute h

/-- Where a walk ended at a place, a longer one goes on from there. -/
theorem canonicalFrom_append {root : Entry} {fuel : Nat} {within : List (List Text)}
    {here ps there : List Text} (h : canonicalFrom root fuel within here ps = .ok (.names there))
    (more : List Text) :
    canonicalFrom root fuel within here (ps ++ more) =
      canonicalFrom root fuel within there more := by
  induction ps generalizing here with
  | nil =>
    rw [canonicalFrom] at h
    cases h
    rfl
  | cons part ps ih =>
    rw [List.cons_append, canonicalFrom_cons]
    rw [canonicalFrom_cons] at h
    split at h
    next => cases h
    next => cases h
    next next' hnext => exact ih h

/-- Where a walk met a loop, a longer one meets it too and keeps what follows. -/
theorem canonicalFrom_looped_append {root : Entry} {fuel : Nat} {within : List (List Text)}
    {here ps : List Text} {q : Text}
    (h : canonicalFrom root fuel within here ps = .ok (.looped q)) :
    ∃ p rest, Path.isAbsolute p = true ∧ rest <:+ ps ∧ q = Path.join p (['/'].intercalate rest) ∧
      ∀ more, canonicalFrom root fuel within here (ps ++ more) =
        .ok (.looped (Path.join p (['/'].intercalate (rest ++ more)))) := by
  induction ps generalizing here with
  | nil =>
    rw [canonicalFrom] at h
    cases h
  | cons part ps ih =>
    rw [canonicalFrom_cons] at h
    split at h
    next => cases h
    next p hstep =>
      cases h
      refine ⟨p, ps, stepFrom_looped_isAbsolute hstep, List.suffix_cons _ _, rfl, fun more => ?_⟩
      rw [List.cons_append, canonicalFrom_cons, hstep]
    next there hstep =>
      obtain ⟨p, rest, hp, hrest, heq, hmore⟩ := ih h
      refine ⟨p, rest, hp, hrest.trans (List.suffix_cons _ _), heq, fun more => ?_⟩
      rw [List.cons_append, canonicalFrom_cons, hstep]
      exact hmore more

theorem start_of_isAbsolute {d : Disk} {p : Text} (h : Path.isAbsolute p = true) :
    d.start p = [] := if_pos h

theorem slash_not_mem_parts (p : Text) : ∀ part ∈ Path.parts p, '/' ∉ part :=
  fun _ h => not_mem_of_mem_partsAt h

theorem canonical_isAbsolute {d : Disk} {p q : Text} (h : d.canonical p = .ok q) :
    Path.isAbsolute q = true := by
  unfold canonical at h
  split at h
  next => cases h
  next ns hns =>
    cases h
    exact Path.isAbsolute_ofNames _
  next r hr =>
    cases h
    exact (Path.absolute_isNormal d.rooted r).isAbsolute

theorem canonical_isNormal {d : Disk} {p q : Text} (hp : Path.isAbsolute p = true)
    (h : d.canonical p = .ok q) : Path.IsNormal q := by
  unfold canonical at h
  rw [start_of_isAbsolute hp] at h
  split at h
  next => cases h
  next ns hns =>
    cases h
    have hclear := canonicalFrom_isClear (IsClear.nil d.root) (slash_not_mem_parts p) hns
    exact Path.ofNames_isNormal fun n hn => hclear.isName n (List.mem_reverse.mp hn)
  next r hr =>
    cases h
    exact Path.absolute_isNormal d.rooted r

/-- What a walk ends at is held in parts, whatever the place is like that it began at. -/
theorem canonicalFrom_isPart {root : Entry} {fuel : Nat} {within : List (List Text)}
    {here ps out : List Text} (hhere : ∀ n ∈ here, Path.IsPart n) (hps : ∀ p ∈ ps, '/' ∉ p)
    (h : canonicalFrom root fuel within here ps = .ok (.names out)) : ∀ n ∈ out, Path.IsPart n := by
  fun_induction canonicalFrom root fuel within here ps generalizing out with
  | case1 =>
    cases h
    exact hhere
  | case2 fuel within here part rest hdot ih => exact ih hhere (List.forall_mem_cons.mp hps).2 h
  | case3 fuel within here rest hdot ih =>
    exact ih (fun n hn => hhere n (List.mem_of_mem_tail hn)) (List.forall_mem_cons.mp hps).2 h
  | case4 => cases h
  | case5 fuel within here part rest hdot hup hnul place hlink =>
    rename_i ih
    obtain ⟨hpart, hrest⟩ := List.forall_mem_cons.mp hps
    exact ih (List.forall_mem_cons.mpr ⟨⟨(not_or.mp hdot).1, hpart⟩, hhere⟩) hrest h
  | case6 => cases h
  | case7 => cases h
  | case8 => cases h
  | case9 => cases h
  | case10 within here part rest hdot hup hnul place target hlink _ less from' there hthere ih₁ =>
    rename_i ih₂
    have hfrom : ∀ n ∈ from', Path.IsPart n := by
      intro n hn
      by_cases ht : Path.isAbsolute target = true
      · simp [from', ht] at hn
      · exact hhere n (by simpa [from', ht] using hn)
    have hpart := ih₁ hfrom (fun p hp => not_mem_of_mem_partsAt hp) hthere
    exact ih₂ hpart (List.forall_mem_cons.mp hps).2 h

theorem canonical_parted {d : Disk} {p q : Text} (h : d.canonical p = .ok q) :
    ∃ slashes ns, (slashes = ['/'] ∨ slashes = ['/', '/']) ∧ (∀ n ∈ ns, Path.IsPart n) ∧
      q = slashes ++ ['/'].intercalate ns := by
  unfold canonical at h
  split at h
  next => cases h
  next ns hns =>
    cases h
    have hstart : ∀ n ∈ d.start p, Path.IsPart n := by
      unfold start
      split
      · simp
      · exact fun n hn => Path.isPart_of_mem_names (List.mem_reverse.mp hn)
    have hpart := canonicalFrom_isPart hstart (slash_not_mem_parts p) hns
    exact ⟨['/'], ns.reverse, Or.inl rfl, fun n hn => hpart n (List.mem_reverse.mp hn), rfl⟩
  next r hr =>
    cases h
    obtain ⟨slashes, ns, hs, hns, heq⟩ := Path.absolute_isNormal d.rooted r
    exact ⟨slashes, ns, hs, fun n hn => (hns n hn).isPart, heq⟩

theorem canonical_eq_of_walk {d : Disk} {slashes slashes' : Text} {ns ms : List Text}
    (hs : slashes = ['/'] ∨ slashes = ['/', '/']) (hs' : slashes' = ['/'] ∨ slashes' = ['/', '/'])
    (hns : ∀ n ∈ ns, '/' ∉ n) (hms : ∀ n ∈ ms, '/' ∉ n)
    (h : canonicalFrom d.root (d.root.linkCount + 1) [] [] ns =
      canonicalFrom d.root (d.root.linkCount + 1) [] [] ms) :
    d.canonical (slashes ++ ['/'].intercalate ns) =
      d.canonical (slashes' ++ ['/'].intercalate ms) := by
  have habs : Path.isAbsolute (slashes ++ ['/'].intercalate ns) = true := by
    rcases hs with rfl | rfl <;> rfl
  have habs' : Path.isAbsolute (slashes' ++ ['/'].intercalate ms) = true := by
    rcases hs' with rfl | rfl <;> rfl
  rw [canonical, canonical, start_of_isAbsolute habs, start_of_isAbsolute habs',
    canonicalFrom_parts_of_names hs hns, canonicalFrom_parts_of_names hs' hms, h]

theorem canonical_ofNames_of_isClear {d : Disk} {place : List Text} (h : IsClear d.root place) :
    d.canonical (Path.ofNames place.reverse) = .ok (Path.ofNames place.reverse) := by
  have hslash : ∀ n ∈ place.reverse, '/' ∉ n :=
    fun n hn => (h.isName n (List.mem_reverse.mp hn)).unslashed
  have hwalk : canonicalFrom d.root (d.root.linkCount + 1) [] [] place.reverse =
      .ok (.names place) := by
    have hclear : IsClear d.root (place.reverse.reverse ++ []) := by simpa using h
    simpa using canonicalFrom_of_isClear hclear (d.root.linkCount + 1) []
  have hparts : canonicalFrom d.root (d.root.linkCount + 1) [] []
      (Path.parts (Path.ofNames place.reverse)) = .ok (.names place) := by
    rw [Path.parts_ofNames hslash, canonicalFrom, if_pos (Or.inl rfl)]
    split
    next hnil =>
      rw [hnil] at hwalk
      rw [canonicalFrom, if_pos (Or.inl rfl), hwalk]
    next => exact hwalk
  rw [canonical, start_of_isAbsolute (Path.isAbsolute_ofNames _), hparts]

/-- A canonical path is its own canonical path where the walk began at a clear place and met no
loop. -/
theorem canonical_canonical_of_start {d : Disk} {p q : Text} (hstart : IsClear d.root (d.start p))
    (h : d.canonical p = .ok q) (hloop : ¬d.MeetsLoop p) : d.canonical q = .ok q := by
  unfold canonical at h
  split at h
  next => cases h
  next ns hns =>
    cases h
    exact canonical_ofNames_of_isClear (canonicalFrom_isClear hstart (slash_not_mem_parts p) hns)
  next r hr => exact absurd ⟨r, hr⟩ hloop

theorem canonical_canonical {d : Disk} {p q : Text} (hp : Path.isAbsolute p = true)
    (h : d.canonical p = .ok q) (hloop : ¬d.MeetsLoop p) : d.canonical q = .ok q := by
  refine canonical_canonical_of_start ?_ h hloop
  rw [start_of_isAbsolute hp]
  exact IsClear.nil d.root

end SitePreview.Disk
