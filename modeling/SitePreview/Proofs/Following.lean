import SitePreview.Files.Disk

namespace SitePreview.Disk

/-- Where one name leads from a directory: to a place, or over a link to its target. -/
inductive Turn where
  | place (here : List Text)
  | link (target : Text)

def turnAt (root : Entry) (here : List Text) (name : Text) : Except FileError Turn :=
  match root.at? here.reverse with
  | none => .error .missing
  | some (.directory entries) =>
    if name = ['.'] then .ok (.place here)
    else if name = Path.oneUp then .ok (.place here.tail)
    else if octetLength name > longestName then .error .nameTooLong
    else match entries.lookup name with
      | none => .error .missing
      | some (.link target) => .ok (.link target)
      | some _ => .ok (.place (name :: here))
  | some _ => .error .notDirectory

variable {root : Entry} {links : Nat} {here todo : List Text} {name : Text}

theorem follow_cons {rest : List Text} :
    follow root links here (name :: rest) =
      match turnAt root here name with
      | .error e => .error e
      | .ok (.place there) => follow root links there rest
      | .ok (.link target) =>
        match links with
        | 0 => .error .tooManyLinks
        | fewer + 1 =>
          follow root fewer (if Path.isAbsolute target then [] else here)
            (steps target ++ rest) := by
  rw [follow, turnAt]
  cases root.at? here.reverse with
  | none => rfl
  | some e =>
    cases e with
    | directory entries =>
      by_cases hdot : name = ['.']
      · simp only [if_pos hdot]
      · by_cases hup : name = Path.oneUp
        · simp only [if_neg hdot, if_pos hup]
        · by_cases hlong : octetLength name > longestName
          · simp only [if_neg hdot, if_neg hup, if_pos hlong]
          · simp only [if_neg hdot, if_neg hup, if_neg hlong]
            cases entries.lookup name with
            | none => rfl
            | some child => cases child <;> rfl
    | file content => rfl
    | link target => rfl
    | pipe => rfl

theorem turnAt_ne_nulCharacter : turnAt root here name ≠ .error .nulCharacter := by
  unfold turnAt
  repeat' split
  all_goals simp

theorem follow_ne_nulCharacter : follow root links here todo ≠ .error .nulCharacter := by
  induction links using Nat.strongRecOn generalizing here todo with
  | ind links ihLinks =>
    induction todo generalizing here with
    | nil =>
      rw [follow]
      split <;> simp
    | cons name rest ih =>
      rw [follow_cons]
      split
      next e he =>
        intro h
        cases h
        exact turnAt_ne_nulCharacter he
      next => exact ih
      next target _ =>
        cases links with
        | zero => simp
        | succ fewer => exact ihLinks fewer (Nat.lt_succ_self fewer)

variable {d : Disk} {p : Text}

theorem locate_eq_ok {found : List Text × Entry} : d.locate p = .ok found ↔
    '\x00' ∉ p ∧ p ≠ [] ∧ octetLength p ≤ longestPath ∧
      follow d.root linkLimit (d.start p) (steps p) = .ok found := by
  unfold locate
  by_cases held : '\x00' ∈ p
  · simp [held]
  · rw [if_neg (by simpa using held)]
    by_cases hp : p = []
    · simp [hp]
    · rw [if_neg hp]
      by_cases hlong : octetLength p > longestPath
      · simp [hlong, Nat.not_le.mpr hlong]
      · simp [hlong, held, hp, Nat.not_lt.mp hlong]

theorem status_eq_ok {e : Entry} : d.status p = .ok e ↔ ∃ place, d.locate p = .ok (place, e) := by
  unfold status
  cases hfound : d.locate p with
  | ok found =>
    obtain ⟨place, other⟩ := found
    simp
  | error error => simp

/-- A look-up on a disk fails for a NUL only where the path has one. -/
theorem mem_of_locate_nulCharacter (h : d.locate p = .error .nulCharacter) : '\x00' ∈ p := by
  unfold locate at h
  split at h
  next held => simpa using held
  next =>
    split at h
    next => cases h
    next =>
      split at h
      next => cases h
      next => exact absurd h follow_ne_nulCharacter

theorem mem_of_status_nulCharacter {fault : FileFault} (h : d.status p = .error fault)
    (hnul : fault.error = .nulCharacter) : '\x00' ∈ p := by
  unfold status at h
  split at h
  next => cases h
  next error hlocate =>
    cases h
    cases hnul
    exact mem_of_locate_nulCharacter hlocate

theorem at?_of_follow {found : List Text × Entry} (h : follow root links here todo = .ok found) :
    root.at? found.1 = some found.2 := by
  induction links using Nat.strongRecOn generalizing here todo with
  | ind links ihLinks =>
    induction todo generalizing here with
    | nil =>
      rw [follow] at h
      split at h
      next hat =>
        cases h
        exact hat
      next => cases h
    | cons name rest ih =>
      rw [follow_cons] at h
      split at h
      next => cases h
      next => exact ih h
      next =>
        cases links with
        | zero => cases h
        | succ fewer => exact ihLinks fewer (Nat.lt_succ_self fewer) h

theorem at?_of_locate {found : List Text × Entry} (h : d.locate p = .ok found) :
    d.root.at? found.1 = some found.2 :=
  at?_of_follow (locate_eq_ok.mp h).2.2.2

/-- Single dots are left out of the names of a path. -/
inductive Undotted : List Text → List Text → Prop
  | nil : Undotted [] []
  | keep (n : Text) {ns ms} (rest : Undotted ns ms) : Undotted (n :: ns) (n :: ms)
  | drop {ns ms} (rest : Undotted ns ms) : Undotted (['.'] :: ns) ms

theorem Undotted.append_left {ns ms : List Text} (h : Undotted ns ms) (front : List Text) :
    Undotted (front ++ ns) (front ++ ms) := by
  induction front with
  | nil => exact h
  | cons n front ih => exact .keep n ih

theorem undotted_filter (ns : List Text) : Undotted ns (ns.filter (· ≠ ['.'])) := by
  induction ns with
  | nil => exact .nil
  | cons n ns ih =>
    by_cases hn : n = ['.']
    · subst hn
      exact .drop ih
    · rw [List.filter_cons_of_pos (by simpa using hn)]
      exact .keep n ih

theorem undotted_dots {ns : List Text} (hne : ns ≠ []) (h : ∀ n ∈ ns, n = ['.']) :
    Undotted ns [['.']] := by
  induction ns with
  | nil => exact absurd rfl hne
  | cons n ns ih =>
    obtain ⟨rfl, hrest⟩ := List.forall_mem_cons.mp h
    by_cases hns : ns = []
    · subst hns
      exact .keep _ .nil
    · exact .drop (ih hns hrest)

theorem turnAt_dot {turn : Turn} (h : turnAt root here ['.'] = .ok turn) :
    turn = .place here := by
  unfold turnAt at h
  split at h
  next => cases h
  next =>
    rw [if_pos rfl] at h
    cases h
    rfl
  next => cases h

/-- A path leads to the same entry when dots are left out of it. -/
theorem follow_of_undotted {ps qs : List Text} {found : List Text × Entry} (h : Undotted ps qs)
    (hfound : follow root links here ps = .ok found) :
    follow root links here qs = .ok found := by
  induction links using Nat.strongRecOn generalizing here ps qs with
  | ind links ihLinks =>
    induction h generalizing here with
    | nil => exact hfound
    | drop rest ih =>
      rw [follow_cons] at hfound
      split at hfound
      next => cases hfound
      next there hturn =>
        cases turnAt_dot hturn
        exact ih hfound
      next target hturn => cases turnAt_dot hturn
    | keep n rest ih =>
      rw [follow_cons] at hfound ⊢
      cases hturn : turnAt root here n with
      | error e => simp [hturn] at hfound
      | ok turn =>
        simp only [hturn] at hfound ⊢
        cases turn with
        | place there => exact ih hfound
        | link target =>
          cases links with
          | zero => cases hfound
          | succ fewer =>
            exact ihLinks fewer (Nat.lt_succ_self fewer) (rest.append_left (steps target)) hfound

end SitePreview.Disk
