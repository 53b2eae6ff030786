namespace SitePreview

structure Registry where
  members : List Nat := []
  deriving DecidableEq, Repr

namespace Registry

def size (r : Registry) : Nat := r.members.length

def register (r : Registry) (id : Nat) : Registry :=
  if r.members.contains id then r else ⟨r.members ++ [id]⟩

def unregister (r : Registry) (id : Nat) : Registry := ⟨r.members.filter (· ≠ id)⟩

/-- Those that are terminated, and a registry without them. -/
def terminateAll (r : Registry) : List Nat × Registry := (r.members, {})

variable {r : Registry} {i j : Nat}

theorem mem_register : j ∈ (r.register i).members ↔ j ∈ r.members ∨ j = i := by
  unfold register
  split
  next h =>
    have hi : i ∈ r.members := by simpa using h
    constructor
    · exact .inl
    · rintro (hj | rfl)
      · exact hj
      · exact hi
  next => simp

theorem nodup_register (h : r.members.Nodup) : (r.register i).members.Nodup := by
  unfold register
  split
  next => exact h
  next hi =>
    have hnew : i ∉ r.members := by simpa using hi
    refine List.nodup_append.mpr ⟨h, by simp, ?_⟩
    intro j hj k hk
    rw [List.mem_singleton.mp hk]
    exact fun hsame => hnew (hsame ▸ hj)

theorem mem_unregister : j ∈ (r.unregister i).members ↔ j ∈ r.members ∧ j ≠ i := by
  simp [unregister]

theorem nodup_unregister (h : r.members.Nodup) : (r.unregister i).members.Nodup := h.filter _

/-- What is not registered is taken out without a trace. -/
theorem unregister_of_not_mem (h : i ∉ r.members) : r.unregister i = r := by
  have hkeep : r.members.filter (· ≠ i) = r.members := by
    rw [List.filter_eq_self]
    intro j hj
    have hne : j ≠ i := fun hsame => h (hsame ▸ hj)
    simpa using hne
  rw [unregister, hkeep]

end Registry

end SitePreview
