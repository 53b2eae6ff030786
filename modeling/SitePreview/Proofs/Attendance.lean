import Mathlib
import SitePreview.Proofs.Restart
import SitePreview.Proofs.Traffic
import SitePreview.Server.Attendance

namespace SitePreview

namespace Server

theorem beginStart_keeps_registry (disk : Disk) (s : Server) :
    (s.beginStart disk).terminated? = none ∧ (s.beginStart disk).server.registry = s.registry := by
  unfold beginStart
  split
  · exact ⟨rfl, rfl⟩
  · dsimp only
    cases lookUpConfig disk s.settings with
    | error e => exact ⟨rfl, rfl⟩
    | ok found =>
      dsimp only
      cases found.path? <;> exact ⟨rfl, rfl⟩

theorem beginStop_terminates (restarting : Bool) (s : Server) :
    ((s.beginStop restarting).terminated? = some s.registry.size ∧
        (s.beginStop restarting).server.registry = {}) ∨
      ((s.beginStop restarting).terminated? = none ∧
        (s.beginStop restarting).server.registry = s.registry) := by
  unfold beginStop
  split
  · exact .inl ⟨rfl, rfl⟩
  · exact .inr ⟨rfl, rfl⟩

/-- A call terminates all connections and returns their number, or leaves them alone. -/
theorem beginOperation_terminates (disk : Disk) (op : Operation) (s : Server) :
    ((s.beginOperation disk op).terminated? = some s.registry.size ∧
        (s.beginOperation disk op).server.registry = {}) ∨
      ((s.beginOperation disk op).terminated? = none ∧
        (s.beginOperation disk op).server.registry = s.registry) := by
  unfold beginOperation
  split
  · exact .inr ⟨rfl, rfl⟩
  · cases op with
    | start => exact .inr (beginStart_keeps_registry disk s)
    | stop => exact beginStop_terminates false s
    | restart =>
      dsimp only
      split
      · exact beginStop_terminates true s
      · exact .inr (beginStart_keeps_registry disk s)

theorem registry_resume (w : Surroundings) (s : Server) : (s.resume w).server.registry = s.registry :=
  congrArg (fun step => step.server.registry) (resume_withRegistry s.registry w s)

end Server

namespace Traffic

theorem takeIn_keeps (i : Nat) (method target : Text) (t : Traffic) :
    (t.takeIn i method target).server.registry = t.server.registry ∧
      (t.takeIn i method target).visits.length = t.visits.length := by
  constructor
  · rcases t.takeIn_server i method target with hsame | ⟨_, _, hcounted⟩
    · rw [hsame]
    · rw [hcounted]
  · unfold takeIn
    split
    · split
      next => exact List.length_set
      next => exact List.length_set
      next => rfl
    · rfl

theorem proceed_keeps (i : Nat) (disk : Disk) (t : Traffic) :
    (t.proceed i disk).server.registry = t.server.registry ∧
      (t.proceed i disk).visits.length = t.visits.length := by
  unfold proceed
  split
  next v _ =>
    refine ⟨?_, List.length_set⟩
    dsimp only
    rw [v.stage.proceed_server]
    cases v.stage.failure? disk <;> rfl
  next => exact ⟨rfl, rfl⟩

end Traffic

namespace Attendance

variable {a : Attendance}

theorem isPresent_iff {h : Handler} :
    a.isPresent h = true ↔ h.ended = false ∧ h.startedAfter = a.returned.length := by
  simp [isPresent]

theorem terminated?_eq_some {x : Happening} {n : Nat} (h : a.terminated? x = some n) :
    n = a.registry.size ∧ a.handlersAfter x = a.abortAll ∧
      (a.trafficAfter x).server.registry = {} ∧
      (a.trafficAfter x).visits.length = a.traffic.visits.length := by
  cases x with
  | terminateAll => exact ⟨(Option.some.inj h).symm, rfl, rfl, rfl⟩
  | occurs o =>
    cases o with
    | call disk op =>
      rcases Server.beginOperation_terminates disk op a.traffic.server with ⟨hsome, hempty⟩ | ⟨hnone, _⟩
      · exact ⟨Option.some.inj (h.symm.trans hsome), by simp [handlersAfter, h], hempty, rfl⟩
      · cases h.symm.trans hnone
    | resume | update | come | takeIn | proceed | leave => cases h

theorem after_of_quiet {x : Happening} (hnone : a.terminated? x = none)
    (hhandlers : a.handlersAfter x = a.handlers) : a.after x = { a with traffic := a.trafficAfter x } := by
  rw [after, hnone, hhandlers, Option.toList_none, List.append_nil]

/-- The writers that are registered are those of the handlers that are present, and none of these has been
aborted. -/
structure Attended (a : Attendance) : Prop where
  visits : a.handlers.length = a.traffic.visits.length
  nodup : a.registry.members.Nodup
  mem_iff : ∀ i, i ∈ a.registry.members ↔ ∃ h, a.handlers[i]? = some h ∧ a.isPresent h = true
  started : ∀ h ∈ a.handlers, h.startedAfter ≤ a.returned.length
  unaborted : ∀ h ∈ a.handlers, h.startedAfter = a.returned.length → h.aborts = 0
  aborts_le_one : ∀ h ∈ a.handlers, h.aborts ≤ 1

theorem fresh_attended (settings : Settings) : Attended { traffic := { server := { settings } } } where
  visits := rfl
  nodup := List.nodup_nil
  mem_iff i := by simp [registry]
  started := List.forall_mem_nil _
  unaborted := List.forall_mem_nil _
  aborts_le_one := List.forall_mem_nil _

namespace Attended

variable {x : Happening}

theorem size (hall : a.Attended) : a.registry.size = a.handlers.countP a.isPresent := by
  have hsame : a.registry.members.Perm (a.handlers.findIdxs a.isPresent) := by
    refine (List.perm_ext_iff_of_nodup hall.nodup List.nodup_findIdxs).mpr fun i => ?_
    rw [hall.mem_iff, List.mem_findIdxs_iff_exists_getElem_pos]
    simp [List.getElem?_eq_some_iff]
  rw [Registry.size, hsame.length_eq, List.length_findIdxs]

/-- A termination aborts each handler that is present once. -/
theorem abortAll_eq (hall : a.Attended) : a.abortAll = a.handlers.map fun h =>
    if a.isPresent h then h.abort 1 else h := by
  refine List.ext_getElem? fun i => ?_
  rw [abortAll, List.getElem?_mapIdx, List.getElem?_map]
  cases hi : a.handlers[i]? with
  | none => rfl
  | some h =>
    have hcount : a.registry.terminateAll.1.count i = if i ∈ a.registry.members then 1 else 0 :=
      hall.nodup.count
    have hmem : i ∈ a.registry.members ↔ a.isPresent h = true := by simp [hall.mem_iff, hi]
    simp only [Option.map_some, hcount, hmem]
    split <;> rfl

theorem quiet (hall : a.Attended) (hnone : a.terminated? x = none)
    (hhandlers : a.handlersAfter x = a.handlers)
    (hregistry : (a.trafficAfter x).server.registry = a.registry)
    (hvisits : (a.trafficAfter x).visits.length = a.traffic.visits.length) : (a.after x).Attended := by
  have hafter := after_of_quiet hnone hhandlers
  have hmembers : (a.after x).registry = a.registry := by rw [hafter]; exact hregistry
  rw [hafter] at hmembers ⊢
  exact {
    visits := hall.visits.trans hvisits.symm
    nodup := by rw [hmembers]; exact hall.nodup
    mem_iff := by rw [hmembers]; exact hall.mem_iff
    started := hall.started
    unaborted := hall.unaborted
    aborts_le_one := hall.aborts_le_one }

/-- A handler that a termination finds started before it, and has been aborted once at most. -/
theorem of_mem_abortAll (hall : a.Attended) {h : Handler} (hh : h ∈ a.abortAll) :
    h.startedAfter ≤ a.returned.length ∧ h.aborts ≤ 1 := by
  rw [hall.abortAll_eq] at hh
  obtain ⟨g, hg, rfl⟩ := List.mem_map.mp hh
  split
  next hpresent =>
    have hnone := hall.unaborted g hg (isPresent_iff.mp hpresent).2
    exact ⟨hall.started g hg, by rw [Handler.abort, hnone]⟩
  next => exact ⟨hall.started g hg, hall.aborts_le_one g hg⟩

theorem terminate (hall : a.Attended) {n : Nat} (hsome : a.terminated? x = some n) :
    (a.after x).Attended := by
  obtain ⟨_, hhandlers, hregistry, hvisits⟩ := terminated?_eq_some hsome
  have hafter : a.after x =
      { traffic := a.trafficAfter x, handlers := a.abortAll, returned := a.returned ++ [n] } := by
    rw [after, hsome, hhandlers, Option.toList_some]
  have hempty : (a.after x).registry = {} := by rw [hafter]; exact hregistry
  have hearlier : ∀ h ∈ a.abortAll, h.startedAfter < (a.returned ++ [n]).length := by
    intro h hh
    have hle := (hall.of_mem_abortAll hh).1
    rw [List.length_append, List.length_singleton]
    omega
  rw [hafter] at hempty ⊢
  exact {
    visits := by rw [hvisits, ← hall.visits, abortAll, List.length_mapIdx]
    nodup := by rw [hempty]; exact List.nodup_nil
    mem_iff := by
      intro i
      rw [hempty]
      refine ⟨fun hi => absurd hi List.not_mem_nil, ?_⟩
      rintro ⟨h, hi, hpresent⟩
      exact absurd (isPresent_iff.mp hpresent).2 (hearlier h (List.mem_of_getElem? hi)).ne
    started := fun h hh => (hearlier h hh).le
    unaborted := fun h hh hlatest => absurd hlatest (hearlier h hh).ne
    aborts_le_one := fun h hh => (hall.of_mem_abortAll hh).2 }

theorem come (hall : a.Attended) : (a.after (.occurs .come)).Attended := by
  let fresh : Handler := { startedAfter := a.returned.length }
  have hnone : a.terminated? (.occurs .come) = none := rfl
  have hafter : a.after (.occurs .come) =
      { traffic := a.traffic.after .come, handlers := a.handlers ++ [fresh], returned := a.returned } := by
    rw [after, hnone, Option.toList_none, List.append_nil]
    rfl
  have hregistry : (a.after (.occurs .come)).registry = a.registry.register a.handlers.length := by
    rw [hall.visits]
    rfl
  rw [hafter] at hregistry ⊢
  exact {
    visits := by simp [Traffic.after, hall.visits]
    nodup := by rw [hregistry]; exact Registry.nodup_register hall.nodup
    mem_iff := by
      intro i
      rw [hregistry, Registry.mem_register, hall.mem_iff]
      show _ ↔ ∃ h, (a.handlers ++ [fresh])[i]? = some h ∧ a.isPresent h = true
      rcases lt_trichotomy i a.handlers.length with hlt | rfl | hgt
      · rw [List.getElem?_append_left hlt]
        simp [hlt.ne]
      · simp [fresh, isPresent]
      · have hbeyond : (a.handlers ++ [fresh]).length ≤ i := by
          rw [List.length_append, List.length_singleton]
          omega
        rw [List.getElem?_eq_none hgt.le, List.getElem?_eq_none hbeyond]
        simp [hgt.ne']
    started := List.forall_mem_append.mpr ⟨hall.started, by simp [fresh]⟩
    unaborted := List.forall_mem_append.mpr ⟨hall.unaborted, by simp [fresh]⟩
    aborts_le_one := List.forall_mem_append.mpr ⟨hall.aborts_le_one, by simp [fresh]⟩ }

theorem exists_of_mem_modify {i : Nat} {g : Handler} (hg : g ∈ a.handlers.modify i Handler.finish) :
    ∃ h ∈ a.handlers, g.startedAfter = h.startedAfter ∧ g.aborts = h.aborts := by
  obtain ⟨j, hj⟩ := List.mem_iff_getElem?.mp hg
  rw [List.getElem?_modify] at hj
  obtain ⟨h, hh, rfl⟩ := Option.map_eq_some_iff.mp hj
  refine ⟨h, List.mem_of_getElem? hh, ?_⟩
  split <;> exact ⟨rfl, rfl⟩

theorem leave (hall : a.Attended) (i : Nat) : (a.after (.occurs (.leave i))).Attended := by
  have hnone : a.terminated? (.occurs (.leave i)) = none := rfl
  have hafter : a.after (.occurs (.leave i)) =
      { traffic := a.traffic.after (.leave i)
        handlers := a.handlers.modify i Handler.finish
        returned := a.returned } := by
    rw [after, hnone, Option.toList_none, List.append_nil]
    rfl
  have hregistry : (a.after (.occurs (.leave i))).registry = a.registry.unregister i := rfl
  rw [hafter] at hregistry ⊢
  exact {
    visits := by simp [Traffic.after, hall.visits]
    nodup := by rw [hregistry]; exact Registry.nodup_unregister hall.nodup
    mem_iff := by
      intro j
      rw [hregistry, Registry.mem_unregister, hall.mem_iff]
      show _ ↔ ∃ h, (a.handlers.modify i Handler.finish)[j]? = some h ∧ a.isPresent h = true
      rw [List.getElem?_modify]
      rcases eq_or_ne i j with rfl | hne
      · -- The handler has ended, so it is not present.
        simp [Handler.finish, isPresent]
      · simp [hne, hne.symm]
    started := by
      intro g hg
      obtain ⟨h, hh, hstarted, _⟩ := exists_of_mem_modify hg
      exact hstarted ▸ hall.started h hh
    unaborted := by
      intro g hg
      obtain ⟨h, hh, hstarted, haborts⟩ := exists_of_mem_modify hg
      rw [hstarted, haborts]
      exact hall.unaborted h hh
    aborts_le_one := by
      intro g hg
      obtain ⟨h, hh, _, haborts⟩ := exists_of_mem_modify hg
      exact haborts ▸ hall.aborts_le_one h hh }

theorem after (hall : a.Attended) (x : Happening) : (a.after x).Attended := by
  cases hterminated : a.terminated? x with
  | some n => exact hall.terminate hterminated
  | none =>
    cases x with
    | terminateAll => cases hterminated
    | occurs o =>
      cases o with
      | call disk op =>
        rcases Server.beginOperation_terminates disk op a.traffic.server with ⟨hsome, _⟩ | ⟨_, hkept⟩
        · cases hterminated.symm.trans hsome
        · exact hall.quiet hterminated (by simp [handlersAfter, hterminated]) hkept rfl
      | come => exact hall.come
      | leave i => exact hall.leave i
      | resume w => exact hall.quiet rfl rfl (Server.registry_resume w a.traffic.server) rfl
      | update settings => exact hall.quiet rfl rfl rfl rfl
      | takeIn i method target =>
        obtain ⟨hregistry, hvisits⟩ := Traffic.takeIn_keeps i method target a.traffic
        exact hall.quiet rfl rfl hregistry hvisits
      | proceed i disk =>
        obtain ⟨hregistry, hvisits⟩ := Traffic.proceed_keeps i disk a.traffic
        exact hall.quiet rfl rfl hregistry hvisits

end Attended

theorem ofHappenings_attended (settings : Settings) (happenings : List Happening) :
    (ofHappenings settings happenings).Attended := by
  have hrun (a : Attendance) (hall : a.Attended) : (happenings.foldl Attendance.after a).Attended := by
    induction happenings generalizing a with
    | nil => exact hall
    | cons x happenings ih => exact ih _ (hall.after x)
  exact hrun _ (fresh_attended settings)

/-- A handler whose writer has been aborted ends without a trace. -/
theorem Attended.leave_of_aborted (hall : a.Attended) {i : Nat} {h : Handler}
    (hi : a.handlers[i]? = some h) (haborted : 0 < h.aborts) :
    (a.after (.occurs (.leave i))).traffic = a.traffic := by
  have hgone : i ∉ a.traffic.server.registry.members := by
    intro hmem
    obtain ⟨g, hg, hpresent⟩ := (hall.mem_iff i).mp hmem
    cases hi.symm.trans hg
    have hnone := hall.unaborted h (List.mem_of_getElem? hi) (isPresent_iff.mp hpresent).2
    omega
  show a.traffic.after (.leave i) = a.traffic
  rw [Traffic.after, Registry.unregister_of_not_mem hgone]

/-- The connections that the status counts are those of the handlers that started after the latest
termination and have not ended. A termination aborts the writer of each of them once and returns their
number. No writer is aborted twice, and the end of a handler whose writer has been aborted changes nothing
about the server or about other handlers. -/
theorem ofHappenings_accounts (settings : Settings) (happenings : List Happening) :
    let a := ofHappenings settings happenings
    a.traffic.server.status.activeConnections = a.handlers.countP a.isPresent ∧
      (∀ x n, a.terminated? x = some n → n = a.handlers.countP a.isPresent ∧
        (a.after x).handlers = a.handlers.map fun h => if a.isPresent h then h.abort 1 else h) ∧
      (∀ h ∈ a.handlers, h.aborts ≤ 1) ∧
      ∀ i h, a.handlers[i]? = some h → 0 < h.aborts →
        (a.after (.occurs (.leave i))).traffic = a.traffic ∧
          ∀ j ≠ i, (a.after (.occurs (.leave i))).handlers[j]? = a.handlers[j]? := by
  intro a
  have hall : a.Attended := ofHappenings_attended settings happenings
  refine ⟨hall.size, ?_, hall.aborts_le_one, ?_⟩
  · intro x n hsome
    obtain ⟨hcount, hhandlers, _⟩ := terminated?_eq_some hsome
    exact ⟨hcount.trans hall.size, hhandlers.trans hall.abortAll_eq⟩
  · intro i h hi haborted
    refine ⟨hall.leave_of_aborted hi haborted, fun j hj => ?_⟩
    show (a.handlers.modify i Handler.finish)[j]? = _
    simp [hj.symm]

theorem ofHappenings_startSmallSite :
    ofHappenings smallSettings (Traffic.startSmallSite.map .occurs) =
      { traffic := { server := (Server.run smallPlan { settings := smallSettings }).server, runs := 1 } } := by
  let fresh : Attendance := { traffic := { server := { settings := smallSettings } } }
  have hnone : fresh.terminated? (.occurs (.call smallSite .start)) = none :=
    (Server.beginStart_keeps_registry smallSite { settings := smallSettings }).1
  have hstarted : Traffic.startSmallSite.foldl Traffic.after { server := { settings := smallSettings } } =
      { server := (Server.run smallPlan { settings := smallSettings }).server, runs := 1 } :=
    Traffic.after_startSmallSite rfl rfl rfl
  rw [← hstarted, ofHappenings, Traffic.startSmallSite, List.map_cons, List.foldl_cons,
    after_of_quiet hnone (by simp [handlersAfter, hnone])]
  rfl

/-- Two handlers that start while a site is served, the first of which has ended. -/
def servedHandlers : List Happening :=
  Traffic.startSmallSite.map .occurs ++ [.occurs .come, .occurs .come, .occurs (.leave 0)]

/-- The site is restarted, and a third handler starts before the second has ended. -/
def outlivedRestart : List Happening :=
  servedHandlers ++ [.occurs (.call smallSite .restart), .occurs .come]

theorem ofHappenings_accounts_outlived :
    let served := ofHappenings smallSettings servedHandlers
    let restarted := ofHappenings smallSettings outlivedRestart
    served.terminated? (.occurs (.call smallSite .restart)) = some 1 ∧
      served.handlers.countP served.isPresent = 1 ∧
      restarted.handlers = [⟨0, true, 0⟩, ⟨0, false, 1⟩, ⟨1, false, 0⟩] ∧
      restarted.traffic.server.status.activeConnections = 1 ∧
      (restarted.after (.occurs (.leave 1))).traffic = restarted.traffic := by
  intro served restarted
  have hserved : served = [.occurs .come, .occurs .come, .occurs (.leave 0)].foldl after
      { traffic := { server := (Server.run smallPlan { settings := smallSettings }).server, runs := 1 } } := by
    rw [← ofHappenings_startSmallSite]
    exact List.foldl_append
  have hrestarted : restarted =
      [.occurs (.call smallSite .restart), .occurs .come].foldl after served := List.foldl_append
  rw [hserved] at hrestarted
  have hone : served.terminated? (.occurs (.call smallSite .restart)) = some 1 := by rw [hserved]; rfl
  have hhandlers : restarted.handlers = [⟨0, true, 0⟩, ⟨0, false, 1⟩, ⟨1, false, 0⟩] := by
    rw [hrestarted]
    rfl
  have hpresent : restarted.handlers.countP restarted.isPresent = 1 := by rw [hrestarted]; rfl
  obtain ⟨_, hterminates, _⟩ := ofHappenings_accounts smallSettings servedHandlers
  obtain ⟨hcount, _, _, hleave⟩ := ofHappenings_accounts smallSettings outlivedRestart
  have haborted : restarted.handlers[1]? = some ⟨0, false, 1⟩ := by rw [hhandlers]; rfl
  exact ⟨hone, (hterminates _ 1 hone).1.symm, hhandlers, hcount.trans hpresent,
    (hleave 1 _ haborted Nat.one_pos).1⟩

end Attendance

end SitePreview
