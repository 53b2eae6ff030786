import SitePreview.Proofs.Histories
import SitePreview.Proofs.OperationSteps
import SitePreview.Server.Traffic

namespace SitePreview

theorem Server.arrive_accepted {s t : Server} {method target : Text} {said : List Message}
    {request : Routed} (h : s.arrive method target = .ok (t, said, .accepted request)) :
    s.config ≠ none ∧ t = { s with kept := { s.kept with
      requestsHandled := s.kept.requestsHandled + 1 } } := by
  unfold arrive at h
  split at h
  next => cases h
  next config hconfig =>
    obtain ⟨path, _, h⟩ := exceptBind_eq_ok.mp h
    cases exceptPure_eq_ok.mp h
    exact ⟨by simp [hconfig], rfl⟩

namespace Stage

theorem proceed_server (disk : Disk) (stage : Stage) (s : Server) :
    (stage.proceed disk s).2 = match stage.failure? disk with
      | none => s
      | some fault => { s with kept := { s.kept with lastError := some fault.message } } := by
  cases stage with
  | reading | answered => rfl
  | resolving request =>
    unfold proceed failure?
    dsimp only
    cases request.resolved disk <;> rfl
  | fetching fetch =>
    unfold proceed failure?
    dsimp only [Server.finishFetch]
    cases fetch.response disk <;> rfl

theorem proceed_ne_reading {disk : Disk} {stage : Stage} {s : Server} (h : stage ≠ .reading) :
    (stage.proceed disk s).1 ≠ .reading := by
  cases stage with
  | reading => exact absurd rfl h
  | answered | fetching => exact nofun
  | resolving request =>
    unfold proceed
    dsimp only
    split <;> exact nofun

end Stage

namespace Traffic

/-- The requests and the counter agree: while there is a configuration the requests of its run are
counted, and otherwise none. -/
structure Counted (t : Traffic) : Prop where
  silent : t.server.phase ≠ none → t.server.listening = false
  held : t.server.config ≠ none → t.server.listening = true ∨
    ∃ restarting terminated, t.server.phase = some (.closing restarting terminated)
  started : ∀ v ∈ t.visits, ∀ run, v.countedIn = some run → run ≤ t.runs
  unread : ∀ v ∈ t.visits, v.stage = .reading → v.countedIn = none
  handled : t.server.kept.requestsHandled =
    if t.server.config = none then 0 else t.countedIn t.runs

variable {t : Traffic}

theorem fresh_counted (settings : Settings) : Counted { server := { settings } } :=
  ⟨fun h => absurd rfl h, fun h => absurd rfl h, List.forall_mem_nil _, List.forall_mem_nil _, rfl⟩

/-- What leaves the run and its counter alone keeps them in agreement. -/
theorem Counted.server (h : t.Counted) {s : Server} (hphase : s.phase = t.server.phase)
    (hlistening : s.listening = t.server.listening) (hconfig : s.config = t.server.config)
    (hhandled : s.kept.requestsHandled = t.server.kept.requestsHandled) :
    Counted { t with server := s } := by
  refine ⟨?_, ?_, h.started, h.unread, ?_⟩
  · rw [hphase, hlistening]
    exact h.silent
  · rw [hphase, hlistening, hconfig]
    exact h.held
  · rw [hconfig, hhandled]
    exact h.handled

theorem Counted.config_eq_none (h : t.Counted) (hlistening : t.server.listening = false)
    (hphase : ∀ restarting terminated, t.server.phase ≠ some (.closing restarting terminated)) :
    t.server.config = none := by
  cases hconfig : t.server.config with
  | none => rfl
  | some config =>
    rcases h.held (by simp [hconfig]) with hsounding | ⟨restarting, terminated, hclosing⟩
    · simp [hlistening] at hsounding
    · exact absurd hclosing (hphase restarting terminated)

theorem Counted.countedIn_succ (h : t.Counted) : t.countedIn (t.runs + 1) = 0 := by
  refine List.countP_eq_zero.mpr fun v hv => ?_
  intro hcounted
  have hle := h.started v hv (t.runs + 1) (of_decide_eq_true hcounted)
  omega

theorem Counted.advances (h : t.Counted) {step : Step} (hstep : t.server.Advances step) :
    (t.operate step).Counted := by
  have hstarted : ∀ v ∈ t.visits, ∀ run, v.countedIn = some run →
      run ≤ t.runs + step.acts.count .opened :=
    fun v hv run hrun => Nat.le_add_right_of_le (h.started v hv run hrun)
  have hreading {config : Option ServerConfig} (hlistening : t.server.listening = false)
      (hconfig : config = none ∨ t.server.phase = none ∧ config = t.server.config) :
      config = none := by
    rcases hconfig with hdropped | ⟨hphase, hsame⟩
    · exact hdropped
    · exact hsame.trans (h.config_eq_none hlistening (by simp [hphase]))
  refine ⟨hstep.silent_of_waits, ?_, hstarted, h.unread, ?_⟩
  · cases hstep with
    | refused => exact h.held
    | closing => exact fun _ => .inr ⟨_, _, rfl⟩
    | serving => exact fun _ => .inl rfl
    | stopped | failed => exact fun hconfig => absurd rfl hconfig
    | reading hlistening hconfig =>
      intro hheld
      exact absurd (hreading hlistening hconfig) hheld
    | listening hlistening hphase | naming hlistening hphase =>
      intro hheld
      exact absurd (h.config_eq_none hlistening (by simp [hphase])) hheld
  · cases hstep with
    | refused | closing | listening | naming => exact h.handled
    | stopped | failed => rfl
    | serving =>
      show 0 = t.countedIn (t.runs + 1)
      rw [h.countedIn_succ]
    | reading hlistening hconfig => exact (if_pos (hreading hlistening hconfig)).symm

theorem countedIn_set {visits : List Visit} {i : Nat} {v : Visit} (hi : visits[i]? = some v)
    (run : Nat) (next : Visit) : (visits.set i next).countP (fun v => v.countedIn = some run) +
        (if v.countedIn = some run then 1 else 0) =
      visits.countP (fun v => v.countedIn = some run) +
        (if next.countedIn = some run then 1 else 0) := by
  obtain ⟨hlt, rfl⟩ := List.getElem?_eq_some_iff.mp hi
  rw [List.countP_set hlt]
  simp only [decide_eq_true_eq]
  by_cases hcounted : visits[i].countedIn = some run
  · have hpos : 0 < visits.countP (fun v => v.countedIn = some run) :=
      List.countP_pos_iff.mpr ⟨visits[i], List.getElem_mem hlt, by simp [hcounted]⟩
    simp only [hcounted, if_true]
    omega
  · simp only [hcounted, if_false]
    omega

theorem Counted.set (h : t.Counted) {i : Nat} {v next : Visit} (hi : t.visits[i]? = some v)
    (hcounted : next.countedIn = v.countedIn) (hstage : next.stage = .reading → v.stage = .reading) :
    Counted { t with visits := t.visits.set i next } := by
  have hv : v ∈ t.visits := List.mem_of_getElem? hi
  refine ⟨h.silent, h.held, ?_, ?_, ?_⟩
  · intro u hu run hrun
    rcases List.mem_or_eq_of_mem_set hu with hu | rfl
    · exact h.started u hu run hrun
    · exact h.started v hv run (hcounted ▸ hrun)
  · intro u hu hreading
    rcases List.mem_or_eq_of_mem_set hu with hu | rfl
    · exact h.unread u hu hreading
    · rw [hcounted]
      exact h.unread v hv (hstage hreading)
  · have hset := countedIn_set hi t.runs next
    rw [hcounted] at hset
    show t.server.kept.requestsHandled = if t.server.config = none then 0 else
      (t.visits.set i next).countP (fun v => v.countedIn = some t.runs)
    rw [Nat.add_right_cancel hset]
    exact h.handled

theorem Counted.proceed (h : t.Counted) (i : Nat) (disk : Disk) : (t.proceed i disk).Counted := by
  unfold Traffic.proceed
  cases hi : t.visits[i]? with
  | none => exact h
  | some v =>
    have hserver := v.stage.proceed_server disk t.server
    let next : Visit := { v with stage := (v.stage.proceed disk t.server).1 }
    have hset : Counted { t with visits := t.visits.set i next } := by
      refine h.set hi rfl fun hreading => ?_
      by_cases hv : v.stage = .reading
      · exact hv
      · exact absurd hreading (Stage.proceed_ne_reading hv)
    refine hset.server ?_ ?_ ?_ ?_
    all_goals
      rw [hserver]
      cases v.stage.failure? disk <;> rfl

theorem Counted.accept (h : t.Counted) {i : Nat} {v : Visit} (hi : t.visits[i]? = some v)
    (hreading : v.stage = .reading) {server : Server} {method target : Text} {said : List Message}
    {request : Routed} (harrive : t.server.arrive method target = .ok (server, said, .accepted request)) :
    let counted : Visit := { v with countedIn := some t.runs, stage := .resolving request }
    Counted { t with server, visits := t.visits.set i counted } := by
  intro counted
  obtain ⟨hconfig, rfl⟩ := Server.arrive_accepted harrive
  refine ⟨h.silent, h.held, ?_, ?_, ?_⟩
  · intro u hu run hrun
    rcases List.mem_or_eq_of_mem_set hu with hu | rfl
    · exact h.started u hu run hrun
    · exact Nat.le_of_eq (Option.some.inj hrun).symm
  · intro u hu hstage
    rcases List.mem_or_eq_of_mem_set hu with hu | rfl
    · exact h.unread u hu hstage
    · cases hstage
  · have huncounted : v.countedIn = none := h.unread v (List.mem_of_getElem? hi) hreading
    have hset := countedIn_set hi t.runs counted
    have hhandled := h.handled
    rw [huncounted, if_neg (by simp), if_pos rfl] at hset
    rw [if_neg hconfig] at hhandled
    show t.server.kept.requestsHandled + 1 = if t.server.config = none then 0 else
      (t.visits.set i counted).countP (fun v => v.countedIn = some t.runs)
    rw [if_neg hconfig, hhandled]
    exact hset.symm

/-- Only a request of the run, or one whose connection is still registered, is accepted. -/
theorem foundBy_of_accepted {i : Nat} {v : Visit} {server : Server} {method target : Text}
    {said : List Message} {request : Routed}
    (harrive : (t.foundBy i v).arrive method target = .ok (server, said, .accepted request)) :
    t.foundBy i v = t.server ∧ (v.cameIn = t.runs ∨ i ∈ t.server.registry.members) := by
  have hconfig := (Server.arrive_accepted harrive).1
  unfold foundBy at hconfig ⊢
  split at hconfig
  next hpresent => exact ⟨if_pos hpresent, hpresent⟩
  next => exact absurd rfl hconfig

/-- Taking a request in counts it, if it is one of the run or its connection is still registered, and
otherwise leaves the server as it is. -/
theorem takeIn_server (t : Traffic) (i : Nat) (method target : Text) :
    (t.takeIn i method target).server = t.server ∨
      (∃ v, t.visits[i]? = some v ∧ v.stage = .reading ∧
        (v.cameIn = t.runs ∨ i ∈ t.server.registry.members)) ∧
      t.server.config ≠ none ∧ (t.takeIn i method target).server = { t.server with kept :=
        { t.server.kept with requestsHandled := t.server.kept.requestsHandled + 1 } } := by
  unfold takeIn
  cases hi : t.visits[i]? with
  | none => exact .inl rfl
  | some v =>
    dsimp only
    split
    next hreading harrive =>
      obtain ⟨hfound, hpresent⟩ := foundBy_of_accepted harrive
      rw [hfound] at harrive
      obtain ⟨hconfig, rfl⟩ := Server.arrive_accepted harrive
      exact .inr ⟨⟨v, rfl, hreading, hpresent⟩, hconfig, rfl⟩
    next => exact .inl rfl
    next => exact .inl rfl

theorem Counted.takeIn (h : t.Counted) (i : Nat) (method target : Text) :
    (t.takeIn i method target).Counted := by
  unfold Traffic.takeIn
  split
  next v hi =>
    split
    next hreading harrive =>
      rw [(foundBy_of_accepted harrive).1] at harrive
      exact h.accept hi hreading harrive
    next hreading _ => exact h.set hi rfl nofun
    next => exact h
  next => exact h

theorem Counted.come (h : t.Counted) : (t.after .come).Counted := by
  have hfresh (v : Visit) (hv : v ∈ t.visits ++ [{ cameIn := t.runs }]) :
      v ∈ t.visits ∨ v.countedIn = none := by
    rcases List.mem_append.mp hv with hv | hv
    · exact .inl hv
    · rw [List.mem_singleton.mp hv]
      exact .inr rfl
  refine ⟨h.silent, h.held, ?_, ?_, ?_⟩
  · intro v hv run hrun
    rcases hfresh v hv with hv | hnone
    · exact h.started v hv run hrun
    · simp [hnone] at hrun
  · intro v hv hstage
    rcases hfresh v hv with hv | hnone
    · exact h.unread v hv hstage
    · exact hnone
  · have hcount : (t.after .come).countedIn t.runs = t.countedIn t.runs := by
      simp [Traffic.after, Traffic.countedIn, List.countP_append]
    show t.server.kept.requestsHandled = if t.server.config = none then 0 else
      (t.after .come).countedIn t.runs
    rw [hcount]
    exact h.handled

theorem Counted.after (h : t.Counted) (o : Occurrence) : (t.after o).Counted := by
  cases o with
  | call disk op =>
    simp only [Traffic.after]
    rcases Server.beginOperation_cases disk op t.server with ⟨_, hbusy⟩ | ⟨_, hstep⟩
    · rw [hbusy]
      exact h
    · exact h.advances hstep
  | resume w =>
    simp only [Traffic.after]
    rcases Server.resume_cases h.silent w with ⟨_, hidle⟩ | hstep
    · rw [hidle]
      exact h
    · exact h.advances hstep
  | update settings => exact h.server rfl rfl rfl rfl
  | come => exact h.come
  | takeIn i method target => exact h.takeIn i method target
  | proceed i disk => exact h.proceed i disk
  | leave i => exact h.server rfl rfl rfl rfl

theorem ofOccurrences_counted (settings : Settings) (occurrences : List Occurrence) :
    (ofOccurrences settings occurrences).Counted := by
  have hrun (t : Traffic) (h : t.Counted) : (occurrences.foldl Traffic.after t).Counted := by
    induction occurrences generalizing t with
    | nil => exact h
    | cons o occurrences ih => exact ih _ (h.after o)
  exact hrun _ (fresh_counted settings)

/-- The requests that the status counts are those that were taken in during its own run; one that came in an
earlier run is not taken in any more, unless its connection is still registered. Of a request that was taken
in, in whatever run, the status hears only if it fails, and then its error is told. -/
theorem ofOccurrences_bookkeeping (settings : Settings) (occurrences : List Occurrence) :
    let t := ofOccurrences settings occurrences
    (t.server.status.requestsHandled =
        if t.server.config = none then 0 else t.countedIn t.runs) ∧
      (∀ i method target, (t.after (.takeIn i method target)).server = t.server ∨
        (∃ v, t.visits[i]? = some v ∧ v.stage = .reading ∧
          (v.cameIn = t.runs ∨ i ∈ t.server.registry.members)) ∧
        t.server.config ≠ none ∧ (t.after (.takeIn i method target)).server = { t.server with kept :=
          { t.server.kept with requestsHandled := t.server.kept.requestsHandled + 1 } }) ∧
      ∀ i disk, (t.after (.proceed i disk)).server =
        match t.visits[i]?.bind fun v => v.stage.failure? disk with
        | none => t.server
        | some fault => { t.server with kept := { t.server.kept with lastError := some fault.message } } := by
  intro t
  refine ⟨(ofOccurrences_counted settings occurrences).handled, fun i method target =>
    t.takeIn_server i method target, ?_⟩
  intro i disk
  simp only [Traffic.after, Traffic.proceed]
  cases hi : t.visits[i]? with
  | none => rfl
  | some v => exact v.stage.proceed_server disk t.server

end Traffic

/-- A request for the only file of the small site, and what it fails with once that is gone. -/
def fileRequest : Routed where
  config := smallPlan.config
  location := none
  path := "/nginx.conf".toList

def fileFetch : Fetch := ⟨"/nginx.conf".toList, "application/octet-stream".toList⟩

def fileGone : FileFault := ⟨.missing, "/nginx.conf".toList⟩

def bareSite : Disk := .ofTop (.directory [])

namespace Traffic

variable {t : Traffic}

theorem call_start_smallSite (hsettings : t.server.settings = smallSettings)
    (hlistening : t.server.listening = false) (hphase : t.server.phase = none) :
    t.after (.call smallSite .start) = { t with server := { t.server with
      kept := { state := .starting }
      phase := some (.reading "/nginx.conf".toList) } } := by
  have hfound : lookUpConfig smallSite smallSettings =
      .ok ⟨none, .direct "/nginx.conf".toList⟩ := by cbv
  simp only [Traffic.after, operate, Server.beginOperation, Server.beginStart, hphase, hlistening,
    hsettings, hfound]
  rfl

theorem call_restart (hlistening : t.server.listening = true) (hphase : t.server.phase = none)
    (disk : Disk) :
    t.after (.call disk .restart) = { t with server := { t.server with
      listening := false
      kept := { t.server.kept with state := .stopping }
      phase := some (.closing true t.server.registry.size)
      registry := {} } } := by
  simp only [Traffic.after, operate, Server.beginOperation, Server.beginStop, hphase, hlistening]
  rfl

theorem resume_closing_smallSite (terminated : Nat) (hsettings : t.server.settings = smallSettings)
    (hlistening : t.server.listening = false)
    (hphase : t.server.phase = some (.closing true terminated)) :
    t.after (.resume smallSurroundings) = { t with server := { t.server with
      config := none
      kept := { state := .starting }
      phase := some (.reading "/nginx.conf".toList) } } := by
  have hfound : lookUpConfig smallSite smallSettings =
      .ok ⟨none, .direct "/nginx.conf".toList⟩ := by cbv
  have hdisk : smallSurroundings.disk = smallSite := rfl
  simp only [Traffic.after, operate, Server.resume, Server.afterClosing, Server.beginStart, hphase,
    hlistening, hsettings, hdisk, hfound]
  rfl

theorem resume_reading_smallSite (hsettings : t.server.settings = smallSettings)
    (hlistening : t.server.listening = false)
    (hphase : t.server.phase = some (.reading "/nginx.conf".toList)) :
    t.after (.resume smallSurroundings) =
      { t with server := { t.server with phase := some (.listening smallPlan) } } := by
  have hbase : baseDirFor smallSite.cwd smallSettings "/nginx.conf".toList = ['/'] := by cbv
  have hresume : t.server.resume smallSurroundings =
      t.server.afterReading smallSurroundings "/nginx.conf".toList := by
    rw [Server.resume, hphase]
  have hserver := afterReading_smallSite (hsettings ▸ hbase : baseDirFor _ t.server.settings _ = _)
  have hopened := (Server.afterReading_advances hlistening hphase
    smallSurroundings).count_opened (by rw [hserver]; exact hlistening)
  simp only [Traffic.after, operate, hresume, hserver, hopened, hsettings]
  rfl

theorem resume_listening_smallSite (hphase : t.server.phase = some (.listening smallPlan)) :
    t.after (.resume smallSurroundings) =
      { t with server := (t.server.run smallPlan).server, runs := t.runs + 1 } := by
  simp only [Traffic.after, operate, Server.resume, Server.afterListening, hphase]
  rfl

/-- A start of the small site, and a restart of it, that go through. -/
def startSmallSite : List Occurrence :=
  [.call smallSite .start, .resume smallSurroundings, .resume smallSurroundings]

def restartSmallSite : List Occurrence :=
  [.call smallSite .restart, .resume smallSurroundings, .resume smallSurroundings,
    .resume smallSurroundings]

theorem after_startSmallSite (hsettings : t.server.settings = smallSettings)
    (hlistening : t.server.listening = false) (hphase : t.server.phase = none) :
    startSmallSite.foldl Traffic.after t =
      { t with server := (t.server.run smallPlan).server, runs := t.runs + 1 } := by
  rw [startSmallSite, List.foldl_cons, call_start_smallSite hsettings hlistening hphase,
    List.foldl_cons, resume_reading_smallSite, List.foldl_cons, resume_listening_smallSite]
  · rfl
  · rfl
  · exact hsettings
  · exact hlistening
  · rfl

theorem after_restartSmallSite (hsettings : t.server.settings = smallSettings)
    (hlistening : t.server.listening = true) (hphase : t.server.phase = none) :
    restartSmallSite.foldl Traffic.after t = { t with
      server := (({ t.server with registry := {} } : Server).run smallPlan).server
      runs := t.runs + 1 } := by
  rw [restartSmallSite, List.foldl_cons, call_restart hlistening hphase, List.foldl_cons,
    resume_closing_smallSite t.server.registry.size, List.foldl_cons, resume_reading_smallSite, List.foldl_cons,
    resume_listening_smallSite]
  all_goals first | rfl | exact hsettings

theorem takeIn_file (v : Visit) (hvisits : t.visits = [v]) (hreading : v.stage = .reading)
    (hrun : v.cameIn = t.runs) (hconfig : t.server.config = some smallPlan.config) :
    t.after (.takeIn 0 "GET".toList "/nginx.conf".toList) = { t with
      server := { t.server with kept := { t.server.kept with
        requestsHandled := t.server.kept.requestsHandled + 1 } }
      visits := [{ v with countedIn := some t.runs, stage := .resolving fileRequest }] } := by
  have hpath : Target.path "/nginx.conf".toList = .ok "/nginx.conf".toList := by cbv
  have hfound : t.foundBy 0 v = t.server := if_pos (.inl hrun)
  simp only [Traffic.after, takeIn, hvisits, List.getElem?_cons_zero, hreading, hfound, Server.arrive,
    hconfig, hpath]
  rfl

theorem proceed_file (v : Visit) (hvisits : t.visits = [v]) (hstage : v.stage = .resolving fileRequest) :
    t.after (.proceed 0 smallSite) = { t with visits := [{ v with stage := .fetching fileFetch }] } := by
  have hresolved : fileRequest.resolved smallSite = .fetching fileFetch := by cbv
  simp only [Traffic.after, proceed, hvisits, List.getElem?_cons_zero, hstage, Stage.proceed, hresolved,
    List.set_cons_zero]

theorem proceed_gone {v : Visit} (hvisits : t.visits = [v]) (hstage : v.stage = .fetching fileFetch) :
    t.after (.proceed 0 bareSite) = { t with
      server := { t.server with kept := { t.server.kept with lastError := some fileGone.message } }
      visits := [{ v with stage := .answered }] } := by
  have hgone : fileFetch.response bareSite = .error fileGone := by cbv
  simp only [Traffic.after, proceed, hvisits, List.getElem?_cons_zero, hstage, Stage.proceed,
    Server.finishFetch, hgone, Server.failRequest, List.set_cons_zero]

/-- A request that a restart overtakes while its file is to be read. -/
def overtakenRequest : List Occurrence :=
  startSmallSite ++ .come :: .takeIn 0 "GET".toList "/nginx.conf".toList :: .proceed 0 smallSite ::
    restartSmallSite

/-- The second run, with a request that it has not counted. -/
def secondRun (v : Visit) : Traffic where
  server := (Server.run smallPlan { settings := smallSettings }).server
  runs := 2
  visits := [v]

theorem ofOccurrences_overtakenRequest : ofOccurrences smallSettings overtakenRequest =
    secondRun { cameIn := 1, countedIn := some 1, stage := .fetching fileFetch } := by
  rw [ofOccurrences, overtakenRequest, List.foldl_append, after_startSmallSite rfl rfl rfl,
    List.foldl_cons, List.foldl_cons, takeIn_file { cameIn := 1 }, List.foldl_cons,
    proceed_file { cameIn := 1, countedIn := some 1, stage := .resolving fileRequest },
    after_restartSmallSite]
  all_goals rfl

/-- A request of the first run writes to the status of the second. -/
theorem ofOccurrences_overtaken :
    let before := ofOccurrences smallSettings overtakenRequest
    let failed := ofOccurrences smallSettings (overtakenRequest ++ [.proceed 0 bareSite])
    before.visits.map Visit.cameIn = [1] ∧ before.visits.map Visit.countedIn = [some 1] ∧
      before.runs = 2 ∧ failed.runs = 2 ∧ failed.server.status.state = .running ∧
      before.server.status.lastError = none ∧
      failed.server.status.lastError = some fileGone.message := by
  intro before failed
  have hbefore : before = secondRun { cameIn := 1, countedIn := some 1, stage := .fetching fileFetch } :=
    ofOccurrences_overtakenRequest
  have hfailed : failed = before.after (.proceed 0 bareSite) := by
    simp only [failed, before, ofOccurrences, List.foldl_append, List.foldl_cons, List.foldl_nil]
  rw [hfailed, hbefore, proceed_gone rfl rfl]
  exact ⟨rfl, rfl, rfl, rfl, rfl, rfl, rfl⟩

end Traffic

end SitePreview
