import Mathlib
import SitePreview.Proofs.Answers

namespace SitePreview

structure Request where
  method : Text
  target : Text

/-- Answers requests one after the other. -/
def Server.dispatchAll (disk : Disk) : List Request → Server →
    Except TargetFault (Server × List Response)
  | [], s => .ok (s, [])
  | r :: requests, s => do
    let step ← s.dispatch disk r.method r.target
    let (last, responses) ← step.server.dispatchAll disk requests
    return (last, step.response :: responses)

/-- What is said of an outcome that refuses a request. -/
def Outcome.refusal? : Outcome → Option Text
  | forbidden => some "403 Forbidden".toList
  | notFound true => some "404 Not Found (Directory index not found)".toList
  | notFound false => some "404 Not Found".toList
  | serve .. | proxy _ => none

theorem Outcome.statusCode_ne_500 (outcome : Outcome) : outcome.statusCode ≠ 500 := by
  cases outcome <;> simp [statusCode]

namespace ServerConfig

def outcome (disk : Disk) (config : ServerConfig) (path : Text) : Except FileFault Outcome :=
  resolve disk config (pickLocation config.locations path) path

/-- A path cannot be resolved, or the file that it leads to cannot be read. -/
inductive FailsWith (disk : Disk) (config : ServerConfig) (path : Text) (fault : FileFault) : Prop
  | unresolved : config.outcome disk path = .error fault → FailsWith disk config path fault
  | unread {file mediaType} : config.outcome disk path = .ok (.serve file mediaType) →
      disk.contentOf file = .error fault → FailsWith disk config path fault

/-- What a path is answered with, and what the request fails with if it does. The status is that of
the outcome, if there is one and its file can be read. -/
inductive Answers (disk : Disk) (config : ServerConfig) (path : Text) :
    Response → Option FileFault → Prop
  | file {outcome file mediaType content} : config.outcome disk path = .ok outcome →
      outcome = .serve file mediaType → disk.contentOf file = .ok content →
      Answers disk config path ⟨outcome.statusCode, mediaType, content⟩ none
  | proxied {outcome target} : config.outcome disk path = .ok outcome → outcome = .proxy target →
      Answers disk config path (.ofText outcome.statusCode
        ("[Mock] Matched proxy location: ".toList ++ target)) none
  | refused {outcome words} : config.outcome disk path = .ok outcome →
      outcome.refusal? = some words →
      Answers disk config path (.ofText outcome.statusCode words) none
  | failed {fault} : config.FailsWith disk path fault →
      Answers disk config path .serverError (some fault)

variable {disk : Disk} {config : ServerConfig} {path : Text} {response other : Response}
  {failure otherFailure : Option FileFault}

theorem Answers.unique (h : config.Answers disk path response failure)
    (hother : config.Answers disk path other otherFailure) :
    other = response ∧ otherFailure = failure := by
  cases h <;> cases hother <;> grind [FailsWith, Outcome.refusal?]

theorem Answers.status_eq_500 (h : config.Answers disk path response failure) :
    response.status = 500 ↔ ∃ fault, config.FailsWith disk path fault := by
  constructor
  · intro hstatus
    cases h with
    | failed hfails => exact ⟨_, hfails⟩
    | file | proxied | refused => exact absurd hstatus (Outcome.statusCode_ne_500 _)
  · rintro ⟨fault, hfails⟩
    rw [← (h.unique (.failed hfails)).1]
    rfl

/-- Every request has a path, and the answer of that path. -/
def AnswersAll (disk : Disk) (config : ServerConfig) :
    List Request → List (Response × Option FileFault) → Prop :=
  List.Forall₂ fun r a => ∃ path, Target.path r.target = .ok path ∧ config.Answers disk path a.1 a.2

theorem AnswersAll.unique {requests : List Request} {answers others : List (Response × Option FileFault)}
    (h : config.AnswersAll disk requests answers) (hothers : config.AnswersAll disk requests others) :
    others = answers := by
  refine (Relator.RightUnique.forall₂ ?_ h hothers).symm
  rintro r ⟨response, failure⟩ ⟨other, otherFailure⟩ ⟨path, hpath, ha⟩ ⟨found, hfound, hb⟩
  cases hpath.symm.trans hfound
  obtain ⟨rfl, rfl⟩ := hb.unique ha
  rfl

end ServerConfig

namespace Server

variable {disk : Disk} {s : Server} {config : ServerConfig} {method target path : Text}

/-- The server once so many requests have been counted and these faults have come up. -/
def noting (count : Nat) (faults : List FileFault) (s : Server) : Server :=
  { s with kept := { s.kept with
      requestsHandled := s.kept.requestsHandled + count
      lastError := (faults.getLast?.map FileFault.message).or s.kept.lastError } }

theorem noting_noting (s : Server) (count more : Nat) (faults later : List FileFault) :
    (s.noting count faults).noting more later = s.noting (count + more) (faults ++ later) := by
  simp only [noting, List.getLast?_append, Nat.add_assoc, Option.map_or, Option.or_assoc]

/-- A routed request gets its answer, and leaves its fault in the status if it fails. -/
theorem finishResolved_answers (disk : Disk) (config : ServerConfig) (path : Text) (s : Server) :
    let request : Routed := ⟨config, pickLocation config.locations path, path⟩
    let step := s.finishResolved disk (request.resolved disk)
    ∃ failure, config.Answers disk path step.response failure ∧
      step.server = s.noting 0 failure.toList := by
  intro request step
  cases hout : config.outcome disk path with
  | error fault =>
    have hresolved : request.resolved disk = .failed fault := by
      unfold ServerConfig.outcome at hout
      simp only [Routed.resolved, request, hout]
    have hstep : step = s.failRequest fault := by
      simp only [step, hresolved, finishResolved]
    rw [hstep]
    exact ⟨some fault, .failed (.unresolved hout), rfl⟩
  | ok outcome =>
    have hresolved : request.resolved disk = .ofOutcome outcome := by
      unfold ServerConfig.outcome at hout
      simp only [Routed.resolved, request, hout]
    simp only [step, hresolved]
    cases outcome with
    | proxy proxied => exact ⟨none, .proxied hout rfl, rfl⟩
    | forbidden => exact ⟨none, .refused hout rfl, rfl⟩
    | notFound inDirectory =>
      cases inDirectory
      · exact ⟨none, .refused hout rfl, rfl⟩
      · exact ⟨none, .refused hout rfl, rfl⟩
    | serve file mediaType =>
      simp only [Resolved.ofOutcome, finishResolved, finishFetch, Fetch.response]
      cases hread : disk.contentOf file with
      | error fault => exact ⟨some fault, .failed (.unread hout hread), rfl⟩
      | ok content => exact ⟨none, .file hout rfl hread, rfl⟩

theorem arrive_accepts (hconfig : s.config = some config) (hpath : Target.path target = .ok path)
    (method : Text) : ∃ said, s.arrive method target =
      .ok (s.noting 1 [], said, .accepted ⟨config, pickLocation config.locations path, path⟩) := by
  cases s
  cases hconfig
  simp only [arrive, hpath]
  exact ⟨_, rfl⟩

theorem dispatch_answers (hconfig : s.config = some config) (hpath : Target.path target = .ok path)
    (disk : Disk) (method : Text) :
    ∃ step failure, s.dispatch disk method target = .ok step ∧
      config.Answers disk path step.response failure ∧
      step.server = s.noting 1 failure.toList := by
  obtain ⟨said, harrive⟩ := arrive_accepts hconfig hpath method
  obtain ⟨failure, hanswers, hserver⟩ := finishResolved_answers disk config path (s.noting 1 [])
  simp only [dispatch, harrive]
  exact ⟨_, failure, rfl, hanswers, hserver.trans (s.noting_noting 1 0 [] failure.toList)⟩

theorem dispatchAll_noting (disk : Disk) (hconfig : s.config = some config) {requests : List Request}
    (hread : ∀ r ∈ requests, ∃ path, Target.path r.target = .ok path) :
    ∃ answers : List (Response × Option FileFault),
      config.AnswersAll disk requests answers ∧
      s.dispatchAll disk requests =
        .ok (s.noting requests.length (answers.filterMap Prod.snd), answers.map Prod.fst) := by
  induction requests generalizing s with
  | nil => exact ⟨[], .nil, rfl⟩
  | cons r requests ih =>
    obtain ⟨path, hpath⟩ := hread r List.mem_cons_self
    obtain ⟨step, failure, hstep, hanswers, hserver⟩ := dispatch_answers hconfig hpath disk r.method
    have hnext : step.server.config = some config := by
      rw [hserver]
      exact hconfig
    obtain ⟨answers, hlater, hrun⟩ :=
      ih hnext fun r hr => hread r (List.mem_cons_of_mem _ hr)
    refine ⟨(step.response, failure) :: answers, .cons ⟨path, hpath, hanswers⟩ hlater, ?_⟩
    have hfaults : ((step.response, failure) :: answers).filterMap Prod.snd =
        failure.toList ++ answers.filterMap Prod.snd := by
      cases failure <;> rfl
    rw [dispatchAll, hstep, hfaults, List.length_cons, Nat.add_comm, ← noting_noting, ← hserver]
    simp only [bind, Except.bind, hrun]
    rfl

/-- Whatever a server with a configuration is asked for, one request after the other: each path gets
its answer, which depends on nothing but the configuration, the disk and the path, and is the server's
own error just if the path cannot be resolved or its file not be read. Nothing else is left behind than
the count of the requests and the error of the last that failed. -/
theorem dispatchAll_answers (disk : Disk) (hconfig : s.config = some config)
    {requests : List Request} (hread : ∀ r ∈ requests, ∃ path, Target.path r.target = .ok path) :
    ∃ answers : List (Response × Option FileFault),
      config.AnswersAll disk requests answers ∧
      s.dispatchAll disk requests = .ok ({ s with kept := { s.kept with
          requestsHandled := s.kept.requestsHandled + requests.length
          lastError := ((answers.filterMap Prod.snd).getLast?.map FileFault.message).or
            s.kept.lastError } }, answers.map Prod.fst) ∧
      ∀ path response failure, config.Answers disk path response failure →
        (∀ other otherFailure, config.Answers disk path other otherFailure →
          other = response ∧ otherFailure = failure) ∧
        (response.status = 500 ↔ ∃ fault, config.FailsWith disk path fault) := by
  obtain ⟨answers, hanswers, hrun⟩ := dispatchAll_noting disk hconfig hread
  exact ⟨answers, hanswers, hrun, fun path response failure h =>
    ⟨fun _ _ hother => h.unique hother, h.status_eq_500⟩⟩

end Server

/-- A site with a file and a link that leads back to itself. -/
def loopSite : Disk :=
  .ofTop (.directory [("home".toList, .file "hi".toUTF8.toList), ("loop".toList, .link "loop".toList)])

def proxyConfig : ServerConfig where
  documentRoot := ['/']
  indexFiles := defaultIndexFiles
  locations := [{
    selector := .prefixed false
    matcher := "/api".toList
    proxyTarget := some "http://backend".toList }]
  baseDir := ['/']

def proxyServer : Server where
  settings := {}
  listening := true
  config := some proxyConfig
  kept := { state := .running, lastError := some "old".toList }

def mixedRequests : List Request := [
  ⟨"GET".toList, "/home?x".toList⟩, ⟨"HEAD".toList, "/loop".toList⟩,
  ⟨"POST".toList, "/api/y".toList⟩, ⟨"GET".toList, "/gone".toList⟩]

/-- The request that fails is followed by others, and its error stays. -/
theorem Server.dispatchAll_answers_mixedRequests :
    ∃ last responses, proxyServer.dispatchAll loopSite mixedRequests = .ok (last, responses) ∧
      responses.map Response.status = [200, 500, 200, 404] ∧ last.kept.requestsHandled = 4 ∧
      last.kept.lastError =
        some "[Errno 40] Too many levels of symbolic links: '/loop'".toList := by
  have hread : ∀ r ∈ mixedRequests, ∃ path, Target.path r.target = .ok path := by
    intro r hr
    simp only [mixedRequests, List.mem_cons, List.not_mem_nil, or_false] at hr
    rcases hr with rfl | rfl | rfl | rfl <;> exact ⟨_, by cbv⟩
  obtain ⟨answers, hanswers, hrun, hunique⟩ :=
    dispatchAll_answers (s := proxyServer) loopSite rfl hread
  have hhome : proxyConfig.outcome loopSite "/home".toList =
      .ok (.serve "/home".toList defaultMediaType) := by cbv
  have hcontent : loopSite.contentOf "/home".toList = .ok "hi".toUTF8.toList := by cbv
  have hloop : proxyConfig.outcome loopSite "/loop".toList =
      .error ⟨.tooManyLinks, "/loop".toList⟩ := by cbv
  have hproxied : proxyConfig.outcome loopSite "/api/y".toList =
      .ok (.proxy "http://backend".toList) := by cbv
  have hgone : proxyConfig.outcome loopSite "/gone".toList = .ok (.notFound false) := by cbv
  have hexpected : proxyConfig.AnswersAll loopSite mixedRequests [
        (⟨200, defaultMediaType, "hi".toUTF8.toList⟩, none),
        (.serverError, some ⟨.tooManyLinks, "/loop".toList⟩),
        (.ofText 200 "[Mock] Matched proxy location: http://backend".toList, none),
        (.notFound, none)] :=
    .cons ⟨_, by cbv, .file hhome rfl hcontent⟩ <| .cons ⟨_, by cbv, .failed (.unresolved hloop)⟩ <|
      .cons ⟨_, by cbv, .proxied hproxied rfl⟩ <| .cons ⟨_, by cbv, .refused hgone rfl⟩ .nil
  cases hanswers.unique hexpected
  have hmessage : FileFault.message ⟨.tooManyLinks, "/loop".toList⟩ =
      "[Errno 40] Too many levels of symbolic links: '/loop'".toList := by decide +kernel
  exact ⟨_, _, hrun, rfl, rfl, congrArg some hmessage⟩

end SitePreview
