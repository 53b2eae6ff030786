import SitePreview.Proofs.HeadArrival
import SitePreview.Server.Connection

namespace SitePreview

theorem Response.render_ne_nil (r : Response) (headOnly : Bool) : r.render headOnly ≠ [] := by
  have hhead : r.headText ≠ [] := by
    unfold headText
    simp only [List.append_assoc]
    exact List.append_ne_nil_of_left_ne_nil (by decide) _
  have hfront : Latin.encode r.headText ≠ [] := fun h => hhead (List.map_eq_nil_iff.mp h)
  exact List.append_ne_nil_of_left_ne_nil hfront _

/-- The response to a routed request. A fault on the way is the server's. -/
def Routed.response (disk : Disk) (r : Routed) : Response :=
  match r.resolved disk with
  | .answered response => response
  | .fetching fetch =>
    match fetch.response disk with
    | .ok response => response
    | .error _ => .serverError
  | .failed _ => .serverError

/-- The response to a target under a configuration, or without any. -/
def responseTo (disk : Disk) (config : Option ServerConfig) (target : Text) :
    Except TargetFault Response :=
  match config with
  | none => .ok .serverError
  | some config => (Target.path target).map fun path =>
      Routed.response disk ⟨config, pickLocation config.locations path, path⟩

namespace Server

theorem finishResolved_response (disk : Disk) (r : Routed) (s : Server) :
    (s.finishResolved disk (r.resolved disk)).response = r.response disk := by
  unfold finishResolved Routed.response
  cases r.resolved disk with
  | answered response => rfl
  | failed fault => rfl
  | fetching fetch =>
    unfold finishFetch
    cases h : fetch.response disk with
    | ok response => simp [h]
    | error fault => simp [h, failRequest]

theorem dispatch_response (disk : Disk) (method target : Text) (s : Server) :
    (s.dispatch disk method target).map RequestStep.response =
      responseTo disk s.config target := by
  unfold dispatch arrive responseTo
  cases s.config with
  | none => rfl
  | some config =>
    cases Target.path target with
    | error fault => rfl
    | ok path => exact congrArg Except.ok (finishResolved_response disk _ _)

/-- What a handler has written and how it failed once it is through with a head. -/
def handledHead (disk : Disk) (config : Option ServerConfig) (head : RequestHead) : Handled :=
  match responseTo disk config head.target with
  | .ok response => .finished (response.render (isHeadOnly head.method)) none
  | .error fault => .finished [] (some fault)

theorem handleHead_handled (disk : Disk) (head : RequestHead) (s : Server) :
    (s.handleHead disk head).handled = handledHead disk s.config head := by
  unfold handleHead handledHead
  rw [← dispatch_response disk head.method]
  cases s.dispatch disk head.method head.target <;> rfl

theorem handle_of_waiting {disk : Disk} {ended : Bool} {octets : Bytes} {s : Server}
    (h : (s.handle disk ended octets).handled = .waiting) :
    (s.handle disk ended octets).server = s := by
  unfold handle at h ⊢
  split <;> simp_all [handleHead_handled, handledHead]
  split at h <;> simp at h

theorem handle_goesOn {disk : Disk} {octets written : Bytes} {failure : Option TargetFault}
    {s : Server} (h : (s.handle disk false octets).handled = .finished written failure)
    (ended : Bool) (more : Bytes) :
    (s.handle disk ended (octets ++ more)).handled = .finished written failure := by
  have hread := RequestHead.read_goesOn RequestHead.defaultLineLimit ended octets more
  unfold handle at h ⊢
  cases hnow : RequestHead.read RequestHead.defaultLineLimit false octets with
  | waiting => simp [hnow] at h
  | silent =>
    rw [hnow] at hread
    exact hread.elim
  | refused fault =>
    rw [hnow] at hread
    obtain ⟨later, hlater⟩ := hread
    simpa [hnow, hlater] using h
  | head found rest =>
    rw [hnow] at hread
    have hlater : RequestHead.read RequestHead.defaultLineLimit ended (octets ++ more) =
        .head found (rest ++ more) := hread
    simpa [hnow, hlater] using h

theorem handle_ended_ne_waiting (disk : Disk) (octets : Bytes) (s : Server) :
    (s.handle disk true octets).handled ≠ .waiting := by
  unfold handle
  split
  next h => exact absurd h (RequestHead.read_ended_ne_waiting _ octets)
  next => simp
  next => simp
  next head rest _ =>
    rw [handleHead_handled]
    unfold handledHead
    split <;> simp

end Server

end SitePreview
