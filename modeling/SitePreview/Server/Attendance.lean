import SitePreview.Server.Traffic

namespace SitePreview

/-- A handler, with how many terminations came before it and how often its writer has been aborted. -/
structure Handler where
  startedAfter : Nat
  ended : Bool := false
  aborts : Nat := 0
  deriving DecidableEq, Repr

def Handler.finish (h : Handler) : Handler := { h with ended := true }

def Handler.abort (times : Nat) (h : Handler) : Handler := { h with aborts := h.aborts + times }

/-- The traffic of a server with its handlers, one for each visit in order, and with what each termination
has returned. -/
structure Attendance where
  traffic : Traffic
  handlers : List Handler := []
  returned : List Nat := []

/-- Something occurs, or all connections are terminated with no operation that asks for it. -/
inductive Happening where
  | occurs (o : Occurrence)
  | terminateAll

/-- How many connections the first step of an operation has terminated, if it waits for the listener to
close. -/
def Step.terminated? (step : Step) : Option Nat :=
  match step.reply, step.server.phase with
  | none, some (.closing _ terminated) => some terminated
  | _, _ => none

namespace Attendance

def registry (a : Attendance) : Registry := a.traffic.server.registry

/-- What a termination returns, if there is one. -/
def terminated? (a : Attendance) : Happening → Option Nat
  | .terminateAll => some a.registry.terminateAll.1.length
  | .occurs (.call disk op) => (a.traffic.server.beginOperation disk op).terminated?
  | .occurs _ => none

def trafficAfter (a : Attendance) : Happening → Traffic
  | .occurs o => a.traffic.after o
  | .terminateAll =>
    { a.traffic with server := { a.traffic.server with registry := a.registry.terminateAll.2 } }

/-- Each writer that a termination finds is aborted, as often as it is found. -/
def abortAll (a : Attendance) : List Handler :=
  a.handlers.mapIdx fun i => Handler.abort (a.registry.terminateAll.1.count i)

def handlersAfter (a : Attendance) (x : Happening) : List Handler :=
  match x with
  | .occurs .come => a.handlers ++ [{ startedAfter := a.returned.length }]
  | .occurs (.leave i) => a.handlers.modify i Handler.finish
  | x => if (a.terminated? x).isSome then a.abortAll else a.handlers

def after (a : Attendance) (x : Happening) : Attendance where
  traffic := a.trafficAfter x
  handlers := a.handlersAfter x
  returned := a.returned ++ (a.terminated? x).toList

/-- A new server and its handlers after some happenings. -/
def ofHappenings (settings : Settings) (happenings : List Happening) : Attendance :=
  happenings.foldl after { traffic := { server := { settings } } }

/-- A handler that started after the latest termination and has not ended. -/
def isPresent (a : Attendance) (h : Handler) : Bool :=
  !h.ended && h.startedAfter == a.returned.length

end Attendance

end SitePreview
