import SitePreview.Log.Level

namespace SitePreview

structure UnknownLevel where
  name : Text
  deriving DecidableEq, Repr

def UnknownLevel.message (u : UnknownLevel) : Text :=
  "Level '".toList ++ u.name ++ "' does not exist".toList

namespace Level

def find (name : Text) : Except UnknownLevel Level :=
  match ofName? name with
  | some level => .ok level
  | none => .error ⟨name⟩

def reaches (least level : Level) : Bool := least.weight ≤ level.weight

end Level

structure Listener where
  least : Level
  attached : Bool := true
  received : List Text := []
  deriving DecidableEq, Repr

def Listener.hear (m : Message) (l : Listener) : Listener :=
  if l.attached && m.onOutput && l.least.reaches m.level then
    { l with received := l.received ++ [m.text] }
  else l

/-- All listeners there have been, each known by its place in the order of attaching. -/
structure Channel where
  listeners : List Listener := []
  deriving DecidableEq, Repr

namespace Channel

/-- Attaches a listener for the levels from the named one up. -/
def attach (levelName : Text) (c : Channel) : Except UnknownLevel (Channel × Nat) :=
  (Level.find levelName).map fun least =>
    ({ listeners := c.listeners ++ [{ least }] }, c.listeners.length)

def isAttached (c : Channel) (id : Nat) : Bool :=
  match c.listeners[id]? with
  | some l => l.attached
  | none => false

/-- Detaches a listener; none where no such listener is attached. -/
def detach? (id : Nat) (c : Channel) : Option Channel :=
  if c.isAttached id then
    some { listeners := c.listeners.modify id fun l => { l with attached := false } }
  else none

def received (c : Channel) (id : Nat) : List Text :=
  match c.listeners[id]? with
  | some l => l.received
  | none => []

def tell (m : Message) (c : Channel) : Channel := { listeners := c.listeners.map (Listener.hear m) }

/-- Tells a message at a named level. Where nobody listens the name is not looked at. -/
def log (levelName text : Text) (onOutput : Bool) (c : Channel) : Except UnknownLevel Channel :=
  if c.listeners.any Listener.attached then
    (Level.find levelName).map fun level => c.tell { level, text, onOutput }
  else .ok c

end Channel

end SitePreview
