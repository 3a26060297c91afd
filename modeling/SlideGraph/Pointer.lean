import SlideGraph.Config
import SlideGraph.Time

/-!
# Pointer events

Buttons go straight through. Moves are held back, so that at most one goes out in a window of
time, and it has the latest position. The window begins with the first move that is held back.
-/

namespace SlideGraph

open Json

/-- What a pointer does. -/
inductive PointerEvent
  | buttonDown (button : UInt8)
  | buttonUp (button : UInt8)
  | move (x y : Int32)
deriving DecidableEq, Repr

namespace PointerEvent

/-! ### Documents -/

/-- The kinds of pointer events. -/
inductive Kind
  | buttonDown
  | buttonUp
  | move
deriving DecidableEq, Repr

def Kind.ofName? : String → Option Kind
  | "button_down" => some buttonDown
  | "button_up" => some buttonUp
  | "move" => some move
  | _ => none

def toValue : PointerEvent → Value
  | .buttonDown b => .object [("type", .string "button_down"), ("button", .nat b.toNat)]
  | .buttonUp b => .object [("type", .string "button_up"), ("button", .nat b.toNat)]
  | .move x y => .object [("type", .string "move"), ("x", .int x.toInt), ("y", .int y.toInt)]

def button? (p : Payload) : Option UInt8 :=
  if p.fits ["button"] then
    p.required 0 "button" fun v => (v.intBetween? 0 255).map fun i => UInt8.ofNat i.toNat
  else none

def coordinate? (v : Value) : Option Int32 :=
  (v.intBetween? (-2147483648) 2147483647).map Int32.ofInt

def ofPayload? : Kind → Payload → Option PointerEvent
  | .buttonDown, p => (button? p).map .buttonDown
  | .buttonUp, p => (button? p).map .buttonUp
  | .move, p =>
    if p.fits ["x", "y"] then do
      let x ← p.required 0 "x" coordinate?
      let y ← p.required 1 "y" coordinate?
      some (.move x y)
    else none

def reader : Reader PointerEvent :=
  (Reader.tagged "type" Kind.ofName? (Reader.maxDepth - 1)).check fun (k, p) => ofPayload? k p

def ofText (s : String) : Except Fault PointerEvent := reader.document s.toList

end PointerEvent

/-! ### Holding moves back -/

/-- Lets at most one move out in a window of time. -/
structure MoveThrottle where
  delay : Duration
  /-- When the window began: with the first move that is held back. -/
  windowStart : Option Instant := none
  /-- The latest position that is held back. -/
  latest : Option (Int32 × Int32) := none
deriving DecidableEq, Repr

namespace MoveThrottle

/-- A throttle with the delay of the settings. -/
def ofConfig (c : Config) : MoveThrottle := { delay := c.delay }

/-- Change the delay, also for a move that is held back. -/
def setDelay (t : MoveThrottle) (delay : Duration) : MoveThrottle := { t with delay }

/-- Give an event to the throttle. What comes back goes out at once. -/
def push (t : MoveThrottle) (e : PointerEvent) (now : Instant) :
    Option PointerEvent × MoveThrottle :=
  match e with
  | .move x y => (none, { t with
      windowStart := some (t.windowStart.getD now)
      latest := some (x, y) })
  | e => (some e, t)

/-- Let the held move out if its window is over. -/
def poll (t : MoveThrottle) (now : Instant) : Option PointerEvent × MoveThrottle :=
  match t.windowStart with
  | none => (none, t)
  | some start =>
    if (now.since start).nanoseconds < t.delay.nanoseconds then (none, t)
    else (t.latest.map fun (x, y) => .move x y, { t with windowStart := none, latest := none })

/-- When the held move is due, unless that is behind the last point of time. -/
def deadline (t : MoveThrottle) : Except Overflow (Option Instant) :=
  match t.windowStart with
  | none => .ok none
  | some start => (start.after t.delay).map some

end MoveThrottle

end SlideGraph
