import ChipEight.Display.Renderer
import ChipEight.Input.KeyMap

/-!
# A session

The main loop of a console in a window: sixty times a second it takes the events that have come in,
runs one frame and draws the screen. It ends when the window is closed, when the user interrupts it
or when something fails.

**A frame that fails is still drawn**: the screen is shown as the failure left it, and only then
does the session end, without waiting for the frame's time to pass. If the drawing fails as well, it
is the drawing that the session ends with.

The events are a list of polls, one for each turn. When the list is used up, the window is closed.
-/

namespace ChipEight

/-- What a turn of the main loop finds when it asks for events. -/
inductive Poll where
  | events (es : List Event)
  /-- The user interrupted the program. -/
  | interrupt
  deriving DecidableEq, Repr

/-- Something that a session does: it sends a signal or calls the host. -/
inductive Action where
  | signal (s : Signal)
  | call (c : HostCall)
  deriving DecidableEq

namespace Action

def signals (l : List Signal) : List Action := l.map signal

def calls (l : List HostCall) : List Action := l.map call

def signal? : Action → Option Signal
  | signal s => some s
  | call _ => none

def call? : Action → Option HostCall
  | signal _ => none
  | call c => some c

end Action

namespace Session

/-- How a session ends. -/
inductive Ending where
  | closed
  | interrupted
  | failed (f : Console.Failure)
  deriving DecidableEq, Repr

/-- A session, or a part of it: the console it leaves, what it did, and its ending if it has one. -/
structure Run where
  console : Console
  actions : List Action
  ending : Option Ending

/-- The rate of the main loop. -/
def frameRate : Nat := 60

/-- Handles the events of one turn. The first request to quit ends the session, and what came in
after it is not looked at. -/
def handleAll (c : Console) : List Event → Run
  | [] => ⟨c, [], none⟩
  | .quit :: _ => ⟨c, [.signal (.notice .windowClosed)], some .closed⟩
  | e :: rest =>
    let o := c.handle e
    match o.halt with
    | some f => ⟨o.state, Action.signals o.signals, some (.failed f)⟩
    | none =>
      let r := handleAll o.state rest
      { r with actions := Action.signals o.signals ++ r.actions }

/-- Draws the console and shows it, with the overlay if that is wanted. -/
def present (r : Renderer) (c : Console) : List HostCall × Option HostError :=
  let (calls, e) := r.draw c.screen
  match e with
  | some e => (calls, some e)
  | none =>
    let overlay := match c.debug, c.computer? with
      | true, some computer => r.drawText computer.overlay
      | _, _ => []
    (calls ++ overlay ++ [.flip], none)

/-- The second half of a turn: a frame is run and drawn. -/
def frame (r : Renderer) (c : Console) : Run :=
  if !c.isLoaded then
    match r.clear with
    | (ground, some e) => ⟨c, Action.calls ground, some (.failed (.halted (.host e)))⟩
    | (ground, none) => ⟨c, Action.calls (ground ++ [.flip, .pace frameRate]), none⟩
  else
    let o := c.runFrame
    let (calls, e) := present r o.state
    let actions := Action.signals o.signals ++ Action.calls calls
    match e, o.halt with
    | some e, _ => ⟨o.state, actions, some (.failed (.halted (.host e)))⟩
    | none, some f => ⟨o.state, actions, some (.failed f)⟩
    | none, none => ⟨o.state, actions ++ [.call (.pace frameRate)], none⟩

/-- One turn of the main loop. The clock is moved by `frameTime` when events are taken. -/
def turn (r : Renderer) (frameTime : Int) (c : Console) : Poll → Run
  | .interrupt => ⟨c, [], some .interrupted⟩
  | .events es =>
    let handled := handleAll (c.advance frameTime) es
    match handled.ending with
    | some _ => handled
    | none =>
      let drawn := frame r handled.console
      { drawn with actions := handled.actions ++ drawn.actions }

/-- A session over a list of polls. -/
def turns (r : Renderer) (frameTime : Int) : List Poll → Console → Run
  | [], c => turn r frameTime c (.events [.quit])
  | poll :: rest, c =>
    let first := turn r frameTime c poll
    match first.ending with
    | some _ => first
    | none =>
      let later := turns r frameTime rest first.console
      { later with actions := first.actions ++ later.actions }

/-- The font of the overlay. -/
def overlayFont : HostCall := .loadFont "monospace" 14

/-- A whole session. -/
def run (r : Renderer) (frameTime : Int) (polls : List Poll) (c : Console) : Run :=
  let loop := turns r frameTime polls c
  { loop with actions := Action.calls [.startFonts, overlayFont] ++ loop.actions }

end Session

end ChipEight
