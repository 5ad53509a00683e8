import ChipEight.Session

/-!
# Scripts

A script says beforehand what a user does in a session, so that a session needs nobody at the keys.
It is a text with **one line for each turn** of the main loop, and a line holds the turn's events as
words with blanks between them: `+q` presses the host key `q` and `-q` lets it go, `reset` and
`overlay` press the keys with a meaning of their own, and `quit` closes the window. The line
`interrupt` stands for a user who interrupts the program. A word that means nothing is an event that
does not matter.
-/

namespace ChipEight.Session.Script

/-- The event that a word stands for. -/
def eventOf (word : String) : Event :=
  match word with
  | "reset" => .keyDown resetKey
  | "overlay" => .keyDown overlayKey
  | "quit" => .quit
  | _ =>
    match word.toList with
    | ['+', c] => .keyDown (KeyMap.keyOf c)
    | ['-', c] => .keyUp (KeyMap.keyOf c)
    | _ => .other

/-- The words of a line. -/
def wordsOf (line : String) : List String :=
  ((splitAt ' ' line.toList).map String.ofList).filter (· != "")

/-- What a turn finds, by its line. -/
def pollOf (line : String) : Poll :=
  if line = "interrupt" then .interrupt else .events ((wordsOf line).map eventOf)

/-- What a session finds, turn by turn. -/
def pollsOf (text : String) : List Poll := (linesOf text).map pollOf

end ChipEight.Session.Script
