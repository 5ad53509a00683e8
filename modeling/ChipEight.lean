import ChipEight.CommandLine.Command
import ChipEight.Session.Script
import ChipEight.Main
import ChipEight.Proofs.Computer.Ranges
import ChipEight.Proofs.Instruction.Words
import ChipEight.Proofs.Memory.Block
import ChipEight.Proofs.Computer.Perform
import ChipEight.Proofs.Computer.Footprint
import ChipEight.Proofs.Computer.Stepping
import ChipEight.Proofs.Computer.History
import ChipEight.Proofs.Computer.Reached
import ChipEight.Proofs.Computer.Background
import ChipEight.Proofs.Computer.Restart
import ChipEight.Proofs.Computer.Faults
import ChipEight.Proofs.Computer.Aftermath
import ChipEight.Proofs.Computer.Subroutine
import ChipEight.Proofs.Computer.EmptyStack
import ChipEight.Proofs.Computer.KeyWait
import ChipEight.Proofs.Computer.Recurrence
import ChipEight.Proofs.Console.History
import ChipEight.Proofs.Console.Reload
import ChipEight.Proofs.Timer.Course
import ChipEight.Proofs.Timer.Rate
import ChipEight.Proofs.Timer.Repetition
import ChipEight.Proofs.Computer.Timing
import ChipEight.Proofs.Computer.Capacity
import ChipEight.Proofs.Sound.Beeping
import ChipEight.Proofs.Computer.Unrolling
import ChipEight.Proofs.Computer.Ticks
import ChipEight.Proofs.Computer.Sounding
import ChipEight.Proofs.Console.Loading
import ChipEight.Proofs.Console.Computing
import ChipEight.Proofs.Console.Silence
import ChipEight.Proofs.Computer.SinceReset
import ChipEight.Proofs.Number.Bounds
import ChipEight.Proofs.Display.Painting
import ChipEight.Proofs.Computer.Sides
import ChipEight.Proofs.Session.Unwatched
import ChipEight.Proofs.Session.Refinement
import ChipEight.Proofs.Computer.HighResolution
import ChipEight.Proofs.Computer.Randomness
import ChipEight.Proofs.Console.Addressee
import ChipEight.Proofs.Computer.Drawing
import ChipEight.Proofs.Memory.Run
import ChipEight.Proofs.Computer.Arithmetic
import ChipEight.Proofs.Computer.Successor
import ChipEight.Proofs.Computer.RegisterBlock
import ChipEight.Proofs.Computer.KeypadUse
import ChipEight.Proofs.Computer.Effects
import ChipEight.Proofs.Screen.LitPixels
import ChipEight.Proofs.Memory.LastStored
import ChipEight.Proofs.Input.KeyMap
import ChipEight.Proofs.Console.KeyEvents
import ChipEight.Proofs.Number.NearestEven
import ChipEight.Proofs.Number.Exact
import ChipEight.Proofs.Display.Tiling
import ChipEight.Proofs.CommandLine.ColorText
import ChipEight.Proofs.Text.Hex
import ChipEight.Proofs.Text.Split
import ChipEight.Proofs.Files.Writing
import ChipEight.Proofs.Computer.DumpReading
import ChipEight.Proofs.Session.Ending
import ChipEight.Proofs.CommandLine.Command
