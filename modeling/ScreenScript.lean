import ScreenScript.Main
import ScreenScript.Proofs.Engine.Ceiling
import ScreenScript.Proofs.Engine.Compilation
import ScreenScript.Proofs.Engine.Interrupts
import ScreenScript.Proofs.Engine.Isolation
import ScreenScript.Proofs.Engine.Locations
import ScreenScript.Proofs.Node.Descriptors
import ScreenScript.Proofs.Node.Routes
import ScreenScript.Proofs.Client.Detachment
import ScreenScript.Proofs.Client.Handles
import ScreenScript.Proofs.Script.Storage
import ScreenScript.Proofs.Client.Requests
import ScreenScript.Proofs.Host.Stillness
import ScreenScript.Proofs.Engine.Wires
import ScreenScript.Proofs.Host.Lockstep
import ScreenScript.Proofs.Script.Moves
import ScreenScript.Proofs.Script.Pace
import ScreenScript.Proofs.Script.Lockstep
import ScreenScript.Proofs.Script.Simulation
import ScreenScript.Proofs.Engine.Functions
import ScreenScript.Proofs.Script.Knowledge
import ScreenScript.Proofs.Script.Joining
import ScreenScript.Proofs.Engine.Pieces
import ScreenScript.Proofs.Pattern.Recency
import ScreenScript.Proofs.Selector.Matching
import ScreenScript.Proofs.Node.Answers
import ScreenScript.Proofs.Node.Embedded
import ScreenScript.Proofs.Node.Presentation
import ScreenScript.Proofs.Script.Gestures
import ScreenScript.Proofs.Script.Plans
import ScreenScript.Proofs.Engine.Mapping
import ScreenScript.Proofs.Engine.Reentry
import ScreenScript.Proofs.Script.Raising
import ScreenScript.Proofs.Engine.Unwrapping
import ScreenScript.Proofs.Console.Retention
import ScreenScript.Proofs.Host.Replay
import ScreenScript.Proofs.Number.Clamping
import ScreenScript.Proofs.Node.Taps
import ScreenScript.Proofs.Node.Keys
import ScreenScript.Proofs.Number.Numerals
import ScreenScript.Proofs.Host.Integers
import ScreenScript.Proofs.Host.Fixtures
import ScreenScript.Proofs.Node.Navigation
import ScreenScript.Proofs.Script.Searching
import ScreenScript.Proofs.Text.Carets
import ScreenScript.Proofs.Config.Overrides
