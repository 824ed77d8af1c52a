import SynthDesk.Main
import SynthDesk.Proofs.CommandLine.Composition
import SynthDesk.Proofs.Console.Progress
import SynthDesk.Proofs.Engine.Fidelity
import SynthDesk.Proofs.Engine.Garbling
import SynthDesk.Proofs.Engine.Independence
import SynthDesk.Proofs.Engine.Interleaving
import SynthDesk.Proofs.Engine.Silence
import SynthDesk.Proofs.Interview.Dialogue
import SynthDesk.Proofs.Log.Replacement
import SynthDesk.Proofs.Options.Display
import SynthDesk.Proofs.Options.Views
import SynthDesk.Proofs.Program.Secrecy
import SynthDesk.Proofs.Program.Starting
import SynthDesk.Proofs.Session.Draining
import SynthDesk.Proofs.Settings.Answers
import SynthDesk.Proofs.Settings.Overnesting
import SynthDesk.Proofs.Settings.Saving
import SynthDesk.Proofs.Settings.Shape
