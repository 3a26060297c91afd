import SlideGraph.GameState.Document
import SlideGraph.Interpreter.Document
import SlideGraph.Main
import SlideGraph.Pointer
import SlideGraph.Proofs.Catalog.Issues
import SlideGraph.Proofs.Interpreter.Structured
import SlideGraph.Proofs.Session.Restore
import SlideGraph.Proofs.Session.Validation
import SlideGraph.Proofs.Slide.Grammar
import SlideGraph.Proofs.Slide.Document
import SlideGraph.Proofs.Pointer.Throttle
import SlideGraph.Proofs.Session.InPlace
import SlideGraph.Proofs.Session.Outcome
import SlideGraph.Proofs.Playthrough.Replay
import SlideGraph.Proofs.Session.History
import SlideGraph.Proofs.Session.Seeding
import SlideGraph.Proofs.Json.Whole
import SlideGraph.Proofs.Playthrough.Document
import SlideGraph.Proofs.Disk
import SlideGraph.Proofs.Program.Outcome
import SlideGraph.Proofs.Interpreter.Modes
import SlideGraph.Proofs.Extent
import SlideGraph.Proofs.Interpreter.Influence
import SlideGraph.Proofs.Interpreter.Straight
import SlideGraph.Proofs.Interpreter.Relabel
import SlideGraph.Proofs.Session.Strict
import SlideGraph.Proofs.Session.Toggle
import SlideGraph.Proofs.Catalog.Overlay
import SlideGraph.Proofs.Text.Bytes
import SlideGraph.Proofs.GameState.History
import SlideGraph.Proofs.Catalog.SourceOrder
import SlideGraph.Proofs.Catalog.Identity
import SlideGraph.Proofs.Source.Routes
import SlideGraph.Proofs.Document
import SlideGraph.Proofs.Playthrough.Shape
import SlideGraph.Proofs.Program.Scripts
import SlideGraph.Proofs.Playthrough.Summary
import SlideGraph.Proofs.Json.Unambiguous
import SlideGraph.Proofs.Json.IntegerToken
import SlideGraph.Proofs.Json.Reader.Gap
import SlideGraph.Proofs.Json.Reader.Integer
import SlideGraph.Proofs.IntegerFields
