import DiagramMarkup.Form.Layout
import DiagramMarkup.Json.Reader
import DiagramMarkup.Main
import DiagramMarkup.Proofs.Drawing.Agreement
import DiagramMarkup.Proofs.Notes.Targets
import DiagramMarkup.Proofs.Skipping.Readers
import DiagramMarkup.Proofs.Skipping.Strict
import DiagramMarkup.Proofs.Activity.Names
import DiagramMarkup.Proofs.Notes.Names
import DiagramMarkup.Proofs.Notes.Renaming
import DiagramMarkup.Proofs.Text.Preference
import DiagramMarkup.Proofs.Drawing.Keys
import DiagramMarkup.Proofs.Drawing.Columns
import DiagramMarkup.Proofs.Drawing.Lifelines
import DiagramMarkup.Proofs.Drawing.CellReferences
import DiagramMarkup.Proofs.Activity.Reachability
import DiagramMarkup.Proofs.Json.Diagrams
import DiagramMarkup.Proofs.Drawing.WellFormed
import DiagramMarkup.Proofs.Activity.Context
import DiagramMarkup.Proofs.Activity.Placement
import DiagramMarkup.Proofs.References.Forest
import DiagramMarkup.Proofs.References.Outline
import DiagramMarkup.Proofs.References.Sides
import DiagramMarkup.Proofs.Cleaning.Reruns
import DiagramMarkup.Proofs.Cleaning.LineComments
import DiagramMarkup.Proofs.Bodies.Reading
import DiagramMarkup.Proofs.Text.Words
import DiagramMarkup.Proofs.Phrase.Aliases
import DiagramMarkup.Proofs.Phrase.Arrows
import DiagramMarkup.Proofs.Messages
import DiagramMarkup.Proofs.References.Labels
import DiagramMarkup.Proofs.References.Inheritance
import DiagramMarkup.Proofs.Notes.Anchors
import DiagramMarkup.Proofs.Bodies.Columns
import DiagramMarkup.Proofs.Activity.Contract
import DiagramMarkup.Proofs.Cleaning.Spacing
import DiagramMarkup.Proofs.Layout.Rows
import DiagramMarkup.Proofs.Layout.Boundaries
import DiagramMarkup.Proofs.Layout.Downwards
import DiagramMarkup.Proofs.Layout.Partitions
import DiagramMarkup.Proofs.Drawing.Compartments
import DiagramMarkup.Proofs.Layout.Margins
import DiagramMarkup.Proofs.Layout.Bands
import DiagramMarkup.Proofs.Layout.Stacks
import DiagramMarkup.Proofs.Geometry.Clipping
import DiagramMarkup.Proofs.Progress
