import Plotline.Main
import Plotline.Marker.Position
import Plotline.Settings.ConsoleSetup
import Plotline.Stage.Basic
import Plotline.Proofs.Marker.Scan
import Plotline.Proofs.Roster
import Plotline.Proofs.Script.Outline
import Plotline.Proofs.Text.Lines
import Plotline.Proofs.Script.Chapters
import Plotline.Proofs.Script.Draft
import Plotline.Proofs.Script.Feed
import Plotline.Proofs.Script.Parse
import Plotline.Proofs.Story.Follow
import Plotline.Proofs.Story.Choice
import Plotline.Proofs.Tree.FromScript
import Plotline.Proofs.Story.Checked
import Plotline.Proofs.Text.Padded
import Plotline.Proofs.Marker.Spaces
import Plotline.Proofs.Tree.Links
import Plotline.Proofs.Tree.Spaces
import Plotline.Proofs.Script.Spaces
import Plotline.Proofs.Marker.Position
import Plotline.Proofs.Marker.Grammar
import Plotline.Proofs.Script.Writer
import Plotline.Proofs.Story.Walk
import Plotline.Proofs.Script.RoundTrip
import Plotline.Proofs.Script.Coherence
import Plotline.Proofs.Number.Numeral
import Plotline.Proofs.Story.Prompt
import Plotline.Proofs.Story.Turn
import Plotline.Proofs.Story.Legal
import Plotline.Proofs.Story.Idle
import Plotline.Proofs.Story.Hiding
import Plotline.Proofs.Story.Stopping
import Plotline.Proofs.Marker.Inert
import Plotline.Proofs.Script.Messages
import Plotline.Proofs.Script.Recovery
import Plotline.Proofs.Story.Ledger
import Plotline.Proofs.Levels.Basic
import Plotline.Proofs.Levels.Script
import Plotline.Proofs.Levels.Story
import Plotline.Proofs.Levels.Stage
import Plotline.Proofs.Story.Lookup
import Plotline.Proofs.Story.Dangling
import Plotline.Proofs.Script.Joining
import Plotline.Proofs.Script.Causes
import Plotline.Proofs.Story.Loading
import Plotline.Proofs.Script.Notices
import Plotline.Proofs.Script.Layout
import Plotline.Proofs.Text.FileLines
import Plotline.Proofs.Text.Utf8
import Plotline.Proofs.Program.Summaries
import Plotline.Proofs.Script.Files
import Plotline.Proofs.Story.Numbers
import Plotline.Proofs.Marker.Pieces
import Plotline.Proofs.Script.Positions
import Plotline.Proofs.Story.Page
import Plotline.Console.Desk
import Plotline.Proofs.Script.Checkpoint
import Plotline.Proofs.Settings.Paths
import Plotline.Tree.Deeds
import Plotline.Proofs.Roster.Firsts
import Plotline.Proofs.Console
import Plotline.Proofs.Tree.Deeds
import Plotline.Proofs.Tree.Offers
