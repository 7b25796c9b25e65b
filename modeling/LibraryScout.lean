import LibraryScout.Main
import LibraryScout.Proofs.Assembly.Registration
import LibraryScout.Proofs.Assembly.Sequence
import LibraryScout.Proofs.Backend.Bodies
import LibraryScout.Proofs.Backend.Identity
import LibraryScout.Proofs.Backend.Intents
import LibraryScout.Proofs.Backend.Refusal
import LibraryScout.Proofs.Backend.Snippets
import LibraryScout.Proofs.Backend.WireTypes
import LibraryScout.Proofs.Imports.Lines
import LibraryScout.Proofs.Imports.Neighbours
import LibraryScout.Proofs.Manifest.Comments
import LibraryScout.Proofs.Manifest.Package
import LibraryScout.Proofs.Program.Choice
import LibraryScout.Proofs.Program.Handlers
import LibraryScout.Proofs.Program.Options
import LibraryScout.Proofs.Program.Suggest
import LibraryScout.Proofs.Report.Suggestions
import LibraryScout.Proofs.Scan.Agreement
import LibraryScout.Proofs.Scan.Influence
import LibraryScout.Proofs.Scan.Limits
import LibraryScout.Proofs.Settings.Changes
import LibraryScout.Proofs.Settings.Identity
import LibraryScout.Proofs.Source.Context
import LibraryScout.Proofs.Source.Identifiers
import LibraryScout.Proofs.Source.LineEnds
import LibraryScout.Proofs.Source.Suffix
import LibraryScout.Proofs.Text.Anywhere
