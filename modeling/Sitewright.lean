import Sitewright.Build.Entry
import Sitewright.Build.Notice
import Sitewright.Build.Options
import Sitewright.Build.Output
import Sitewright.Build.Plan
import Sitewright.Build.Project
import Sitewright.Build.Repertoire
import Sitewright.Build.Skeleton
import Sitewright.Build.Sources
import Sitewright.Codec.Basic
import Sitewright.Codec.Error
import Sitewright.Codec.Outline
import Sitewright.Codec.Record
import Sitewright.Codec.Schema
import Sitewright.Command.Arguments
import Sitewright.Command.Basic
import Sitewright.Command.Run
import Sitewright.Diff
import Sitewright.Edit.Classification
import Sitewright.Edit.Keywords
import Sitewright.Edit.Logo
import Sitewright.Edit.Router
import Sitewright.Edit.Scope
import Sitewright.Edit.Words
import Sitewright.Entries
import Sitewright.FieldPath
import Sitewright.FileTree.Basic
import Sitewright.FileTree.Path
import Sitewright.FileTree.System
import Sitewright.Fingerprint.Basic
import Sitewright.Fingerprint.Blake3
import Sitewright.Image.Cache
import Sitewright.Image.Ledger
import Sitewright.Image.Resolution
import Sitewright.Image.Token
import Sitewright.Json.Basic
import Sitewright.Json.Document
import Sitewright.Json.Numeral
import Sitewright.Json.Pointer
import Sitewright.Json.Printer
import Sitewright.Json.Reader
import Sitewright.Main
import Sitewright.Markup.Basic
import Sitewright.Markup.Escape
import Sitewright.Naming.Case
import Sitewright.Naming.Owner
import Sitewright.Naming.Route
import Sitewright.Naming.Slot
import Sitewright.Number.Binary64
import Sitewright.Proofs.Build.Anchors
import Sitewright.Proofs.Build.Bindings
import Sitewright.Proofs.Build.Claims
import Sitewright.Proofs.Build.Collisions
import Sitewright.Proofs.Build.Continuing
import Sitewright.Proofs.Build.Costs
import Sitewright.Proofs.Build.Files
import Sitewright.Proofs.Build.Imports
import Sitewright.Proofs.Build.Mute
import Sitewright.Proofs.Build.Notices
import Sitewright.Proofs.Build.Output
import Sitewright.Proofs.Build.Provenance
import Sitewright.Proofs.Build.Recompiling
import Sitewright.Proofs.Build.Restyling
import Sitewright.Proofs.Build.Sheets
import Sitewright.Proofs.Build.Statements
import Sitewright.Proofs.Build.Tree
import Sitewright.Proofs.Build.Writing
import Sitewright.Proofs.Codec.Laws
import Sitewright.Proofs.Codec.Record
import Sitewright.Proofs.Codec.Slots
import Sitewright.Proofs.Diff.Agreement
import Sitewright.Proofs.Diff.Composing
import Sitewright.Proofs.Diff.Nodes
import Sitewright.Proofs.Diff.Replay
import Sitewright.Proofs.Diff.Reporting
import Sitewright.Proofs.Edit.Clipped
import Sitewright.Proofs.Edit.Clipping
import Sitewright.Proofs.Edit.Kinds
import Sitewright.Proofs.Edit.Logos
import Sitewright.Proofs.Edit.Outcomes
import Sitewright.Proofs.Edit.Phrases
import Sitewright.Proofs.Edit.Reach
import Sitewright.Proofs.Edit.Routing
import Sitewright.Proofs.Edit.Scope
import Sitewright.Proofs.Edit.Targets
import Sitewright.Proofs.Edit.Verdicts
import Sitewright.Proofs.FileTree.Components
import Sitewright.Proofs.FileTree.Effects
import Sitewright.Proofs.FileTree.Paths
import Sitewright.Proofs.FileTree.Steps
import Sitewright.Proofs.Fingerprint.Frames
import Sitewright.Proofs.Image.Accounting
import Sitewright.Proofs.Image.Addresses
import Sitewright.Proofs.Image.Copy
import Sitewright.Proofs.Image.Descriptions
import Sitewright.Proofs.Image.Harvest
import Sitewright.Proofs.Image.Ledgers
import Sitewright.Proofs.Image.Pictures
import Sitewright.Proofs.Image.Resolving
import Sitewright.Proofs.Image.Substitution
import Sitewright.Proofs.Image.Tags
import Sitewright.Proofs.Image.Tokens
import Sitewright.Proofs.Json.Blend
import Sitewright.Proofs.Json.Dotted
import Sitewright.Proofs.Json.Places
import Sitewright.Proofs.Json.Pointers
import Sitewright.Proofs.Json.Sorted
import Sitewright.Proofs.Markup.Clean
import Sitewright.Proofs.Markup.Entities
import Sitewright.Proofs.Markup.Jsx
import Sitewright.Proofs.Markup.Links
import Sitewright.Proofs.Markup.Literals
import Sitewright.Proofs.Markup.Reading
import Sitewright.Proofs.Markup.Subjects
import Sitewright.Proofs.Naming.Identifiers
import Sitewright.Proofs.Naming.Names
import Sitewright.Proofs.Naming.Numbering
import Sitewright.Proofs.Naming.Routes
import Sitewright.Proofs.Naming.Slots
import Sitewright.Proofs.Render.Action
import Sitewright.Proofs.Render.Chrome
import Sitewright.Proofs.Render.Draft
import Sitewright.Proofs.Render.Offers
import Sitewright.Proofs.Render.People
import Sitewright.Proofs.Render.Section
import Sitewright.Proofs.Render.Story
import Sitewright.Proofs.Render.Subjects
import Sitewright.Proofs.Render.WellFormed
import Sitewright.Proofs.Repeats
import Sitewright.Proofs.Site.Config
import Sitewright.Proofs.Site.Entries
import Sitewright.Proofs.Site.Sections
import Sitewright.Proofs.Studio.Sessions
import Sitewright.Proofs.Studio.Validation
import Sitewright.Proofs.Text.Numerals
import Sitewright.Proofs.Text.Pieces
import Sitewright.Proofs.Text.Plain
import Sitewright.Proofs.Text.Replacing
import Sitewright.Proofs.Text.Tidy
import Sitewright.Proofs.Text.Words
import Sitewright.Render.Action
import Sitewright.Render.Chrome
import Sitewright.Render.Draft
import Sitewright.Render.Offers
import Sitewright.Render.People
import Sitewright.Render.Section
import Sitewright.Render.Story
import Sitewright.Settings
import Sitewright.Site.Config
import Sitewright.Site.Links
import Sitewright.Site.Samples
import Sitewright.Site.Section
import Sitewright.Site.Section.Action
import Sitewright.Site.Section.Custom
import Sitewright.Site.Section.Offers
import Sitewright.Site.Section.People
import Sitewright.Site.Section.Story
import Sitewright.Site.StyleMemo
import Sitewright.Site.Styles
import Sitewright.Site.Theme
import Sitewright.Site.Vocabulary
import Sitewright.SourceFile
import Sitewright.Studio.Rehearsal
import Sitewright.Studio.Session
import Sitewright.Studio.Validator
import Sitewright.Text.Class
import Sitewright.Text.Lines
import Sitewright.Text.Lower
import Sitewright.Text.Quoted
import Sitewright.Text.Ranges
import Sitewright.Text.Words
import Sitewright.Toml.Reader
import Sitewright.Toml.Scalar
import Sitewright.Toml.Table
import Sitewright.Yaml.Cursor
import Sitewright.Yaml.Directive
import Sitewright.Yaml.Node
import Sitewright.Yaml.Reader
import Sitewright.Yaml.Scalar
import Sitewright.Yaml.Spelling
import Sitewright.Yaml.Tag
import Sitewright.Yaml.Token
