import Compendium.Bookmarks
import Compendium.Catalog.Basic
import Compendium.Catalog.Bundled
import Compendium.Catalog.Files
import Compendium.Decimal.Double
import Compendium.Decimal.Shortest
import Compendium.Entry.Basic
import Compendium.Entry.Record
import Compendium.Fields
import Compendium.Files.Document
import Compendium.Files.Tree
import Compendium.Filter
import Compendium.Json.Basic
import Compendium.Json.Display
import Compendium.Json.Order
import Compendium.Json.Reader
import Compendium.Json.Writer
import Compendium.Launcher.Launch
import Compendium.Launcher.Options
import Compendium.Main
import Compendium.Proofs.Assignments
import Compendium.Proofs.Bookmarks.Store
import Compendium.Proofs.Files.Writing
import Compendium.Proofs.Json.Texts
import Compendium.Proofs.Json.Written
import Compendium.Proofs.Query.Chains
import Compendium.Proofs.Search.Places
import Compendium.Proofs.Server.Dispatch
import Compendium.Proofs.Server.Exchanges
import Compendium.Proofs.Server.Frames
import Compendium.Proofs.Server.Listing
import Compendium.Proofs.Server.Toggles
import Compendium.Proofs.Session.Frames
import Compendium.Query
import Compendium.Search
import Compendium.Server.Api
import Compendium.Server.App
import Compendium.Server.Form
import Compendium.Server.Reply
import Compendium.Server.Request
import Compendium.Server.Route
import Compendium.Session.Basic
import Compendium.Session.Demo
import Compendium.Session.Store
import Compendium.Settings
import Compendium.Statblock.Basic
import Compendium.Statblock.Lines
import Compendium.Template.Basic
import Compendium.Template.Grammar
import Compendium.Template.Helper
import Compendium.Template.Lemmas
import Compendium.Template.Operation
import Compendium.Template.Own
import Compendium.Template.Reader
import Compendium.Template.Render
import Compendium.Template.Rule
import Compendium.Template.Spelling
import Compendium.Template.Tidy
import Compendium.Template.View
import Compendium.Text.Case
import Compendium.Text.CaseTable
import Compendium.Text.Class
import Compendium.Text.ClassTable
import Compendium.Text.Contains
import Compendium.Text.Decomposition
import Compendium.Text.DecompositionTable
import Compendium.Text.Hex
import Compendium.Text.Lines
import Compendium.Text.Quoted
import Compendium.Text.Ranges
import Compendium.Text.Utf8
import Compendium.Tools
import Compendium.Proofs.Session.Toggling
import Compendium.Proofs.Text.Lowering
import Compendium.Proofs.Query.Rereading
import Compendium.Proofs.Query.Joining
import Compendium.Proofs.Search.Narrowing
import Compendium.Proofs.Server.Addresses
import Compendium.Proofs.Server.Lookups
import Compendium.Proofs.Server.Failures
import Compendium.Proofs.Files.Resolving
import Compendium.Proofs.Launcher.Directories
import Compendium.Proofs.Catalog.Loading
import Compendium.Proofs.Catalog.Building
import Compendium.Proofs.Json.Objects
import Compendium.Proofs.Json.Readings
import Compendium.Proofs.Settings.Store
import Compendium.Proofs.Server.Choosing
import Compendium.Proofs.Server.Fallback
import Compendium.Proofs.Server.Effects
import Compendium.Proofs.Server.Updates
import Compendium.Proofs.Session.Interleaving
import Compendium.Proofs.Settings.Repeating
import Compendium.Proofs.Session.Loading
import Compendium.Proofs.Session.Saving
import Compendium.Proofs.Session.Sequences
import Compendium.Proofs.Session.Failing
import Compendium.Proofs.Session.Seeding
import Compendium.Proofs.Entry.Rereading
import Compendium.Proofs.Catalog.Independence
import Compendium.Proofs.Server.Rebuilding
import Compendium.Proofs.Text.Surroundings
import Compendium.Proofs.Text.Words
import Compendium.Proofs.Search.OwnValues
import Compendium.Proofs.Search.Reordering
import Compendium.Proofs.Query.Writing
import Compendium.Proofs.Search.UnknownKeys
import Compendium.Proofs.Text.AsciiCase
import Compendium.Proofs.Search.Caseless
import Compendium.Proofs.Search.Numbers
import Compendium.Proofs.Search.Categories
import Compendium.Proofs.Statblock.Contents
import Compendium.Proofs.Statblock.Templates
import Compendium.Proofs.Search.SortKeys
import Compendium.Proofs.Catalog.Keys
import Compendium.Proofs.Statblock.Abilities
import Compendium.Proofs.Json.Labels
