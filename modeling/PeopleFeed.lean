import PeopleFeed.Command.Arguments
import PeopleFeed.Command.Footprint
import PeopleFeed.Command.Invocation
import PeopleFeed.Command.Listing
import PeopleFeed.Command.Platform
import PeopleFeed.Command.Related
import PeopleFeed.Command.Run
import PeopleFeed.Command.Seeding
import PeopleFeed.Command.Surroundings
import PeopleFeed.Decimal.Double
import PeopleFeed.Decimal.Fixed
import PeopleFeed.Decimal.Shortest
import PeopleFeed.Directory.Address
import PeopleFeed.Directory.Archive
import PeopleFeed.Directory.Loading
import PeopleFeed.Directory.Location
import PeopleFeed.Directory.Resource
import PeopleFeed.Directory.Services
import PeopleFeed.Directory.Stored
import PeopleFeed.Directory.Tables
import PeopleFeed.Disk.Connection
import PeopleFeed.Disk.Engine
import PeopleFeed.Disk.Files
import PeopleFeed.Disk.Place
import PeopleFeed.Disk.Tree
import PeopleFeed.Environment.Assignments
import PeopleFeed.Environment.Expansion
import PeopleFeed.Environment.Variables
import PeopleFeed.Fault
import PeopleFeed.Feed.Assembly
import PeopleFeed.Feed.Collaborators
import PeopleFeed.Feed.Count
import PeopleFeed.Feed.Event
import PeopleFeed.Feed.Ledger
import PeopleFeed.Feed.Machine
import PeopleFeed.Feed.Metrics
import PeopleFeed.Feed.Policy
import PeopleFeed.Feed.Record
import PeopleFeed.Feed.Session
import PeopleFeed.Feed.Writer
import PeopleFeed.Json.Codec
import PeopleFeed.Json.File
import PeopleFeed.Json.Integral
import PeopleFeed.Json.Literal
import PeopleFeed.Json.Parser
import PeopleFeed.Json.Printer
import PeopleFeed.Json.Value
import PeopleFeed.Log.Calendar
import PeopleFeed.Log.Journal
import PeopleFeed.Log.LevelName
import PeopleFeed.Log.Note
import PeopleFeed.Log.Shared
import PeopleFeed.Main
import PeopleFeed.Proofs.Feed.Run
import PeopleFeed.Proofs.Feed.Transition
import PeopleFeed.Rehearsal.Cast
import PeopleFeed.Search.Candidate
import PeopleFeed.Search.Document
import PeopleFeed.Search.Paging
import PeopleFeed.Search.ResultsFile
import PeopleFeed.Search.Source
import PeopleFeed.Seed.Entry
import PeopleFeed.Seed.Validation
import PeopleFeed.Settings
import PeopleFeed.Shuffle.Basic
import PeopleFeed.Shuffle.MersenneTwister
import PeopleFeed.Shuffle.Seeded
import PeopleFeed.Text.Blank
import PeopleFeed.Text.CaseRun
import PeopleFeed.Text.DecimalDigit
import PeopleFeed.Text.DecimalNumeral
import PeopleFeed.Text.Hexadecimal
import PeopleFeed.Text.Integer
import PeopleFeed.Text.LowerCase
import PeopleFeed.Text.Newline
import PeopleFeed.Text.PathForm
import PeopleFeed.Text.PercentEscape
import PeopleFeed.Text.Printable
import PeopleFeed.Text.Quoted
import PeopleFeed.Text.Standins
import PeopleFeed.Text.UpperCase
import PeopleFeed.Text.Utf8
import PeopleFeed.Proofs.Feed.Safety
import PeopleFeed.Proofs.Feed.World
import PeopleFeed.Proofs.Feed.QuotaPrefix
import PeopleFeed.Proofs.Feed.CalmRun
import PeopleFeed.Proofs.Feed.Denial
import PeopleFeed.Proofs.Feed.Beside
import PeopleFeed.Proofs.Directory.Visibility
import PeopleFeed.Proofs.Directory.Privacy
import PeopleFeed.Proofs.Feed.Pooling
import PeopleFeed.Proofs.Shuffle.Oblivious
import PeopleFeed.Proofs.Feed.Relisting
import PeopleFeed.Proofs.Feed.Fullness
import PeopleFeed.Proofs.Feed.ListingOrder
import PeopleFeed.Proofs.Feed.Conversation
import PeopleFeed.Proofs.Feed.Boundary
import PeopleFeed.Proofs.Feed.Passage
import PeopleFeed.Proofs.Feed.Accounts
import PeopleFeed.Proofs.Search.Paging
import PeopleFeed.Proofs.Json.Reading
import PeopleFeed.Proofs.Search.Faults
import PeopleFeed.Proofs.Directory.Answers
import PeopleFeed.Proofs.Directory.Loaded
import PeopleFeed.Proofs.Command.Printing
import PeopleFeed.Proofs.Search.Demand
import PeopleFeed.Proofs.Directory.Profiles
import PeopleFeed.Proofs.Feed.StreamEnd
import PeopleFeed.Proofs.Disk.Opening
import PeopleFeed.Proofs.Command.Stages
import PeopleFeed.Proofs.Directory.Surprises
import PeopleFeed.Proofs.Command.Escapes
import PeopleFeed.Proofs.Search.Draining
import PeopleFeed.Proofs.Directory.Reloading
import PeopleFeed.Proofs.Directory.Transaction
import PeopleFeed.Proofs.Command.TrialRun
import PeopleFeed.Proofs.Seed.Grammar
import PeopleFeed.Proofs.Search.Candidates
import PeopleFeed.Proofs.Feed.Lines
import PeopleFeed.Proofs.Feed.Rendering
