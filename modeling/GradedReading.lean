import GradedReading.CommandLine.Given
import GradedReading.CommandLine.Invocation
import GradedReading.CommandLine.Option
import GradedReading.CommandLine.Run
import GradedReading.Document.Basic
import GradedReading.Document.Collection
import GradedReading.Document.Readability
import GradedReading.Entries
import GradedReading.Error
import GradedReading.Files.Corpus
import GradedReading.Files.Crawl
import GradedReading.Files.Disk
import GradedReading.Files.Path
import GradedReading.Files.Sources
import GradedReading.Format.Column
import GradedReading.Format.Debug
import GradedReading.Format.Json
import GradedReading.Format.Toml.Document
import GradedReading.Format.Toml.Quoted
import GradedReading.Format.Toml.Scalar
import GradedReading.Format.Toml.Value
import GradedReading.Format.Weight
import GradedReading.Html.Builder.Basic
import GradedReading.Html.Builder.Content
import GradedReading.Html.Builder.Formatting
import GradedReading.Html.Doctype
import GradedReading.Html.Draft
import GradedReading.Html.Entity
import GradedReading.Html.EntityTable
import GradedReading.Html.Node
import GradedReading.Html.Page
import GradedReading.Html.Rules.Body
import GradedReading.Html.Rules.Foreign
import GradedReading.Html.Rules.Head
import GradedReading.Html.Rules.Select
import GradedReading.Html.Rules.Table
import GradedReading.Html.Rules.Template
import GradedReading.Html.Token
import GradedReading.Job.Basic
import GradedReading.Job.Event
import GradedReading.Keyword.Hits
import GradedReading.Keyword.Search
import GradedReading.Keyword.Set
import GradedReading.Language
import GradedReading.Level
import GradedReading.Main
import GradedReading.Number.Double
import GradedReading.Number.Duration
import GradedReading.Number.Layout
import GradedReading.Number.Reader
import GradedReading.Number.Shortest
import GradedReading.Parser.Cache
import GradedReading.Parser.Heuristic
import GradedReading.Parser.Lexicon
import GradedReading.Parser.Tags
import GradedReading.Pipeline.Basic
import GradedReading.Pipeline.Operation
import GradedReading.Pipeline.Run
import GradedReading.Pipeline.Services
import GradedReading.Pipeline.Task
import GradedReading.Pool.Basic
import GradedReading.Pool.Bench
import GradedReading.Pool.Clock
import GradedReading.Pool.Crew
import GradedReading.Pool.Gate
import GradedReading.Pool.Schedule
import GradedReading.Pool.Watchdog
import GradedReading.Ranking.Arith
import GradedReading.Ranking.Config
import GradedReading.Ranking.Order
import GradedReading.Ranking.Report
import GradedReading.Ranking.Weights
import GradedReading.Search.Cursor
import GradedReading.Search.Provider
import GradedReading.Session.Basic
import GradedReading.Session.Message
import GradedReading.Session.Run
import GradedReading.Settings.Basic
import GradedReading.Settings.File
import GradedReading.Text.Alphanumeric
import GradedReading.Text.Blank
import GradedReading.Text.CodePoints
import GradedReading.Text.Glob
import GradedReading.Text.Lowercase
import GradedReading.Text.Sentences
import GradedReading.Text.Span
import GradedReading.Text.Table.Alphanumeric
import GradedReading.Text.Table.Casing
import GradedReading.Text.Table.Lowercase
import GradedReading.Text.Table.Printable
import GradedReading.Text.Words
import GradedReading.Web.Blacklist
import GradedReading.Web.Crawler
import GradedReading.Web.Host
import GradedReading.Proofs.Job.Books
import GradedReading.Proofs.Job.Ending
import GradedReading.Proofs.Job.Slots
import GradedReading.Proofs.Pipeline.Account
import GradedReading.Proofs.Pipeline.Agenda
import GradedReading.Proofs.Pipeline.Balance
import GradedReading.Proofs.Pipeline.Body
import GradedReading.Proofs.Pipeline.Counts
import GradedReading.Proofs.Pipeline.Course
import GradedReading.Proofs.Pipeline.Order
import GradedReading.Proofs.Pipeline.Reach
import GradedReading.Proofs.Pipeline.Rest
import GradedReading.Proofs.Pipeline.Share
import GradedReading.Proofs.Pipeline.Simulation
import GradedReading.Proofs.Pipeline.Sound
import GradedReading.Proofs.Pool.Life
import GradedReading.Proofs.Search.Ranks
import GradedReading.Proofs.Pool.Diary
import GradedReading.Proofs.Pool.Crew
import GradedReading.Proofs.Pool.Door
import GradedReading.Proofs.Pipeline.Onward
import GradedReading.Proofs.Session.Exclusive
import GradedReading.Proofs.Session.Forward
import GradedReading.Proofs.Pipeline.Harvest
import GradedReading.Proofs.Session.Appended
import GradedReading.Proofs.Pipeline.Silence
import GradedReading.Proofs.Search.Stream
import GradedReading.Proofs.Search.Listing
import GradedReading.Proofs.Session.Answer
import GradedReading.Proofs.Session.Noted
import GradedReading.Proofs.Session.Refused
import GradedReading.Proofs.Session.Sought
import GradedReading.Proofs.Pipeline.Remainder
import GradedReading.Proofs.Pipeline.Drain
import GradedReading.Proofs.Search.Split
import GradedReading.Proofs.Pool.Vigil
import GradedReading.Proofs.Ranking.Sorted
import GradedReading.Proofs.Number.Whole
import GradedReading.Proofs.Ranking.Arrival
import GradedReading.Proofs.Ranking.Stricter
import GradedReading.Proofs.Document.Census
import GradedReading.Proofs.Number.Quotient
import GradedReading.Proofs.Ranking.Frequency
import GradedReading.Proofs.Ranking.Convert
import GradedReading.Proofs.Ranking.Exact
import GradedReading.Proofs.Ranking.Scale
import GradedReading.Proofs.Ranking.Checked
import GradedReading.Proofs.Ranking.Dominance
import GradedReading.Proofs.Document.Entries
import GradedReading.Proofs.Parser.Within
import GradedReading.Proofs.Parser.Stack
import GradedReading.Proofs.Parser.Apostrophe
import GradedReading.Proofs.Keyword.OwnWords
import GradedReading.Proofs.Html.Blocks
import GradedReading.Proofs.Text.MaximalRuns
import GradedReading.Proofs.Web.Address
import GradedReading.Proofs.Pool.Lost
import GradedReading.Proofs.Format.Integer
import GradedReading.Proofs.Settings.Limits
import GradedReading.Proofs.Parser.Division
import GradedReading.Proofs.Pool.Stale
