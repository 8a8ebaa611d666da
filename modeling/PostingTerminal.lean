import PostingTerminal.Text.Blank
import PostingTerminal.Text.Alphanumeric
import PostingTerminal.Text.Casing
import PostingTerminal.Text.Printable
import PostingTerminal.Text.Lowercase
import PostingTerminal.Text.Lines
import PostingTerminal.Text.Search
import PostingTerminal.Decimal.Reading
import PostingTerminal.Decimal.Shortest
import PostingTerminal.Json.Value
import PostingTerminal.Json.Printer
import PostingTerminal.Json.Fault
import PostingTerminal.Json.Scanner
import PostingTerminal.Json.Skip
import PostingTerminal.Json.Decoder
import PostingTerminal.Draft.Status
import PostingTerminal.Error
import PostingTerminal.CommandLine.Words
import PostingTerminal.CommandLine.Tokens
import PostingTerminal.CommandLine.Param
import PostingTerminal.CommandLine.Registry
import PostingTerminal.Draft.Basic
import PostingTerminal.Draft.Format
import PostingTerminal.Draft.Id
import PostingTerminal.Store.Directory
import PostingTerminal.Store.Drafts
import PostingTerminal.Store.Transcript
import PostingTerminal.Store.Knowledge
import PostingTerminal.Store.Cooldown
import PostingTerminal.Platform.DryRun
import PostingTerminal.Toml.Lexeme
import PostingTerminal.Toml.Document
import PostingTerminal.Settings
import PostingTerminal.Response
import PostingTerminal.Llm.Client
import PostingTerminal.Llm.Thread
import PostingTerminal.Platform.Script
import PostingTerminal.Session.Basic
import PostingTerminal.Session.Calls
import PostingTerminal.Publication
import PostingTerminal.Terminal.Action
import PostingTerminal.Terminal.Executor
import PostingTerminal.Terminal.Dialogue
import PostingTerminal.Session.Places
import PostingTerminal.Terminal.Builtin
import PostingTerminal.Program.Arguments
import PostingTerminal.Program.Basic
import PostingTerminal.Main
import PostingTerminal.Proofs.Json.Reading
import PostingTerminal.Proofs.Json.Grammar
import PostingTerminal.Proofs.Json.Objects
import PostingTerminal.Proofs.Json.Layout
import PostingTerminal.Proofs.Json.Outline
import PostingTerminal.Proofs.Json.Range
import PostingTerminal.Proofs.Json.Problems
import PostingTerminal.Proofs.Draft.Codec
import PostingTerminal.Proofs.Draft.Texts
import PostingTerminal.Proofs.Store.Files
import PostingTerminal.Proofs.Store.Records
import PostingTerminal.Proofs.Session.Calls
import PostingTerminal.Proofs.Attempt.Steps
import PostingTerminal.Proofs.Attempt.Course
import PostingTerminal.Proofs.Attempt.ReplyChain
import PostingTerminal.Proofs.Attempt.Record
import PostingTerminal.Proofs.Attempt.TerminalWrite
import PostingTerminal.Proofs.Attempt.StoredIds
import PostingTerminal.Proofs.Draft.Changes
import PostingTerminal.Proofs.Store.Requests
import PostingTerminal.Proofs.Store.Mirror
import PostingTerminal.Proofs.Store.Rewriting
import PostingTerminal.Proofs.Store.InPlace
import PostingTerminal.Proofs.Store.Confined
import PostingTerminal.Proofs.Store.Lifecycle
import PostingTerminal.Proofs.CommandLine.Rules
import PostingTerminal.Proofs.CommandLine.Unguard
import PostingTerminal.Proofs.CommandLine.Dollars
import PostingTerminal.Proofs.CommandLine.Comments
import PostingTerminal.Proofs.CommandLine.Plain
import PostingTerminal.Proofs.CommandLine.Quoting
import PostingTerminal.Proofs.CommandLine.Registration
import PostingTerminal.Proofs.CommandLine.Binding
import PostingTerminal.Proofs.CommandLine.Blank
import PostingTerminal.Proofs.Terminal.Dispatch
import PostingTerminal.Proofs.Terminal.NoCommand
import PostingTerminal.Proofs.Terminal.Wording
import PostingTerminal.Proofs.Terminal.Failures
import PostingTerminal.Proofs.Terminal.Context
import PostingTerminal.Proofs.Terminal.Batch
import PostingTerminal.Proofs.Terminal.Dialogue
import PostingTerminal.Proofs.Attempt.InMemory
import PostingTerminal.Proofs.Draft.FreshIds
import PostingTerminal.Proofs.Draft.Life
import PostingTerminal.Proofs.Terminal.Settled
import PostingTerminal.Proofs.Terminal.Storage
import PostingTerminal.Proofs.Text.Lines
import PostingTerminal.Proofs.Text.InputLines
import PostingTerminal.Proofs.Text.Breaks
import PostingTerminal.Proofs.Text.Runs
import PostingTerminal.Proofs.Text.Lowercase
import PostingTerminal.Proofs.Store.EntryLines
import PostingTerminal.Proofs.Store.TranscriptRuns
import PostingTerminal.Proofs.Store.TornLine
import PostingTerminal.Proofs.Session.Keeps
import PostingTerminal.Proofs.Session.Twins
import PostingTerminal.Proofs.Attempt.Keeps
import PostingTerminal.Proofs.Platform.DryRun
import PostingTerminal.Proofs.Attempt.DryRun
import PostingTerminal.Proofs.Attempt.Series
import PostingTerminal.Proofs.Attempt.Asking
import PostingTerminal.Proofs.Terminal.Throttle
import PostingTerminal.Proofs.Terminal.Untouched
import PostingTerminal.Proofs.Json.Spelling
import PostingTerminal.Proofs.Terminal.Requests
import PostingTerminal.Proofs.Store.Granted
import PostingTerminal.Proofs.Store.Refused
import PostingTerminal.Proofs.Store.Interleaving
import PostingTerminal.Proofs.Session.Limit
import PostingTerminal.Proofs.Attempt.Timeout
import PostingTerminal.Proofs.Llm.Replies
import PostingTerminal.Proofs.Llm.Threads
import PostingTerminal.Proofs.Llm.Generation
import PostingTerminal.Proofs.Keyed
import PostingTerminal.Proofs.Store.Cooldown
import PostingTerminal.Proofs.Platform.Idempotence
import PostingTerminal.Proofs.Store.Relevance
import PostingTerminal.Proofs.Store.Recall
