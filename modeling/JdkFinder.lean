import JdkFinder.Cancellation.Token
import JdkFinder.Cancellation.Wakeup
import JdkFinder.Cancellation.Polling
import JdkFinder.Configuration.Record
import JdkFinder.Main
import JdkFinder.Session.Schedule
import JdkFinder.Session.Script
import JdkFinder.Proofs.Session.Attempt
import JdkFinder.Proofs.Session.Poll
import JdkFinder.Proofs.Session.Answer
import JdkFinder.Proofs.Session.History
import JdkFinder.Proofs.Session.Memoization
import JdkFinder.Proofs.Session.Cancellation
import JdkFinder.Proofs.Session.Refinement
import JdkFinder.Proofs.Matching.Selection
import JdkFinder.Proofs.Matching.Listing
import JdkFinder.Proofs.Session.Listing
import JdkFinder.Proofs.Session.Laziness
import JdkFinder.Proofs.Text.Decimal
import JdkFinder.Proofs.Version.RoundTrip
import JdkFinder.Proofs.Matching.VersionText
import JdkFinder.Proofs.Toml.Strings
import JdkFinder.Proofs.Toml.Values
import JdkFinder.Proofs.Configuration.RoundTrip
import JdkFinder.Proofs.Files.Changes
import JdkFinder.Proofs.Configuration.Storage
import JdkFinder.Proofs.Execution.Homes
import JdkFinder.Proofs.Execution.Row
import JdkFinder.Proofs.Execution.Resolution
import JdkFinder.Proofs.Execution.Registration
import JdkFinder.Proofs.Version.FreeText
import JdkFinder.Proofs.Requirement.SuggestedName
import JdkFinder.Proofs.Json.Document
import JdkFinder.Proofs.Matching.OwnName
import JdkFinder.Proofs.Files.Tree
import JdkFinder.Proofs.Catalog.Cache
import JdkFinder.Proofs.Catalog.Fetch
import JdkFinder.Proofs.Catalog.History
import JdkFinder.Proofs.Files.Folder
import JdkFinder.Proofs.Catalog.TimedStore
import JdkFinder.Proofs.Catalog.Feed
import JdkFinder.Proofs.Catalog.Trouble
import JdkFinder.Proofs.Execution.Refresh
import JdkFinder.Proofs.Scan.Coverage
import JdkFinder.Proofs.Files.Aliases
import JdkFinder.Proofs.Scan.Homes
import JdkFinder.Proofs.Catalog.Footprint
import JdkFinder.Proofs.Execution.Footprint
import JdkFinder.Proofs.Scan.OtherFiles
import JdkFinder.Proofs.Execution.Offline
import JdkFinder.Proofs.Matching.Loosening
import JdkFinder.Proofs.Text.Words
import JdkFinder.Proofs.Requirement.Decoration
import JdkFinder.Proofs.Version.Grammar
import JdkFinder.Proofs.Cancellation.Families
import JdkFinder.Proofs.Requirement.NameWords
import JdkFinder.Proofs.Requirement.Rule
import JdkFinder.Proofs.Requirement.Spelling
import JdkFinder.Proofs.Requirement.Dotted
import JdkFinder.Proofs.Version.Around
import JdkFinder.Proofs.Text.Numbers
import JdkFinder.Proofs.Requirement.Bounds
import JdkFinder.Proofs.Requirement.OwnVersion
import JdkFinder.Proofs.Cancellation.Races
import JdkFinder.Proofs.Catalog.Failure
import JdkFinder.Proofs.Scan.RootOrder
import JdkFinder.Proofs.Cancellation.Wakeups
import JdkFinder.Proofs.Candidate.Record
import JdkFinder.Proofs.InstallTask.Target
import JdkFinder.Proofs.Registry.Rows
import JdkFinder.Proofs.Registry.History
import JdkFinder.Proofs.Matching.Arrangement
import JdkFinder.Proofs.JdkHome.Release
