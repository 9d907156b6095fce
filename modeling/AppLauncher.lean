import AppLauncher.Table
import AppLauncher.Text.Caseless
import AppLauncher.Text.Utf8
import AppLauncher.Text.Latin1
import AppLauncher.Text.Number
import AppLauncher.Text.Quoted
import AppLauncher.FileSystem.Access
import AppLauncher.Archive.Url
import AppLauncher.Archive.Entry
import AppLauncher.Archive.Manifest
import AppLauncher.Tar.Reader
import AppLauncher.Archive.Stream
import AppLauncher.Archive.Trailer
import AppLauncher.Archive.Access
import AppLauncher.Loader.Load
import AppLauncher.Launch.Launcher
import AppLauncher.Condition.Web
import AppLauncher.Decimal.Shortest
import AppLauncher.Logging.Level
import AppLauncher.Config.Json
import AppLauncher.Config.Binding
import AppLauncher.Text.Letter
import AppLauncher.Logging.Rule
import AppLauncher.Application
import AppLauncher.Proofs.Computation
import AppLauncher.Proofs.Text.Splitting
import AppLauncher.Proofs.Path
import AppLauncher.Proofs.FileSystem.Walking
import AppLauncher.Proofs.FileSystem.Components
import AppLauncher.Proofs.Archive.Body
import AppLauncher.Proofs.Archive.Naming
import AppLauncher.Proofs.Archive.Packaged
import AppLauncher.Proofs.Archive.Forgetting
import AppLauncher.Proofs.Table
import AppLauncher.Proofs.Handler.Opening
import AppLauncher.Proofs.Handler.Effort
import AppLauncher.Proofs.Handler.Identity
import AppLauncher.Proofs.Handler.Descent
import AppLauncher.Proofs.Loader.Chain
import AppLauncher.Proofs.Loader.Lookup
import AppLauncher.Proofs.Loader.Answers
import AppLauncher.Proofs.Loader.Definition
import AppLauncher.Proofs.Loader.Convergence
import AppLauncher.Proofs.Loader.Finding
import AppLauncher.Proofs.Loader.Evolution
import AppLauncher.Proofs.Loader.Running
import AppLauncher.Proofs.Loader.Permanence
import AppLauncher.Proofs.Loader.Failure
import AppLauncher.Proofs.Loader.Attribution
import AppLauncher.Proofs.Loader.Respelling
import AppLauncher.Proofs.Loader.History
import AppLauncher.Proofs.Loader.Resources
import AppLauncher.Proofs.Metadata.Loading
import AppLauncher.Proofs.Laws
import AppLauncher.Proofs.Handler.Numbering
import AppLauncher.Proofs.Loader.Packaging
import AppLauncher.Proofs.Loader.Interference
import AppLauncher.Proofs.Loader.Likeness
import AppLauncher.Proofs.Loader.Stemming
import AppLauncher.Proofs.Loader.Derivation
import AppLauncher.Proofs.Loader.Resemblance
import AppLauncher.Proofs.Loader.Simulation
import AppLauncher.Proofs.Loader.Clearing
import AppLauncher.Proofs.Loader.Calls
import AppLauncher.Proofs.Loader.Padding
import AppLauncher.Proofs.Loader.Forgetting
import AppLauncher.Proofs.Loader.Reindexing
import AppLauncher.Proofs.Archive.View
import AppLauncher.Proofs.Tar.Number
import AppLauncher.Proofs.Tar.Writing
import AppLauncher.Proofs.Tar.Reading
import AppLauncher.Proofs.Archive.Written
import AppLauncher.Proofs.Archive.Listing
import AppLauncher.Proofs.Archive.Exploded
import AppLauncher.Proofs.Archive.Shown
import AppLauncher.Proofs.Archive.Relocation
import AppLauncher.Proofs.Archive.Nesting
import AppLauncher.Proofs.Archive.Agreement
import AppLauncher.Proofs.Archive.Spelling
import AppLauncher.Proofs.Archive.Confinement
import AppLauncher.Proofs.Archive.Ordering
import AppLauncher.Proofs.Manifest.Reading
import AppLauncher.Proofs.Manifest.Writing
import AppLauncher.Proofs.Manifest.Continuation
import AppLauncher.Proofs.Manifest.Attributes
import AppLauncher.Proofs.Condition.Filtering
import AppLauncher.Proofs.Launch.Calm
import AppLauncher.Proofs.Launch.Launching
import AppLauncher.Proofs.Text.Margins
import AppLauncher.Proofs.Properties.Joining
import AppLauncher.Proofs.Properties.Signs
import AppLauncher.Proofs.Properties.Escapes
import AppLauncher.Proofs.Properties.Writing
import AppLauncher.Proofs.Launch.InMemory
import AppLauncher.Proofs.Launch.Session
import AppLauncher.Proofs.Condition.Presence
import AppLauncher.Proofs.Condition.Reordering
import AppLauncher.Proofs.Condition.Advance
import AppLauncher.Proofs.Logging.Directives
import AppLauncher.Proofs.Host
import AppLauncher.Proofs.Logging.Bootstrap
import AppLauncher.Proofs.Tar.Progress
import AppLauncher.Proofs.Tar.Truncation
import AppLauncher.Proofs.Archive.Canonical
import AppLauncher.Proofs.Archive.Indistinguishable
import AppLauncher.Proofs.Archive.Payload
import AppLauncher.Proofs.Archive.Extents
import AppLauncher.Proofs.Archive.Truncation
