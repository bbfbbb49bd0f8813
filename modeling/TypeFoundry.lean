import TypeFoundry.Main
import TypeFoundry.Modules.Summary
import TypeFoundry.Proofs.Lexing
import TypeFoundry.Proofs.Names
import TypeFoundry.Proofs.Filling
import TypeFoundry.Proofs.Spelling
import TypeFoundry.Proofs.Schema
import TypeFoundry.Proofs.SchemaText
import TypeFoundry.Proofs.Readers
import TypeFoundry.Proofs.SchemaReading
import TypeFoundry.Proofs.Editing
import TypeFoundry.Proofs.Evolution
import TypeFoundry.Proofs.Locations
import TypeFoundry.Proofs.Disks
import TypeFoundry.Proofs.Actions
import TypeFoundry.Proofs.Serving
import TypeFoundry.Proofs.Opening
import TypeFoundry.Proofs.Written
import TypeFoundry.Proofs.Coherence
import TypeFoundry.Proofs.Declaring
import TypeFoundry.Proofs.FullNames
import TypeFoundry.Proofs.Describing
import TypeFoundry.Proofs.Sessions
import TypeFoundry.Proofs.Settling
import TypeFoundry.Proofs.Merging
import TypeFoundry.Proofs.Presence
import TypeFoundry.Proofs.Usable
import TypeFoundry.Proofs.Quoting
import TypeFoundry.Proofs.Reporting
import TypeFoundry.Proofs.Reaching
import TypeFoundry.Proofs.Directories
import TypeFoundry.Proofs.Steadiness
import TypeFoundry.Proofs.Collecting
import TypeFoundry.Proofs.Retaining
import TypeFoundry.Proofs.Listing
import TypeFoundry.Proofs.Handing
import TypeFoundry.Proofs.Confinement
import TypeFoundry.Proofs.Builtins
import TypeFoundry.Proofs.Closure
import TypeFoundry.Proofs.Latest
import TypeFoundry.Proofs.Mirroring
import TypeFoundry.Proofs.Restarts
import TypeFoundry.Proofs.Amending
import TypeFoundry.Proofs.Admitting
import TypeFoundry.Proofs.Planning
import TypeFoundry.Proofs.Existing
import TypeFoundry.Proofs.Judging
import TypeFoundry.Proofs.Commuting
import TypeFoundry.Proofs.Extending
import TypeFoundry.Proofs.Views
import TypeFoundry.Proofs.Grammar
import TypeFoundry.Proofs.Imports
import TypeFoundry.Proofs.Registering
import TypeFoundry.Proofs.Rereading
import TypeFoundry.Proofs.Verbatim
import TypeFoundry.Proofs.Entries
import TypeFoundry.Proofs.Holding
import TypeFoundry.Proofs.Crates
import TypeFoundry.Proofs.Namespaces
import TypeFoundry.Proofs.Messages
import TypeFoundry.Proofs.Explaining
import TypeFoundry.Proofs.Making
import TypeFoundry.Proofs.Clutter
import TypeFoundry.Proofs.Startup
import TypeFoundry.Proofs.Twins
import TypeFoundry.Proofs.JsonText
import TypeFoundry.Proofs.Interchange
