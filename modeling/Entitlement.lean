import Entitlement.Binary64
import Entitlement.Database.Number
import Entitlement.Dict
import Entitlement.Json.Basic
import Entitlement.Json.Reader
import Entitlement.Text.Character
import Entitlement.Text.Quoted
import Entitlement.Uuid
import Entitlement.Decode
import Entitlement.Rights
import Entitlement.Tree
import Entitlement.Record
import Entitlement.Statement
import Entitlement.Traced
import Entitlement.Database
import Entitlement.Store.Directory
import Entitlement.Store.Database
import Entitlement.Archive
import Entitlement.Text.Split
import Entitlement.Command.Address
import Entitlement.Command.Arguments
import Entitlement.Command.EnvFile
import Entitlement.Policy
import Entitlement.Policy.Evaluation
import Entitlement.Config
import Entitlement.Meaning
import Entitlement.Statement.OfRoles
import Entitlement.Resolution
import Entitlement.Command.Run
import Entitlement.Main
import Entitlement.Policy.Codec
import Entitlement.Proofs.Dict
import Entitlement.Proofs.Json.Sorted
import Entitlement.Proofs.Text
import Entitlement.Proofs.Decode.Reads
import Entitlement.Proofs.Decode.Yields
import Entitlement.Proofs.Decode.ByValue
import Entitlement.Proofs.Json.Text
import Entitlement.Proofs.Json.Written
import Entitlement.Proofs.Statement.Merge
import Entitlement.Proofs.Meaning.Path
import Entitlement.Proofs.Outcome
import Entitlement.Proofs.Policy.Applicability
import Entitlement.Proofs.Statement.Effect
import Entitlement.Proofs.Statement.OfRole
import Entitlement.Proofs.Resolution.Provenance
import Entitlement.Proofs.Tree.Grants
import Entitlement.Proofs.Tree.Scalars
import Entitlement.Proofs.Tree.RoundTrip
import Entitlement.Proofs.Record.Normal
import Entitlement.Proofs.Policy.Mentioned
import Entitlement.Proofs.Meaning.Right
import Entitlement.Proofs.Statement.NodeForm
import Entitlement.Proofs.Statement.Key
import Entitlement.Proofs.Resolution.Identity
import Entitlement.Proofs.Command
import Entitlement.Proofs.Database.Sound
import Entitlement.Proofs.Distinct
import Entitlement.Proofs.Meaning.Words
import Entitlement.Proofs.Policy.Fields
import Entitlement.Proofs.Statement.Overlap
import Entitlement.Proofs.Policy.FurtherGrant
import Entitlement.Proofs.Policy.Levels
import Entitlement.Proofs.Policy.Rehearsal
import Entitlement.Proofs.Policy.Stored
import Entitlement.Proofs.Store.Lookup
import Entitlement.Proofs.Resolution.Lookups
import Entitlement.Proofs.Resolution.EffectiveRoles
import Entitlement.Proofs.Store.Mirror
import Entitlement.Proofs.Resolution.Mirror
import Entitlement.Proofs.Resolution.Strictness
import Entitlement.Proofs.Resolution.CorruptTree
import Entitlement.Proofs.Statement.FirstHighest
import Entitlement.Proofs.Resolution.Counts
import Entitlement.Proofs.Resolution.Manage
import Entitlement.Proofs.Resolution.Order
import Entitlement.Proofs.Store.Extension
import Entitlement.Proofs.Resolution.OtherUsers
import Entitlement.Proofs.Resolution.Stored
import Entitlement.Proofs.Tree.Wrapping
import Entitlement.Proofs.Resolution.Wrapping
import Entitlement.Proofs.Store.Misspelled
import Entitlement.Proofs.Tree.DistinctPaths
import Entitlement.Proofs.Tree.Turns
