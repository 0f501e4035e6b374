import Stowage.AccountTable
import Stowage.Acl.Basic
import Stowage.Acl.Inheritance
import Stowage.Acl.Text
import Stowage.Acl.Validity
import Stowage.Action
import Stowage.Attributes
import Stowage.Catalog.BuiltIn
import Stowage.CommandLine.Invocation
import Stowage.CommandLine.Options
import Stowage.CommandLine.Run
import Stowage.Config.Document
import Stowage.Config.File
import Stowage.Config.Lenient
import Stowage.Config.Lines
import Stowage.Config.Yaml
import Stowage.Contract.Accounts
import Stowage.Contract.Basic
import Stowage.Contract.Catalog
import Stowage.Contract.Inode
import Stowage.Contract.Io
import Stowage.Contract.Pools
import Stowage.Decimal.Double
import Stowage.Decimal.Shortest
import Stowage.Digest.Base64
import Stowage.Digest.Hmac
import Stowage.Digest.Sha256
import Stowage.Disk.Driver
import Stowage.Disk.Host
import Stowage.Disk.LocalFiles
import Stowage.Disk.Settings
import Stowage.Display
import Stowage.Entry
import Stowage.Error
import Stowage.Files.Fault
import Stowage.Files.Handle
import Stowage.Files.Tree
import Stowage.Identity
import Stowage.Json
import Stowage.Location
import Stowage.Main
import Stowage.Manager.Basic
import Stowage.Manager.Composition
import Stowage.Manager.Factory
import Stowage.Mode
import Stowage.Namespace
import Stowage.Path
import Stowage.Permission
import Stowage.Placement
import Stowage.Pool.Basic
import Stowage.Pool.Filesystem
import Stowage.Pool.Table
import Stowage.Replica
import Stowage.Resolution.Basic
import Stowage.Resolution.Read
import Stowage.Resolution.Write
import Stowage.Site
import Stowage.Stack.Basic
import Stowage.Stack.Board
import Stowage.Stack.Chain
import Stowage.Stack.Node
import Stowage.Table
import Stowage.Text
import Stowage.Text.Quoted
import Stowage.Text.Unprintable
import Stowage.Token
import Stowage.Yaml.Expansion
import Stowage.Yaml.Node
import Stowage.Yaml.Parse
import Stowage.Yaml.Scalar
import Stowage.Yaml.Token
import Stowage.Yaml.Token.Cursor
import Stowage.Yaml.Token.Reading
import Stowage.Yaml.Token.ScalarText
import Stowage.Yaml.Token.Tag
import Stowage.Yaml.Value
import Stowage.Proofs.Actions
import Stowage.Proofs.Walks
import Stowage.Proofs.ReplicaRights
import Stowage.Proofs.NamespaceRuns
import Stowage.Proofs.Outlook
import Stowage.Proofs.Views
import Stowage.Proofs.Ties
import Stowage.Proofs.Preparations
import Stowage.Proofs.Placing
import Stowage.Proofs.Tables
import Stowage.Proofs.WriteAuthority
import Stowage.Proofs.FileNames
import Stowage.Proofs.Removal
import Stowage.Proofs.ReadChoice
import Stowage.Proofs.Retries
import Stowage.Proofs.RetryOrder
import Stowage.Proofs.Unlinking
import Stowage.Proofs.ReadOutcome
import Stowage.Proofs.Cancellation
import Stowage.Proofs.Operations
import Stowage.Proofs.Changes
import Stowage.Proofs.Reports
import Stowage.Proofs.Effects
import Stowage.Proofs.Sessions
import Stowage.Proofs.CancelledData
import Stowage.Proofs.NewFiles
import Stowage.Proofs.Places
import Stowage.Proofs.OpenWrites
import Stowage.Proofs.FilesystemChoice
import Stowage.Proofs.Charging
import Stowage.Proofs.SpaceAccounts
import Stowage.Proofs.NamespaceTree
import Stowage.Proofs.ReplicaTable
import Stowage.Proofs.WriteSpots
import Stowage.Proofs.Creation
import Stowage.Proofs.Screening
import Stowage.Proofs.WriteOutcome
import Stowage.Proofs.Identities
import Stowage.Proofs.Transparency
import Stowage.Proofs.Mirrors
import Stowage.Proofs.ExclusionFilters
import Stowage.Proofs.MirroredRequests
import Stowage.Proofs.MirroredOperations
import Stowage.Proofs.Unprofiled
import Stowage.Proofs.UnprofiledChains
import Stowage.Proofs.UnprofiledStacks
import Stowage.Proofs.ProfilerLoads
import Stowage.Proofs.ProfiledSettings
import Stowage.Proofs.ProfiledSessions
import Stowage.Proofs.CleanFailures
import Stowage.Proofs.CatalogFailures
import Stowage.Proofs.Ancestry
import Stowage.Proofs.GrantedRequests
import Stowage.Proofs.Authorisation
import Stowage.Proofs.HiddenSubtrees
import Stowage.Proofs.BannedIdentities
import Stowage.Proofs.CatalogRuns
import Stowage.Proofs.EntryPaths
import Stowage.Proofs.ModeBits
import Stowage.Proofs.AccessLists
import Stowage.Proofs.InheritedLists
import Stowage.Proofs.StoredLists
import Stowage.Proofs.ShownLists
import Stowage.Proofs.ShownModes
import Stowage.Proofs.ModeChanges
import Stowage.Proofs.WrittenLists
import Stowage.Proofs.InheritedAccess
import Stowage.Proofs.SetGroupIds
import Stowage.Proofs.Texts
import Stowage.Proofs.TokenFields
import Stowage.Proofs.RoundTrips
import Stowage.Proofs.DiskFactories
import Stowage.Proofs.SiteFrames
import Stowage.Proofs.SharedSettings
import Stowage.Proofs.IssuedChunks
import Stowage.Proofs.Rounds
import Stowage.Proofs.Compositions
import Stowage.Proofs.RefusedOptions
import Stowage.Proofs.ConfigurationForms
import Stowage.Proofs.Agreement
import Stowage.Proofs.Restocking
import Stowage.Proofs.ReadTurns
import Stowage.Proofs.Rotation
import Stowage.Proofs.Decisions
import Stowage.Proofs.ReadFailures
import Stowage.Proofs.HostingFilesystems
import Stowage.Proofs.Fallback
import Stowage.Proofs.NormalForms
import Stowage.Proofs.PhysicalNames
import Stowage.Proofs.EndOfFile
import Stowage.Proofs.ConfiguredPools
import Stowage.Proofs.LawfulEntries
