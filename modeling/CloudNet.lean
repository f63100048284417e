import CloudNet.Change
import CloudNet.Directory
import CloudNet.Document.Query
import CloudNet.Main
import CloudNet.Proofs.LastKnownGood
import CloudNet.Proofs.MatchAgreement
import CloudNet.Proofs.Membership
import CloudNet.Proofs.Ownership
import CloudNet.Proofs.References
import CloudNet.Traversal
import CloudNet.Trace
import CloudNet.Proofs.Addresses
import CloudNet.Proofs.FilterGrammar
import CloudNet.Proofs.RuleChange
import CloudNet.Proofs.JsonTokens
import CloudNet.Proofs.JsonText
import CloudNet.Proofs.JsonForms
import CloudNet.Proofs.SnapshotForms
import CloudNet.Proofs.SnapshotFiles
import CloudNet.Proofs.WrittenPaths
import CloudNet.Proofs.BitPatterns
import CloudNet.Proofs.WellFormedModels
import CloudNet.Proofs.SettingsAlone
import CloudNet.Proofs.FirstSections
import CloudNet.Proofs.LegacyRules
import CloudNet.Proofs.SectionFailures
import CloudNet.Proofs.Selections
import CloudNet.Proofs.AppliedRoutes
import CloudNet.Proofs.ClusterUnion
import CloudNet.Proofs.InstanceOrder
import CloudNet.Proofs.DeclaredNames
import CloudNet.Proofs.ChainNames
import CloudNet.Proofs.DocumentSize
import CloudNet.Proofs.InterfaceNames
import CloudNet.Proofs.PositionBounds
import CloudNet.Proofs.PublishedQueries
import CloudNet.Proofs.SessionSnapshots
import CloudNet.Model.Renumbering
import CloudNet.Proofs.SortingByTables
import CloudNet.Proofs.InstanceSorting
import CloudNet.Proofs.RangeRuns
import CloudNet.Proofs.MalformedRanges
import CloudNet.Proofs.LegacyFlags
import CloudNet.Proofs.AdmittedPorts
import CloudNet.Proofs.RuleTranslations
import CloudNet.Proofs.ResumedLookups
import CloudNet.Proofs.NodePlacement
import CloudNet.Proofs.GatewayEntries
import CloudNet.Proofs.DocumentOrder
import CloudNet.Proofs.PathEvaluation
import CloudNet.Proofs.Relinking
import CloudNet.Proofs.SkippedCycles
import CloudNet.Proofs.AddressBits
import CloudNet.Proofs.HostnameItems
import CloudNet.Proofs.HardwareAddresses
import CloudNet.Proofs.AddressTexts
import CloudNet.Proofs.SelfIdentity
import CloudNet.Proofs.TenantParts
import CloudNet.Proofs.LeadingIntegers
