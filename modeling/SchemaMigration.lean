import SchemaMigration.Decimal.Shortest
import SchemaMigration.Text.Blank
import SchemaMigration.Calendar.Reader
import SchemaMigration.Sql.Quote
import SchemaMigration.Sql.Row
import SchemaMigration.Table.Column
import SchemaMigration.Table.Key
import SchemaMigration.Table.Declaration
import SchemaMigration.Table.Statement
import SchemaMigration.Catalog.Snapshot
import SchemaMigration.Text.Printable
import SchemaMigration.Text.DecimalDigit
import SchemaMigration.Text.Hexadecimal
import SchemaMigration.Source.Artifact
import SchemaMigration.Catalog.DependencyOrder
import SchemaMigration.Database.NameMap
import SchemaMigration.Database.Command
import SchemaMigration.Database.Transaction
import SchemaMigration.Database.Rehearsal
import SchemaMigration.Catalog.Query
import SchemaMigration.Database.Memory
import SchemaMigration.Schema.Inspector
import SchemaMigration.Schema.Operation
import SchemaMigration.Source.RegistryModule
import SchemaMigration.Migration.Registry
import SchemaMigration.Migration.Discovery
import SchemaMigration.Migration.Manager
import SchemaMigration.Generation.Generator
import SchemaMigration.Generation.RegistryFile
import SchemaMigration.Database.Address
import SchemaMigration.Config.Load
import SchemaMigration.CommandLine.Execution
import SchemaMigration.Main
import SchemaMigration.Proofs.TypeTexts
import SchemaMigration.Proofs.CatalogRows
import SchemaMigration.Proofs.DefaultTexts
import SchemaMigration.Proofs.CatalogOfBlueprint
import SchemaMigration.Proofs.CatalogAnswers
import SchemaMigration.Proofs.KeyRows
import SchemaMigration.Proofs.Replay
import SchemaMigration.Proofs.TableStatement
import SchemaMigration.Proofs.Inspection
import SchemaMigration.Proofs.CatalogRoundTrip
import SchemaMigration.Proofs.ScriptSimulation
import SchemaMigration.Proofs.LedgerStatements
import SchemaMigration.Proofs.ScriptEffects
import SchemaMigration.Proofs.MigrationStep
import SchemaMigration.Proofs.MigrationSequence
import SchemaMigration.Proofs.ManagerPlans
import SchemaMigration.Proofs.CarriedWork
import SchemaMigration.Proofs.FailureAtomicity
import SchemaMigration.Proofs.LedgerCalls
import SchemaMigration.Proofs.LedgerHistory
import SchemaMigration.Proofs.LatestBatches
import SchemaMigration.Proofs.UndoneRun
import SchemaMigration.Proofs.ExactRollback
import SchemaMigration.Proofs.RebuiltStructure
import SchemaMigration.Proofs.LiteralReading
import SchemaMigration.Proofs.CallReading
import SchemaMigration.Proofs.RenderedCalls
import SchemaMigration.Proofs.VersionOrder
import SchemaMigration.Proofs.FileChanges
import SchemaMigration.Proofs.ArtifactOrder
import SchemaMigration.Proofs.GeneratorCalls
import SchemaMigration.Proofs.SentStatements
import SchemaMigration.Proofs.RehearsedScript
import SchemaMigration.Proofs.ReportingCalls
import SchemaMigration.Proofs.PretendedRun
import SchemaMigration.Proofs.ReducedDescriptions
import SchemaMigration.Proofs.BulkGeneration
import SchemaMigration.Proofs.ListedArtifacts
import SchemaMigration.Proofs.FailedCommit
import SchemaMigration.Proofs.RelatedRuns
import SchemaMigration.Proofs.SuccessfulRuns
import SchemaMigration.Proofs.SplitRuns
import SchemaMigration.Proofs.ReportedRuns
import SchemaMigration.Proofs.SuccessfulMarks
import SchemaMigration.Proofs.MarkedGeneration
import SchemaMigration.Proofs.RowReaders
import SchemaMigration.Proofs.ClosedTexts
import SchemaMigration.Proofs.DeclaredColumns
import SchemaMigration.Proofs.ChangeStatements
import SchemaMigration.Proofs.TrackedTables
import SchemaMigration.Proofs.DeclaredTypes
import SchemaMigration.Proofs.KeptDefaults
import SchemaMigration.Proofs.CanonicalOrder
import SchemaMigration.Proofs.CountedOrder
import SchemaMigration.Proofs.CircleOrder
import SchemaMigration.Proofs.FilenameCodec
import SchemaMigration.Proofs.RegistryOrder
import SchemaMigration.Proofs.IndexGroups
import SchemaMigration.Proofs.GatheredRows
import SchemaMigration.Proofs.DeclaredKeys
import SchemaMigration.Proofs.RecordedStatements
import SchemaMigration.Proofs.TransactionBrackets
import SchemaMigration.Proofs.ColumnPlaces
import SchemaMigration.Proofs.ObservedRequests
import SchemaMigration.Proofs.TransactionEndings
import SchemaMigration.Proofs.RelatedWork
import SchemaMigration.Proofs.HeldLock
import SchemaMigration.Proofs.DescribedNames
import SchemaMigration.Proofs.StructNames
import SchemaMigration.Proofs.NumericLiterals
import SchemaMigration.Proofs.DatabaseAddresses
import SchemaMigration.Proofs.UnobservedPasswords
import SchemaMigration.Proofs.SourceParts
import SchemaMigration.Proofs.ConfinedTexts
import SchemaMigration.Proofs.DateTexts
import SchemaMigration.Proofs.DeliveredRows
import SchemaMigration.Proofs.OpenTransactions
import SchemaMigration.Proofs.SeparatedClauses
import SchemaMigration.Proofs.ImportedTypes
