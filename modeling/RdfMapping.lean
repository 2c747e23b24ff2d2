import RdfMapping.Fault
import RdfMapping.Function.Basic
import RdfMapping.Function.Grel
import RdfMapping.Iri
import RdfMapping.Join.Key
import RdfMapping.Join.Ledger
import RdfMapping.Join.ParentStore
import RdfMapping.Json.Basic
import RdfMapping.Json.DotPath
import RdfMapping.Json.Number
import RdfMapping.Json.Outline
import RdfMapping.Json.Reader
import RdfMapping.Json.Shape
import RdfMapping.Json.Writer
import RdfMapping.Number.Binary64
import RdfMapping.Number.Decimal
import RdfMapping.Number.Shortest
import RdfMapping.Number.Word
import RdfMapping.OrderedSet
import RdfMapping.Plan.Basic
import RdfMapping.Plan.Compile
import RdfMapping.Position
import RdfMapping.Producer.Basic
import RdfMapping.Producer.Compile
import RdfMapping.Quad
import RdfMapping.RawValue
import RdfMapping.Record
import RdfMapping.Rules.Exchange
import RdfMapping.Rules.Graph
import RdfMapping.Rules.TermMap
import RdfMapping.Rules.TriplesMap
import RdfMapping.Run
import RdfMapping.Settings
import RdfMapping.Source.Memory
import RdfMapping.Source.Resolver
import RdfMapping.Template.Basic
import RdfMapping.Template.Exchange
import RdfMapping.Template.Reader
import RdfMapping.Template.Rows
import RdfMapping.Term
import RdfMapping.Toml.Basic
import RdfMapping.Toml.Reader
import RdfMapping.Toml.Scalar
import RdfMapping.Unicode.Blank
import RdfMapping.Unicode.CaseTables
import RdfMapping.Unicode.Casing
import RdfMapping.Unicode.Normalization
import RdfMapping.Unicode.NormalizationTables
import RdfMapping.Unicode.PrintableTables
import RdfMapping.Unicode.Quoted
import RdfMapping.Unicode.Table
import RdfMapping.Vocabulary
import RdfMapping.Proofs.CallStack
import RdfMapping.Proofs.Outcomes
import RdfMapping.Proofs.Drafting
import RdfMapping.Proofs.Places
import RdfMapping.Proofs.Validation
import RdfMapping.Proofs.LedgerHistory
import RdfMapping.Proofs.Producers
import RdfMapping.Proofs.JoinSites
import RdfMapping.Proofs.Barrier
import RdfMapping.Proofs.JoinKeys
import RdfMapping.Proofs.SurveyResults
import RdfMapping.Proofs.NestedLoop
import RdfMapping.Proofs.ProducedTerms
import RdfMapping.Proofs.WellFormedQuads
import RdfMapping.Proofs.TemplateGrammar
import RdfMapping.Proofs.NormalTemplates
import RdfMapping.Proofs.IriTexts
import RdfMapping.Proofs.TemplateRows
import RdfMapping.Proofs.CheckedTermMaps
import RdfMapping.Proofs.TemplateIris
import RdfMapping.Proofs.RecordQuads
import RdfMapping.Proofs.Targets
import RdfMapping.Proofs.FunctionMaps
import RdfMapping.Proofs.FunctionCycles
import RdfMapping.Proofs.JsonTexts
import RdfMapping.Proofs.GraphExchange
import RdfMapping.Proofs.LedgerRequests
import RdfMapping.Proofs.ReplacedReferences
import RdfMapping.Proofs.FinishedRuns
import RdfMapping.Proofs.SameRecords
import RdfMapping.Proofs.Statements
import RdfMapping.Proofs.FaultKinds
import RdfMapping.Proofs.Scalars
import RdfMapping.Proofs.InferredDatatypes
import RdfMapping.Proofs.WholeNumbers
import RdfMapping.Proofs.RowwiseTemplates
import RdfMapping.Proofs.PercentEncoding
import RdfMapping.Proofs.AnchoredTemplates
import RdfMapping.Proofs.ResolvedIris
import RdfMapping.Proofs.RuleIndexes
import RdfMapping.Proofs.ReadExpressions
import RdfMapping.Proofs.Executions
import RdfMapping.Proofs.DotPaths
import RdfMapping.Proofs.WrittenQuads
import RdfMapping.Proofs.SourceRequests
import RdfMapping.Proofs.RunSchedules
import RdfMapping.Proofs.DeliveredRecords
import RdfMapping.Proofs.DeclaredConstants
import RdfMapping.Proofs.StoreRequests
import RdfMapping.Proofs.KeyChoices
import RdfMapping.Proofs.RegroupedValues
