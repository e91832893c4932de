import Aise.Lib.Text
import Aise.Lib.Transition
import Aise.Lib.OrdMap
import Aise.Lib.Result
import Aise.Lib.Glossary
import Aise.Lib.Distinct
import Aise.Lib.Keyed
import Aise.Lib.Journal
import Aise.Lib.Lease
import Aise.Lib.Search
import Aise.Lib.Loop
import Aise.Lib.Sorting
import Aise.Lib.Saturating
import Aise.Lib.Tally
import Aise.Lib.Effect
import Aise.Lib.Json
import Aise.Lib.Prefix
import Aise.Lib.Serde
import Aise.Lib.Label
import Aise.Lib.Outbox
import Aise.Lib.Channel
import Aise.Domain.Asset.Keys
import Aise.Domain.Asset.StoryPack
import Aise.Core.Ids
import Aise.Core.Activation.Rule
import Aise.Core.Knowledge
import Aise.Core.Role
import Aise.Core.Activation.Scan
import Aise.Core.Activation.Engine
import Aise.Core.Activation.Steps
import Aise.Core.Activation.Accounting
import Aise.Core.Activation.Groups
import Aise.Core.Activation.Recursion
import Aise.Core.Activation.Renaming
import Aise.Core.Narrative.Condition
import Aise.Core.Narrative.Graph
import Aise.Core.Narrative.Plan
import Aise.Core.Narrative.Validation
import Aise.Core.Turn
import Aise.Core.Story
import Aise.Persistence.Error
import Aise.Persistence.KnowledgeChange
import Aise.Persistence.KnowledgeOrder
import Aise.Persistence.StoryStoreMem
import Aise.Persistence.History
import Aise.Persistence.PackStoreMem
import Aise.Persistence.Store
import Aise.Persistence.Interleaving
import Aise.Pipeline.Error
import Aise.Pipeline.Extract.Narrative
import Aise.Pipeline.Extract.Evaluation
import Aise.Pipeline.Extract.Knowledge
import Aise.Pipeline.Extract.Agreement
import Aise.Pipeline.Extract.MemoryLimit
import Aise.Pipeline.Summary
import Aise.Pipeline.Commit
import Aise.Pipeline.Runtime
import Aise.Pipeline.Validate.Report
import Aise.Pipeline.Plan
import Aise.Pipeline.Think
import Aise.Pipeline.Generate.Roles
import Aise.Pipeline.PlanSafety
import Aise.Pipeline.RepairLoop
import Aise.Pipeline.RepairOutcome
import Aise.Engine.Factory
import Aise.Engine.Provenance
import Aise.Engine.Engine
import Aise.Domain.Knowledge
import Aise.Domain.Activation.Rule
import Aise.Domain.Activation.Index
import Aise.Domain.Activation.Contracts
import Aise.Domain.Activation.Budget
import Aise.Domain.Activation.Selection
import Aise.Domain.Activation.Session
import Aise.Domain.Activation.Rounds
import Aise.Domain.Activation.Run
import Aise.Domain.Activation.Ledger
import Aise.Domain.Activation.Reserve
import Aise.Domain.Activation.Changes
import Aise.Domain.Activation.Collecting
import Aise.Domain.Activation.Groups
import Aise.Domain.Activation.Traces
import Aise.Domain.Activation.Accounting
import Aise.Domain.Activation.Verdicts
import Aise.Domain.Activation.Levels
import Aise.Domain.Activation.Windows
import Aise.Domain.Activation.Timeline
import Aise.Domain.Activation.Inclusion
import Aise.Domain.Activation.Compile
import Aise.Domain.KnowledgeId
import Aise.Domain.Entry
import Aise.Context.Activation.Layers
import Aise.Story.InstanceFactory
import Aise.Runtime.StoryTurnCoordinator
import Aise.Runtime.Exclusion
import Aise.Runtime.Bookkeeping
import Aise.Llm.RateGate
import Aise.Turn.TurnContract
import Aise.Turn.TurnBudget
import Aise.Turn.Reservations
import Aise.Domain.Retrieval
import Aise.Turn.TurnValidation
import Aise.Turn.TurnEvent
import Aise.Server.Api.Sse
import Aise.Turn.TurnContext
import Aise.Turn.Calls
import Aise.Turn.Candidate
import Aise.Turn.Ending
import Aise.Turn.Extraction
import Aise.Turn.Enrichment
import Aise.Validation.ChangeSet
import Aise.Validation.Clean
import Aise.Validation.HighWater
import Aise.Validation.Targets
import Aise.Validation.Validators
import Aise.Persistence.SqliteStore
import Aise.Persistence.CommitRows
import Aise.Persistence.SqliteSnapshot
import Aise.Llm.Gateway
import Aise.Domain.Narrative.Graph
import Aise.Domain.Narrative.Resolver
import Aise.Domain.Narrative.Projector
import Aise.Domain.Narrative.Stored
import Aise.Domain.Narrative.Questions
import Aise.Domain.Narrative.Bootstrap
import Aise.Domain.Narrative.Delivery
import Aise.Story.Creation
import Aise.Story.Run
import Aise.Story.FactValues
import Aise.Story.Acceptance
import Aise.Story.Delivery
import Aise.Story.Snapshot
import Aise.Story.Role
import Aise.Story.ReadSnapshot
import Aise.Story.StoredConstraints
import Aise.Context.Baseline
import Aise.Planning.RetrievalPlanBuilder
import Aise.Context.RetrievalPipeline
import Aise.Context.Authorization
import Aise.Context.Trimming
import Aise.Server.Tasks.Supervisor
import Aise.Story.Course
import Aise.Story.HighWaters
import Aise.Lib.Numbering
import Aise.Story.ExactlyOnce
import Aise.Story.Lifetimes
import Aise.Lib.Table
import Aise.Domain.StoredEntry
import Aise.Persistence.KnowledgeRows
import Aise.Lib.Masking
import Aise.Core.Privacy
import Aise.Pipeline.Baseline
import Aise.Pipeline.ThinkPrompt
import Aise.Core.Narrative.Evaluation
import Aise.Lib.Occurrence
import Aise.Core.Activation.Matching
import Aise.Core.Activation.Normalization
import Aise.Pipeline.Validate.Config
import Aise.Pipeline.Validate.WellFormed
import Aise.Pipeline.Generate.Budget
import Aise.Lib.PrefixCode
import Aise.Domain.Activation.RuleBytes
import Aise.Lib.Replace
import Aise.Domain.Activation.Macros
import Aise.Pipeline.Retrieval
import Aise.Lib.Sighting
import Aise.Core.Activation.Rescan
import Aise.Llm.Accounting
import Aise.Lib.Utf8
import Aise.Trace.Content
import Aise.Domain.Ids
import Aise.Lib.Digraph
import Aise.Story.PackService
import Aise.Lib.Lines
import Aise.Llm.OpenAiCompat
import Aise.Story.Continuity
import Aise.Lib.Greedy
import Aise.Persistence.KnowledgeBodies
import Aise.Domain.Activation.Admitting
import Aise.Domain.Activation.Room
import Aise.Context.Activation.Bodies
import Aise.Lib.Recency
import Aise.Context.Activation.FragmentCache
import Aise.Context.Activation.PackCache
import Aise.Persistence.SqliteActivation
import Aise.Story.LayeredIndex
import Aise.Lib.Shared
import Aise.Context.Activation.Coordinator
import Aise.Story.SharedIndex
import Aise.Lib.Grouping
import Aise.Prompt.Model
import Aise.Prompt.SectionExtractor
import Aise.Prompt.Pack
import Aise.Prompt.Slot
import Aise.Prompt.Catalog
import Aise.Prompt.Loader
import Aise.Prompt.Composition
import Aise.Persistence.StoryHistoryReader
