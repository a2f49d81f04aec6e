import ChainCompletion.Catalog
import ChainCompletion.Completion
import ChainCompletion.Imports.Header
import ChainCompletion.Settings.Reader
import ChainCompletion.Proofs.ArenaGrowth
import ChainCompletion.Proofs.SearchSteps
import ChainCompletion.Proofs.SearchSoundness
import ChainCompletion.Proofs.SearchRules
import ChainCompletion.Proofs.SearchTour
import ChainCompletion.Proofs.SearchEnumeration
import ChainCompletion.Proofs.CompletionReach
import ChainCompletion.Proofs.Denotation
import ChainCompletion.Proofs.TreeInstantiation
import ChainCompletion.Proofs.DeclarationTrees
import ChainCompletion.Proofs.AssignabilityTrees
import ChainCompletion.Proofs.CatalogTrees
import ChainCompletion.Proofs.SearchTrees
import ChainCompletion.Proofs.OriginTrees
import ChainCompletion.Proofs.ProposalTrees
import ChainCompletion.Proofs.Storing
import ChainCompletion.Proofs.Queries
import ChainCompletion.Proofs.Repeatability
import ChainCompletion.Proofs.SearchSweep
import ChainCompletion.Proofs.Sessions
import ChainCompletion.Proofs.FailureIsolation
import ChainCompletion.Proofs.Cancellation
import ChainCompletion.Proofs.SnippetReading
import ChainCompletion.Proofs.ArenaRuns
import ChainCompletion.Proofs.HeaderReading
import ChainCompletion.Proofs.Lines
import ChainCompletion.Proofs.Places
import ChainCompletion.Proofs.ImportInsertion
import ChainCompletion.Proofs.SortKeys
import ChainCompletion.Proofs.SearchQueue
import ChainCompletion.Proofs.BestChains
import ChainCompletion.Proofs.DiscoveryOrder
import ChainCompletion.Proofs.Delivery
import ChainCompletion.Proofs.SettledAnswers
import ChainCompletion.Proofs.VariableReplacement
import ChainCompletion.Proofs.LineageWalks
import ChainCompletion.Proofs.LineageLevels
import ChainCompletion.Proofs.GenericLineages
import ChainCompletion.Proofs.MemberListing
import ChainCompletion.Proofs.MemberHiding
import ChainCompletion.Proofs.SimultaneousReplacement
import ChainCompletion.Proofs.ArgumentTolerance
import ChainCompletion.Proofs.AssignabilityLaws
import ChainCompletion.Proofs.RendererCalls
import ChainCompletion.Proofs.SearchByLength
import ChainCompletion.Proofs.LineNumbers
import ChainCompletion.Proofs.ImportedNames
import ChainCompletion.Proofs.ReferenceChains
import ChainCompletion.Proofs.AccessLevels
import ChainCompletion.Proofs.RootCollection
import ChainCompletion.Proofs.HeadEnd
import ChainCompletion.Proofs.Comments
import ChainCompletion.Proofs.CommentedDeclarations
import ChainCompletion.Proofs.ArrayAlgebra
import ChainCompletion.Proofs.SearchCounters
import ChainCompletion.Proofs.JsonTokens
import ChainCompletion.Proofs.JsonGrammar
import ChainCompletion.Proofs.SettingsReading
