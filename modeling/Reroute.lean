import Reroute.Main
import Reroute.Proofs.References
import Reroute.Proofs.Decision
import Reroute.Proofs.OrChains
import Reroute.Proofs.RuleLists
import Reroute.Proofs.ConditionGroups
import Reroute.Proofs.CaptureBounds
import Reroute.Proofs.Loading
import Reroute.Proofs.MatchGroups
import Reroute.Proofs.OriginalUrl
import Reroute.Proofs.PathAndQuery
import Reroute.Proofs.EscapedGroups
import Reroute.Proofs.Dialects
import Reroute.Proofs.DirectiveNames
import Reroute.Proofs.DirectiveFiles
import Reroute.Proofs.SectionFaults
import Reroute.Proofs.SectionRules
import Reroute.Proofs.DisabledRules
import Reroute.Proofs.AppendedQuery
import Reroute.Proofs.UriForms
import Reroute.Proofs.IdleRules
import Reroute.Proofs.AnswerStatus
import Reroute.Proofs.Quoting
import Reroute.Proofs.PatternRules
import Reroute.Proofs.PercentDecoding
import Reroute.Proofs.TrackedConditions
import Reroute.Proofs.RelativeResults
import Reroute.Proofs.CaselessTables
import Reroute.Proofs.AgreeingTables
import Reroute.Proofs.SettingsOrder
import Reroute.Proofs.FirstMissing
import Reroute.Proofs.KeptTargets
import Reroute.Proofs.EveryText
import Reroute.Proofs.WrittenTemplates
import Reroute.Proofs.EncryptedRedirect
import Reroute.Proofs.DirectiveArguments
import Reroute.Proofs.DocumentRoots
import Reroute.Proofs.MatchedParts
import Reroute.Proofs.PatternCode
import Reroute.Proofs.FoundMatches
import Reroute.Proofs.MatchOutcomes
import Reroute.Proofs.NamedPlaceholders
import Reroute.Proofs.RuleTemplates
import Reroute.Proofs.TablePrecedence
import Reroute.Proofs.FlagOrder
import Reroute.Proofs.GroupNumbers
import Reroute.Proofs.OpenPlaceholders
