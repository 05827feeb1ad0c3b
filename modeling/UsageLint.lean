import UsageLint.Linter.Analysis
import UsageLint.Proofs.AssertionChains
import UsageLint.Proofs.ChainedListeners
import UsageLint.Proofs.CheckRuns
import UsageLint.Proofs.CommentedUses
import UsageLint.Proofs.CustomModules
import UsageLint.Proofs.DiscoveredPaths
import UsageLint.Proofs.EventDispatch
import UsageLint.Proofs.ExcludedDirectories
import UsageLint.Proofs.FileTrees
import UsageLint.Proofs.FirstError
import UsageLint.Proofs.ImportForms
import UsageLint.Proofs.ImportGate
import UsageLint.Proofs.InnerSources
import UsageLint.Proofs.LastLoads
import UsageLint.Proofs.LenientRuns
import UsageLint.Proofs.LiveRoot
import UsageLint.Proofs.LoadForms
import UsageLint.Proofs.MovedTrees
import UsageLint.Proofs.NamedDescendants
import UsageLint.Proofs.PathOrder
import UsageLint.Proofs.PatternEndings
import UsageLint.Proofs.PatternFaults
import UsageLint.Proofs.PlainRoots
import UsageLint.Proofs.PositionOrder
import UsageLint.Proofs.QueryNames
import UsageLint.Proofs.RefusedValues
import UsageLint.Proofs.RelativePaths
import UsageLint.Proofs.ReportOrder
import UsageLint.Proofs.ReportPlaces
import UsageLint.Proofs.RuleSight
import UsageLint.Proofs.RuleTables
import UsageLint.Proofs.SameAnswers
import UsageLint.Proofs.SelectorWords
import UsageLint.Proofs.SettingLayers
import UsageLint.Proofs.SourceDialects
import UsageLint.Proofs.SourcePatterns
import UsageLint.Proofs.StrictRuns
import UsageLint.Proofs.UntouchedUses
import UsageLint.Proofs.UserEventMethods
import UsageLint.Proofs.UserEventObject
import UsageLint.Proofs.Widening
import UsageLint.Rule.Declared
import UsageLint.Syntax.Outline
import UsageLint.Usage.Survey
