import LoadScenario.Main
import LoadScenario.Logging
import LoadScenario.SharedLog
import LoadScenario.Files.Tree
import LoadScenario.Proofs.NumberReading
import LoadScenario.Proofs.TokenReading
import LoadScenario.Proofs.JsonReading
import LoadScenario.Proofs.DocumentReading
import LoadScenario.Proofs.RecordEdits
import LoadScenario.Proofs.DocumentEdits
import LoadScenario.Proofs.MarkedText
import LoadScenario.Proofs.OrderedMap
import LoadScenario.Proofs.ReferenceGraph
import LoadScenario.Proofs.FeederResolution
import LoadScenario.Proofs.FeederOutcome
import LoadScenario.Proofs.OutputRun
import LoadScenario.Proofs.SimulationStep
import LoadScenario.Proofs.SimulationRun
import LoadScenario.Proofs.SimulationStages
import LoadScenario.Proofs.CheckReading
import LoadScenario.Proofs.BlockReading
import LoadScenario.Proofs.FileFrame
import LoadScenario.Proofs.FileGrowth
import LoadScenario.Proofs.MadeDirectory
import LoadScenario.Proofs.WorkRun
import LoadScenario.Proofs.BodyTasks
import LoadScenario.Proofs.LinkFree
import LoadScenario.Proofs.SteadyFiles
import LoadScenario.Proofs.BodyFiles
import LoadScenario.Proofs.BodyOutcome
import LoadScenario.Proofs.OutputSteps
import LoadScenario.Proofs.OutputNames
import LoadScenario.Proofs.Confinement
import LoadScenario.Proofs.KeptBodies
import LoadScenario.Proofs.TextSearch
import LoadScenario.Proofs.QuotedText
import LoadScenario.Proofs.LineEnds
import LoadScenario.Proofs.ScriptLineEnds
import LoadScenario.Proofs.RequestLineEnds
import LoadScenario.Proofs.SourceLiterals
import LoadScenario.Proofs.LexicalBlocks
import LoadScenario.Proofs.BodySearches
import LoadScenario.Proofs.BodyPlaces
import LoadScenario.Proofs.LoadedDocuments
import LoadScenario.Proofs.ListedSecrets
import LoadScenario.Proofs.TemplateFilling
import LoadScenario.Proofs.WrittenFiles
import LoadScenario.Proofs.GeneratedFiles
import LoadScenario.Proofs.ParentDirectories
import LoadScenario.Proofs.TwinFiles
import LoadScenario.Proofs.TwinRuns
import LoadScenario.Proofs.RunEnd
import LoadScenario.Proofs.EnvironmentValues
import LoadScenario.Proofs.CommandCourse
import LoadScenario.Proofs.RecordedWarnings
import LoadScenario.Proofs.PrintedWarnings
import LoadScenario.Proofs.InputFiles
import LoadScenario.Proofs.Regeneration
import LoadScenario.Proofs.WorkBarrier
import LoadScenario.Proofs.SharedWaiting
import LoadScenario.Proofs.LogGroups
import LoadScenario.Proofs.RequestSequence
import LoadScenario.Proofs.PassBound
import LoadScenario.Proofs.ClassNames
import LoadScenario.Proofs.TestAssignments
import LoadScenario.Proofs.WhiteSpace
import LoadScenario.Proofs.StatusCodes
import LoadScenario.Proofs.SetterCalls
import LoadScenario.Proofs.TextCaptures
import LoadScenario.Proofs.AnnotatedPaths
import LoadScenario.Proofs.MatchPlaces
import LoadScenario.Proofs.AssignedEntries
import LoadScenario.Proofs.ExpressionRuns
import LoadScenario.Proofs.AnnotationLines
import LoadScenario.Proofs.InferredPlaces
import LoadScenario.Proofs.AnalysisAccount
import LoadScenario.Proofs.HeaderBlocks
import LoadScenario.Proofs.PrintedLiterals
import LoadScenario.Proofs.NameSearch
import LoadScenario.Proofs.SettledFeeders
import LoadScenario.Proofs.DispositionHeaders
import LoadScenario.Proofs.FileNameParameters
import LoadScenario.Proofs.BodyContents
import LoadScenario.Proofs.FeederDocuments
import LoadScenario.Proofs.Translation
import LoadScenario.Proofs.ValueLiterals
import LoadScenario.Proofs.LiteralEnds
import LoadScenario.Proofs.CheckCounts
import LoadScenario.Proofs.VariableLines
import LoadScenario.Proofs.WrittenOptions
import LoadScenario.Proofs.OutputDirectories
