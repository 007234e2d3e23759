import GuardCost.Error
import GuardCost.Main
import GuardCost.Proofs.Chains
import GuardCost.Proofs.BuildDeeds
import GuardCost.Proofs.BuildShape
import GuardCost.Proofs.Commands
import GuardCost.Proofs.RatioCells
import GuardCost.Proofs.Alike
import GuardCost.Proofs.Names
import GuardCost.Proofs.OutputPlaces
import GuardCost.Proofs.Confinement
import GuardCost.Proofs.Preparation
import GuardCost.Proofs.StaleOutputs
import GuardCost.Proofs.Floors
import GuardCost.Proofs.VariantOrder
import GuardCost.Proofs.ProgramOrder
import GuardCost.Proofs.ToolChanges
import GuardCost.Proofs.SoundSuites
import GuardCost.Proofs.SuiteOrder
import GuardCost.Proofs.RunnableTargets
import GuardCost.Proofs.BuildWork
import GuardCost.Proofs.CompileOnly
import GuardCost.Proofs.BenchOrder
import GuardCost.Proofs.CsvReading
import GuardCost.Proofs.Preflight
import GuardCost.Proofs.Unprepared
import GuardCost.Proofs.RunOutcome
import GuardCost.Proofs.ByteOrder
import GuardCost.Proofs.MetricTables
import GuardCost.Proofs.Recordings
import GuardCost.Proofs.Records
import GuardCost.Proofs.RatioGauges
import GuardCost.Proofs.StageCounts
import GuardCost.Proofs.CountedSuites
import GuardCost.Proofs.SummaryReading
import GuardCost.Proofs.AbsolutePaths
import GuardCost.Proofs.SourceListings
import GuardCost.Proofs.NamedFiles
import GuardCost.Proofs.NewestProfile
import GuardCost.Proofs.ClearedPaths
import GuardCost.Proofs.ArtifactFiles
import GuardCost.Proofs.TextPaths
import GuardCost.Proofs.ToolPaths
import GuardCost.Proofs.OwnTriples
import GuardCost.Proofs.LetterCase
import GuardCost.Proofs.Listings
import GuardCost.Proofs.TableReading
import GuardCost.Proofs.CommandWords
import GuardCost.Proofs.NarrowedSuites
import GuardCost.Proofs.Reductions
import GuardCost.Proofs.RatioRange
import GuardCost.Proofs.TripleTexts
import GuardCost.Proofs.OptionWords
import GuardCost.Proofs.GivenOptions
import GuardCost.Proofs.SettledChoices
import GuardCost.Proofs.FlagLevels
import GuardCost.Proofs.DistinctKeys
import GuardCost.Proofs.SuiteDocuments
import GuardCost.Proofs.DistinctOutputs
import GuardCost.Proofs.StandingOutputs
