import DutFixtures.Launch
import DutFixtures.FileTree
import DutFixtures.Json.Forwarded
import DutFixtures.Main
import DutFixtures.Proofs.BuildForecast
import DutFixtures.Proofs.CommandGrammar
import DutFixtures.Proofs.ConsoleLines
import DutFixtures.Proofs.DutLookups
import DutFixtures.Proofs.DutSegments
import DutFixtures.Proofs.FailureBlame
import DutFixtures.Proofs.FaultsBeforeLooks
import DutFixtures.Proofs.FilledCalls
import DutFixtures.Proofs.LosslessAnswers
import DutFixtures.Proofs.OneDutTool
import DutFixtures.Proofs.ParameterChecks
import DutFixtures.Proofs.ProbeDestination
import DutFixtures.Proofs.ResolvedAgain
import DutFixtures.Proofs.ScrapedLines
import DutFixtures.Proofs.SessionReplies
import DutFixtures.Proofs.VanishingDirs
