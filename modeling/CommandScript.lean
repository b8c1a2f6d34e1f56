import CommandScript.Console.Transcript
import CommandScript.Executor.Rehearsal
import CommandScript.Main
import CommandScript.Session.Call
import CommandScript.Proofs.Trimming
import CommandScript.Proofs.TokenRows
import CommandScript.Proofs.TokenGrammar
import CommandScript.Proofs.PhysicalLines
import CommandScript.Proofs.Description
import CommandScript.Proofs.Readings
import CommandScript.Proofs.WellFormed
import CommandScript.Proofs.Reassembly
import CommandScript.Proofs.Turns
import CommandScript.Proofs.Unfolding
import CommandScript.Proofs.Course
import CommandScript.Proofs.Consumption
import CommandScript.Proofs.Decoding
import CommandScript.Proofs.Segments
import CommandScript.Proofs.LineEnds
import CommandScript.Proofs.SavedScripts
import CommandScript.Proofs.OctetLines
import CommandScript.Proofs.Account
import CommandScript.Proofs.ShellRuns
import CommandScript.Proofs.SettledRuns
import CommandScript.Proofs.Reports
import CommandScript.Proofs.NestedRuns
import CommandScript.Proofs.Joining
import CommandScript.Proofs.ProperCommands
import CommandScript.Proofs.EchoRuns
import CommandScript.Proofs.Listings
import CommandScript.Proofs.LifeCycle
import CommandScript.Proofs.LogConfigurations
import CommandScript.Proofs.Rejections
import CommandScript.Proofs.ScriptRuns
import CommandScript.Proofs.ExitStatus
import CommandScript.Proofs.ConsoleColumns
import CommandScript.Proofs.ConsoleRows
import CommandScript.Proofs.VerbatimListings
import CommandScript.Proofs.ConsumedLines
import CommandScript.Proofs.TokenFates
import CommandScript.Proofs.LineContents
import CommandScript.Proofs.LineLayout
import CommandScript.Proofs.Progress
import CommandScript.Proofs.Judgements
import CommandScript.Proofs.ReturnCodes
import CommandScript.Proofs.Transcripts
import CommandScript.Proofs.PauseRecords
import CommandScript.Proofs.JoinedLines
import CommandScript.Proofs.EnvFileLines
import CommandScript.Proofs.SettingsFields
import CommandScript.Proofs.Precedence
