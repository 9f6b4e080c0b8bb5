import EightBit.Machine.Trail
import EightBit.Main
import EightBit.Proofs.Image.Diagnosis
import EightBit.Proofs.Machine.WholeRun
import EightBit.Proofs.Settings
import EightBit.Proofs.Machine.BuiltInStep
import EightBit.Proofs.Machine.Atomicity
import EightBit.Proofs.Machine.Trail
import EightBit.Machine.Procedure
import EightBit.Machine.Operation
import EightBit.Proofs.Machine.Termination
import EightBit.Proofs.Machine.Tracing
import EightBit.Proofs.Machine.Truncation
import EightBit.Proofs.Machine.Independence
import EightBit.Proofs.Machine.Locality
import EightBit.Proofs.Machine.Extension
import EightBit.Proofs.Machine.Resumption
import EightBit.Proofs.Machine.History
import EightBit.Proofs.Machine.Finality
import EightBit.Proofs.Machine.Consistency
import EightBit.Proofs.Machine.LastWrite
import EightBit.Proofs.Machine.Ending
import EightBit.Proofs.Image.Concatenation
import EightBit.Proofs.Image.Listing
import EightBit.Proofs.Text.Numeral
import EightBit.Proofs.Machine.PrintedLines
import EightBit.Proofs.CommandLine.Arguments
import EightBit.Proofs.CommandLine.RunSession
import EightBit.Proofs.CommandLine.PlainLines
import EightBit.Proofs.CommandLine.Narration
import EightBit.Proofs.CommandLine.Agreement
import EightBit.Proofs.Storage.Extension
import EightBit.Console.Operation
import EightBit.Proofs.Console.Coloring
import EightBit.Proofs.Image.Loading
import EightBit.Proofs.CommandLine.Start
import EightBit.Proofs.Image.Layout
import EightBit.Proofs.Machine.TraceLine
