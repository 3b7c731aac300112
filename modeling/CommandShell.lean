import CommandShell.CommandLine
import CommandShell.Machine.Boot
import CommandShell.Main
import CommandShell.Proofs.ArgumentScan
import CommandShell.Proofs.Arriving
import CommandShell.Proofs.Confinement
import CommandShell.Proofs.FailingSinks
import CommandShell.Proofs.Grammar
import CommandShell.Proofs.Leaving
import CommandShell.Proofs.LevelNames
import CommandShell.Proofs.Numerals
import CommandShell.Proofs.PassedArguments
import CommandShell.Proofs.RedirectedBuiltins
import CommandShell.Proofs.Registries
import CommandShell.Proofs.Rendering
import CommandShell.Proofs.Scripts
import CommandShell.Proofs.Sessions
import CommandShell.Proofs.ShellOptions
import CommandShell.Proofs.Signals
import CommandShell.Proofs.Spacing
import CommandShell.Proofs.StandardStreams
import CommandShell.Proofs.StartReports
import CommandShell.Proofs.WorkingDirectory
import CommandShell.Proofs.WorkshopRun
