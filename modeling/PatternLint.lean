import PatternLint.Main
import PatternLint.Proofs.Config.Keys
import PatternLint.Proofs.PathFilter.Defaults
import PatternLint.Proofs.PathFilter.Inclusion
import PatternLint.Proofs.Report.Lines
import PatternLint.Proofs.Report.Lossless
import PatternLint.Proofs.Rule.Excusing
import PatternLint.Proofs.Run.Contract
import PatternLint.Proofs.Scan.Root
import PatternLint.Proofs.Settings.Discovery
import PatternLint.Proofs.Scan.Locality
import PatternLint.Proofs.CommandLine.Interleaving
import PatternLint.Proofs.Config.Content
import PatternLint.Proofs.Config.Formats
import PatternLint.Proofs.Scan.Convention
import PatternLint.Proofs.Path.Normal
import PatternLint.Proofs.Report.Colours
import PatternLint.Proofs.Settings.Ascent
