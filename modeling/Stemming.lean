import Stemming.Main
import Stemming.RuleTable.Description
import Stemming.Script.Run
import Stemming.Proofs.Text.CommonLength
import Stemming.Proofs.Text.Words
import Stemming.Proofs.Text.Divisions
import Stemming.Proofs.Text.Lines
import Stemming.Proofs.Text.BrokenLines
import Stemming.Proofs.Text.Places
import Stemming.Proofs.Text.CaseFolding
import Stemming.Proofs.Scan.Moves
import Stemming.Proofs.Scan.Seeking
import Stemming.Proofs.Scan.Edits
import Stemming.Proofs.Scan.Slices
import Stemming.Proofs.Scan.Commuting
import Stemming.Proofs.Scan.Region
import Stemming.Proofs.Scan.Rewritten
import Stemming.Proofs.RuleTable.Search
import Stemming.Proofs.RuleTable.InTurn
import Stemming.Proofs.RuleTable.Links
import Stemming.Proofs.RuleTable.Sound
import Stemming.Proofs.RuleTable.LongestMatch
import Stemming.Proofs.RuleTable.Validation
import Stemming.Proofs.RuleTable.Uses
import Stemming.Proofs.RuleTable.Reached
import Stemming.Proofs.RuleTable.Misses
import Stemming.Proofs.RuleTable.Literals
import Stemming.Proofs.Routine.Basic
import Stemming.Proofs.Routine.Edits
import Stemming.Proofs.Routine.Frames
import Stemming.Proofs.Routine.Operations
import Stemming.Proofs.Routine.Safety
import Stemming.Proofs.Routine.Restoring
import Stemming.Proofs.Routine.Keeping
import Stemming.Proofs.Routine.Widenings
import Stemming.Proofs.Routine.SavedCursors
import Stemming.Proofs.Norwegian.Rules
import Stemming.Proofs.Norwegian.Regions
import Stemming.Proofs.Norwegian.Endings
import Stemming.Proofs.Norwegian.Stages
import Stemming.Proofs.Norwegian.Program
import Stemming.Proofs.Norwegian.Beginnings
import Stemming.Proofs.Norwegian.Stems
import Stemming.Proofs.Norwegian.Reports
import Stemming.Proofs.Mirror.Moves
import Stemming.Proofs.Mirror.Tables
import Stemming.Proofs.StemCount
import Stemming.Proofs.CommandLine.Inputs
import Stemming.Proofs.CommandLine.Scanning
import Stemming.Proofs.CommandLine.Appending
import Stemming.Proofs.CommandLine.Refusals
import Stemming.Proofs.CommandLine.BrokenInput
