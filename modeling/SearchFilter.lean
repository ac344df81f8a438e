import SearchFilter.Main
import SearchFilter.Proofs.Lexeme.Walk
import SearchFilter.Proofs.Query.Text
import SearchFilter.Proofs.Query.Dates
import SearchFilter.Proofs.Query.Alternatives
import SearchFilter.Proofs.Query.Grammar
import SearchFilter.Proofs.Classification
import SearchFilter.Proofs.Lexeme.Precedence
import SearchFilter.Proofs.Pattern.Basic
import SearchFilter.Proofs.Pattern.Category
import SearchFilter.Proofs.Pattern.Preferred
import SearchFilter.Proofs.Lexeme.Span
import SearchFilter.Proofs.Pattern.Search
import SearchFilter.Proofs.Lexeme.Quotes
import SearchFilter.Proofs.Negation
import SearchFilter.Proofs.Query.Negation
import SearchFilter.Proofs.Query.NoConditions
import SearchFilter.Proofs.Lexeme.Run
import SearchFilter.Proofs.Lexeme.Separator
import SearchFilter.Proofs.Query.Calendar
import SearchFilter.Proofs.Json.Bytes
import SearchFilter.Proofs.Output
import SearchFilter.Proofs.Value.Merge
import SearchFilter.Proofs.Yaml.Content
import SearchFilter.Proofs.Settings.Levels
import SearchFilter.Proofs.Settings.Load
import SearchFilter.Proofs.Log.SetUp
import SearchFilter.Proofs.Log.Session
import SearchFilter.Proofs.CommandLine.Run
import SearchFilter.Proofs.Disk.Path
import SearchFilter.Proofs.CommandLine.Results
import SearchFilter.Proofs.CommandLine.Ending
import SearchFilter.Proofs.Value.Path
import SearchFilter.Proofs.Log.Mirror
import SearchFilter.Proofs.Query.Days
import SearchFilter.Proofs.Cleaning.Hyphens
import SearchFilter.Proofs.Lexeme.Joiner
import SearchFilter.Proofs.Pattern.Shape
import SearchFilter.Proofs.Settings.Acceptance
import SearchFilter.Proofs.Report.Listing
import SearchFilter.Proofs.Output.Console
import SearchFilter.Proofs.Report.Items
import SearchFilter.Proofs.CommandLine.Checked
