import Runbook.Catalog
import Runbook.Command.Program
import Runbook.Condition.Eval
import Runbook.Draft.Materialize
import Runbook.Files.Disk
import Runbook.Knowledge
import Runbook.Log.Line
import Runbook.Log.Message
import Runbook.Main
import Runbook.Reference.Dependency
import Runbook.Reference.Legacy
import Runbook.Reference.Match
import Runbook.Reference.Repair
import Runbook.Run.Rehearsal
import Runbook.Token.Placeholder
import Runbook.Run.Process
import Runbook.Run.Sequential
import Runbook.Proofs.Run.Performance
import Runbook.Proofs.Run.Sequential
import Runbook.Proofs.DataPoint.Context
import Runbook.Proofs.DataPoint.Store
import Runbook.Proofs.Run.Steps
import Runbook.Proofs.Run.DataPoints
import Runbook.Run.Turns
import Runbook.Proofs.Run.Exclusion
import Runbook.Proofs.Run.Isolation
import Runbook.Proofs.Reference.Repair
import Runbook.Proofs.Run.References
import Runbook.Proofs.Run.Validated
import Runbook.Proofs.Run.Placeholders
import Runbook.Proofs.Reference.Legacy
import Runbook.Proofs.Condition.Lexeme
import Runbook.Proofs.Reference.Review
import Runbook.Proofs.Reference.Repeated
import Runbook.Proofs.Text.Blank
import Runbook.Proofs.Condition.Parse
import Runbook.Proofs.Condition.Compare
import Runbook.Proofs.Condition.Guard
import Runbook.Proofs.Reference.Migration
import Runbook.Proofs.Token.Grammar
import Runbook.Proofs.Run.Influence
import Runbook.Proofs.Workflow.Decode
import Runbook.Proofs.Run.Attempts
import Runbook.Proofs.Json.RoundTrip
import Runbook.Proofs.Files.Contents
import Runbook.Proofs.Files.Disk
import Runbook.Proofs.Storage.Shelf
import Runbook.Proofs.Storage.Knowledge
import Runbook.Proofs.Workflow.Written
import Runbook.Proofs.Validation.Written
import Runbook.Proofs.Draft.Completion
import Runbook.Proofs.Draft.Materialize
import Runbook.Proofs.Run.TimeLimit
import Runbook.Proofs.Run.Context
import Runbook.Proofs.Input.Resolved
import Runbook.Proofs.Run.Inputs
import Runbook.Proofs.Storage.Unreadable
import Runbook.Proofs.Draft.Mend
import Runbook.Proofs.Draft.Excerpt
import Runbook.Proofs.Command.Exit
import Runbook.Proofs.Token.Substitution
import Runbook.Proofs.Decimal.Integer
import Runbook.Proofs.Condition.Integer
import Runbook.Proofs.Reference.Match
import Runbook.Proofs.Reference.Usable
import Runbook.Proofs.Condition.Quoted
import Runbook.Proofs.Run.Dispatch
import Runbook.Run.Registry
import Runbook.Proofs.Run.Registry
import Runbook.Proofs.Workflow.Reread
import Runbook.Proofs.Storage.Others
import Runbook.Proofs.Validation.Tokens
import Runbook.Proofs.Input.Traverse
import Runbook.Proofs.Run.Unresolved
import Runbook.Proofs.Reference.Modelled
import Runbook.Proofs.Condition.Restart
import Runbook.Proofs.Condition.Divided
import Runbook.Proofs.Condition.Stratified
import Runbook.Proofs.Run.Knowledge
