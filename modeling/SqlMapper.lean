import SqlMapper.Binding.MapperRegistry
import SqlMapper.Configuration.Document
import SqlMapper.Session.Opening
import SqlMapper.Value.Json
import SqlMapper.Proofs.Batch.Failure
import SqlMapper.Proofs.Batch.Reading
import SqlMapper.Proofs.Session.Custody
import SqlMapper.Proofs.Session.Keeping
import SqlMapper.Proofs.Statements.Cursor
import SqlMapper.Proofs.Statements.Ledger
import SqlMapper.Proofs.Statements.Account
import SqlMapper.Proofs.Transaction.Manual
import SqlMapper.Proofs.Transaction.Course
import SqlMapper.Proofs.Transaction.Decided
import SqlMapper.Proofs.Transaction.Opening
import SqlMapper.Proofs.Session.Serving
import SqlMapper.Proofs.Statements.Provenance
import SqlMapper.Proofs.Statements.Given
import SqlMapper.Proofs.Session.Attending
import SqlMapper.Proofs.Statements.Settings
import SqlMapper.Proofs.Statements.Values
import SqlMapper.Proofs.Batch.Closing
import SqlMapper.Proofs.Agrees
import SqlMapper.Proofs.Database.Alike
import SqlMapper.Proofs.Session.Alike
import SqlMapper.Proofs.Session.Paired
import SqlMapper.Proofs.Session.Views
import SqlMapper.Proofs.Reading.Pulling
import SqlMapper.Proofs.Contract.Hygiene
import SqlMapper.Proofs.Contract.Resolution
import SqlMapper.Proofs.Binding.Calling
import SqlMapper.Proofs.Binding.Naming
import SqlMapper.Proofs.Sql.Template
import SqlMapper.Proofs.Binding.Registering
import SqlMapper.Proofs.Binding.Shaping
import SqlMapper.Proofs.Session.Ended
import SqlMapper.Proofs.Session.KeyOrder
import SqlMapper.Proofs.Batch.KeyRows
import SqlMapper.Proofs.Reading.Window
import SqlMapper.Proofs.Session.Literal
import SqlMapper.Proofs.Batch.Selecting
import SqlMapper.Proofs.Result.Grouping
import SqlMapper.Proofs.Binding.Holding
import SqlMapper.Proofs.Parameter.Writing
import SqlMapper.Proofs.Session.Writing
import SqlMapper.Proofs.Session.Outputs
import SqlMapper.Proofs.Configuration.Assembly
import SqlMapper.Proofs.Parameter.Refusal
import SqlMapper.Proofs.Value.Json
import SqlMapper.Proofs.Result.CamelCase
import SqlMapper.Proofs.Value.InPlace
import SqlMapper.Proofs.Value.PartialEquivalence
import SqlMapper.Proofs.Contract.Routes
import SqlMapper.Proofs.Contract.Substitution
