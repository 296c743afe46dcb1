import SqlClauses.Config.Json
import SqlClauses.Mysql.Session
import SqlClauses.Recipe
import SqlClauses.Registry.Outline
import SqlClauses.Proofs.Template.Join
import SqlClauses.Proofs.Registry.Readings
import SqlClauses.Proofs.Statement.Fragments
import SqlClauses.Proofs.Mysql.Fragments
import SqlClauses.Proofs.Registry.History
import SqlClauses.Proofs.Mysql.Calls
import SqlClauses.Proofs.Mysql.Extension
import SqlClauses.Proofs.Condition.Literal
import SqlClauses.Proofs.Condition.Grammar
import SqlClauses.Proofs.Condition.Parsing
import SqlClauses.Proofs.Condition.Predicate
import SqlClauses.Proofs.Condition.Slots
import SqlClauses.Proofs.Condition.Truth
import SqlClauses.Proofs.Condition.Reading
import SqlClauses.Proofs.Condition.Meaning
import SqlClauses.Proofs.Values.Replace
import SqlClauses.Proofs.Values.Separation
import SqlClauses.Proofs.Condition.Following
import SqlClauses.Proofs.Condition.Conjoined
import SqlClauses.Proofs.Condition.Enforced
import SqlClauses.Proofs.Quoted.Reading
import SqlClauses.Proofs.Template.Apart
import SqlClauses.Proofs.Mysql.Literals
import SqlClauses.Proofs.Rows.Decoding
import SqlClauses.Proofs.Statement.Fields
import SqlClauses.Proofs.Mysql.Order
import SqlClauses.Proofs.Sharing.Isolation
import SqlClauses.Proofs.Script.Dropped
import SqlClauses.Proofs.Config.Written
import SqlClauses.Proofs.Registry.Shown
import SqlClauses.Proofs.Statement.Presence
import SqlClauses.Proofs.Registry.Runs
import SqlClauses.Proofs.Registry.Lifting
import SqlClauses.Proofs.Script.Splice
import SqlClauses.Proofs.Registry.Independence
import SqlClauses.Proofs.Reference.Columns
import SqlClauses.Proofs.Rows.Alignment
import SqlClauses.Proofs.Upsert.Inputs
import SqlClauses.Proofs.Mysql.Names
import SqlClauses.Proofs.Reference.Settled
import SqlClauses.Proofs.Upsert.Omitted
import SqlClauses.Proofs.Values.Literals
import SqlClauses.Proofs.Context.Calls
import SqlClauses.Proofs.Quoted.Delimited
