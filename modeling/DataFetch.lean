import DataFetch.Catalogue
import DataFetch.Connection.Operation
import DataFetch.Log.Setup
import DataFetch.Request.Model
import DataFetch.Settings.Basic
import DataFetch.Proofs.Statement.Elision
import DataFetch.Proofs.Statement.Placeholders
import DataFetch.Proofs.Condition.Grammar
import DataFetch.Proofs.Condition.Precedence
import DataFetch.Proofs.Text.Utf8
import DataFetch.Proofs.Value.PlainForm
import DataFetch.Proofs.Request.Payload
import DataFetch.Proofs.Request.RoundTrip
import DataFetch.Proofs.Validation.Combination
import DataFetch.Proofs.Validation.Lenient
import DataFetch.Proofs.Request.Grammar
import DataFetch.Proofs.Request.Masking
import DataFetch.Proofs.Condition.Recovery
import DataFetch.Proofs.Statement.Recovery
import DataFetch.Proofs.Request.Draft
import DataFetch.Proofs.Connection.Balance
import DataFetch.Proofs.Connection.Disposal
import DataFetch.Proofs.Connection.Lending
import DataFetch.Proofs.Connection.Preparation
import DataFetch.Proofs.Connection.Report
import DataFetch.Proofs.Connection.Records
import DataFetch.Proofs.Connection.Fetch
import DataFetch.Proofs.Request.Refusal
import DataFetch.Proofs.Log.Context
import DataFetch.Proofs.Connection.Scope
import DataFetch.Proofs.Connection.Sequence
import DataFetch.Proofs.Connection.Secrecy
import DataFetch.Proofs.Request.Spelling
import DataFetch.Proofs.Request.Stability
import DataFetch.Proofs.Settings.Driver
import DataFetch.Proofs.Fault.LastValue
import DataFetch.Proofs.Request.Page
import DataFetch.Proofs.Connection.Directory
import DataFetch.Proofs.Statement.Quotation
import DataFetch.Proofs.Request.Congruence
import DataFetch.Proofs.Connection.Rows
import DataFetch.Proofs.Log.Fields
