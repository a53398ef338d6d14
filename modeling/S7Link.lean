import S7Link.Address.Fault
import S7Link.Address.Reader
import S7Link.Address.Spelling
import S7Link.Address.Writer
import S7Link.Area
import S7Link.Binary
import S7Link.Byte
import S7Link.Controller.Job
import S7Link.Controller.Memory
import S7Link.Controller.Service
import S7Link.DataType
import S7Link.Decimal
import S7Link.Fault
import S7Link.Frame.Basic
import S7Link.Frame.Header
import S7Link.Plan.Batching
import S7Link.Plan.Grouping
import S7Link.Plan.Read
import S7Link.Plan.Write
import S7Link.Reply.Basic
import S7Link.Reply.Entry
import S7Link.Reply.Items
import S7Link.Reply.Records
import S7Link.Request.Limits
import S7Link.Request.Read
import S7Link.Request.Specification
import S7Link.Request.Write
import S7Link.Session.Basic
import S7Link.Session.Call
import S7Link.Session.Calls
import S7Link.Session.Event
import S7Link.Session.Transport
import S7Link.Status
import S7Link.Stream.Exchange
import S7Link.Stream.Script
import S7Link.Tag.Basic
import S7Link.Tag.Order
import S7Link.Text.Basic
import S7Link.Text.Quoted
import S7Link.Text.Encoding
import S7Link.Value.Basic
import S7Link.Value.Codec
import S7Link.Value.Fits
import S7Link.Proofs.Outcome
import S7Link.Proofs.Plan.Cut
import S7Link.Proofs.Value.Accepted
import S7Link.Proofs.Value.Payload
import S7Link.Proofs.Plan.Grouping
import S7Link.Proofs.Plan.Items
import S7Link.Proofs.Plan.Neighbours
import S7Link.Proofs.Plan.WireSize
import S7Link.Proofs.Request.Accepted
import S7Link.Proofs.Plan.Sendable
import S7Link.Proofs.Plan.FewestBatches
import S7Link.Proofs.Plan.RoundTrips
import S7Link.Proofs.Controller.Addressed
import S7Link.Proofs.Controller.Cells
import S7Link.Proofs.Frame.Sections
import S7Link.Proofs.Request.Frames
import S7Link.Proofs.Frame.Accepted
import S7Link.Proofs.Frame.Headers
import S7Link.Proofs.Reply.Lookups
import S7Link.Proofs.Reply.Places
import S7Link.Proofs.Reply.Entries
import S7Link.Proofs.Reply.Grammar
import S7Link.Proofs.Controller.Answers
import S7Link.Proofs.Plan.Extract
import S7Link.Proofs.Controller.ReadBack
import S7Link.Proofs.Controller.Jobs
import S7Link.Proofs.Request.Layout
import S7Link.Proofs.Controller.WriteEffect
import S7Link.Proofs.Plan.Planned
import S7Link.Proofs.Plan.Agreement
import S7Link.Proofs.Plan.Isolation
import S7Link.Proofs.Session.References
import S7Link.Proofs.Session.Unplanned
import S7Link.Proofs.Session.Runs
import S7Link.Proofs.Session.Loop
import S7Link.Proofs.Session.Calls
import S7Link.Proofs.Session.Accounts
import S7Link.Proofs.Session.Attribution
import S7Link.Proofs.Plan.Typing
import S7Link.Proofs.Session.Refinement
import S7Link.Proofs.Value.RoundTrip
import S7Link.Proofs.Controller.Stored
import S7Link.Proofs.Controller.Serving
import S7Link.Proofs.Session.ReadAfterWrite
import S7Link.Proofs.Value.Rewritten
import S7Link.Proofs.Address.Numbers
import S7Link.Proofs.Address.Parts
import S7Link.Proofs.Address.Grammar
import S7Link.Proofs.Address.Written
import S7Link.Proofs.Stream.Supply
import S7Link.Proofs.Stream.Frames
import S7Link.Proofs.Stream.Portions
import S7Link.Proofs.Stream.Endings
import S7Link.Proofs.Tag.Order
import S7Link.Proofs.Reply.Lengths
import S7Link.Proofs.Value.Lookups
import S7Link.Proofs.Plan.Lookups
import S7Link.Proofs.Session.Unreached
import S7Link.Proofs.Controller.Counting
import S7Link.Proofs.Session.GroupedReads
