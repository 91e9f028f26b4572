import Dispatch.Charset.Decode
import Dispatch.Charset.Page.Cyrillic
import Dispatch.Charset.Page.Dos
import Dispatch.Charset.Page.Ebcdic
import Dispatch.Charset.Page.Iso
import Dispatch.Charset.Page.Mac
import Dispatch.Charset.Page.Other
import Dispatch.Charset.Page.Windows
import Dispatch.Descriptor
import Dispatch.Failure
import Dispatch.Json
import Dispatch.Level
import Dispatch.Mapper
import Dispatch.Number.Shortest
import Dispatch.Payload
import Dispatch.Pickle.Writer
import Dispatch.Proofs.Charset.Spelling
import Dispatch.Proofs.Mapper.Changing
import Dispatch.Proofs.Mapper.Escape
import Dispatch.Proofs.Mapper.HandOff
import Dispatch.Proofs.Mapper.Integrity
import Dispatch.Proofs.Mapper.Obstacle
import Dispatch.Proofs.Mapper.Outcome
import Dispatch.Proofs.Mapper.RequestLine
import Dispatch.Proofs.Mapper.Session
import Dispatch.Proofs.Mapper.Wire
import Dispatch.Proofs.Query.ClosedForm
import Dispatch.Proofs.Query.Composition
import Dispatch.Proofs.Query.Isolation
import Dispatch.Proofs.Text.Dividers
import Dispatch.Query.Assembly
import Dispatch.Request
import Dispatch.Session
import Dispatch.Settings.Basic
import Dispatch.Settings.Document
import Dispatch.Settings.Environment
import Dispatch.Template
import Dispatch.Url.Parser
import Dispatch.Url.Parts
import Dispatch.Value.Show
import Dispatch.Yaml.Grammar
import Dispatch.Yaml.Layout
import Dispatch.Proofs.Mapper.Configuring
import Dispatch.Proofs.Mapper.Fallback
import Dispatch.Pickle.Machine
import Dispatch.Proofs.Pickle.Operand
import Dispatch.Proofs.Pickle.Framing
import Dispatch.Proofs.Pickle.Draft
import Dispatch.Proofs.Pickle.Filling
import Dispatch.Proofs.Pickle.Container
import Dispatch.Proofs.Pickle.Message
import Dispatch.Proofs.Pickle.RoundTrip
import Dispatch.Proofs.Pickle.Extent
import Dispatch.Proofs.Pickle.Growth
import Dispatch.Proofs.Pickle.Cost
import Dispatch.Proofs.Mapper.Restoring
import Dispatch.Proofs.Mapper.Refusal
import Dispatch.Proofs.Mapper.Cause
import Dispatch.Proofs.Request.Headers
import Dispatch.Proofs.Settings.Document
import Dispatch.Proofs.Template.Scanning
import Dispatch.Proofs.Template.Shape
import Dispatch.Proofs.Settings.Section
import Dispatch.Proofs.Fields
import Dispatch.Proofs.Mapper.Extraction
import Dispatch.Proofs.Settings.Environment
import Dispatch.Proofs.Charset.Page
import Dispatch.Proofs.Charset.Wide
import Dispatch.Proofs.Charset.Utf7
import Dispatch.Proofs.Charset.Lossless
import Dispatch.Proofs.Method.NormalForm
import Dispatch.Proofs.Query.Shape

/-! A library that turns messages into HTTP requests, with its theory.

Three things are given from outside. The machine (`Platform`) brings the tables of the multi-byte
charsets and the room for nested calls. A value is a tree, and which of its parts are one object is
told beside it (`Pickle.Sharing`). An object of a class of its own is known by the answers of its
methods, each of which may be an error (`Object`).

Some values are not covered. A container that holds itself comes up only as an alias in a document
(`Handle.cycle`). An object of its own always refuses to be pickled, and the errors of its methods
are known by their texts alone. A map whose entries cannot be listed, a generator that gives items,
and the order in which a set shows its items are left out, and so are the threads that a mapper
may be called from.
-/
