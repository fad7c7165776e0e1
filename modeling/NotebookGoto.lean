import NotebookGoto.Folder
import NotebookGoto.Main
import NotebookGoto.Program.Server
import NotebookGoto.Proofs.Json.Tokens
import NotebookGoto.Proofs.Json.Value
import NotebookGoto.Proofs.Json.Record
import NotebookGoto.Proofs.Json.Prefix
import NotebookGoto.Proofs.Json.Magnitude
import NotebookGoto.Proofs.Json.Spelling
import NotebookGoto.Proofs.Json.Adequacy
import NotebookGoto.Proofs.Json.Nested
import NotebookGoto.Proofs.Json.Members
import NotebookGoto.Proofs.Json.Writing
import NotebookGoto.Proofs.Json.List
import NotebookGoto.Proofs.Wire
import NotebookGoto.Proofs.Wire.Order
import NotebookGoto.Proofs.Template.Leftmost
import NotebookGoto.Proofs.Template.Literal
import NotebookGoto.Proofs.Template.Jedi
import NotebookGoto.Proofs.Template.Overlap
import NotebookGoto.Proofs.Notebook.Position
import NotebookGoto.Proofs.Notebook.Source
import NotebookGoto.Proofs.Notebook.Independence
import NotebookGoto.Proofs.Notebook.ServerPath
import NotebookGoto.Proofs.Notebook.Ancestor
import NotebookGoto.Proofs.Text.LineEnd
import NotebookGoto.Proofs.Kernel.Lines
import NotebookGoto.Proofs.Kernel.Output
import NotebookGoto.Proofs.Kernel.Outcome
import NotebookGoto.Proofs.Domain.Name
import NotebookGoto.Proofs.Http.Route
import NotebookGoto.Proofs.Http.Segments
import NotebookGoto.Proofs.Http.Admission
import NotebookGoto.Proofs.Http.Dispatch
import NotebookGoto.Proofs.Http.Body
import NotebookGoto.Proofs.Program.Rendering
import NotebookGoto.Proofs.Http.Authority
import NotebookGoto.Proofs.Http.Url
import NotebookGoto.Proofs.Http.Token
import NotebookGoto.Proofs.Probe
import NotebookGoto.Proofs.Config.Check
import NotebookGoto.Proofs.Config.Routes
import NotebookGoto.Proofs.Config.Layers
import NotebookGoto.Proofs.Config.OwnToken
import NotebookGoto.Proofs.Http.Query
import NotebookGoto.Proofs.Program.Announcement
import NotebookGoto.Proofs.Http.Join
import NotebookGoto.Proofs.Http.Presentation
import NotebookGoto.Proofs.Notebook.TrailingSlash
import NotebookGoto.Proofs.CommandLine.Written
import NotebookGoto.Proofs.CommandLine.Spelling
