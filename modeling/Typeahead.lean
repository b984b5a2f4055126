import Typeahead.Action
import Typeahead.CompletionList
import Typeahead.Config
import Typeahead.Document
import Typeahead.Event
import Typeahead.Fault
import Typeahead.Fragment
import Typeahead.Fragment.Dialect
import Typeahead.Language.Detected
import Typeahead.Language.Resolver
import Typeahead.Moment
import Typeahead.Number.Decimal
import Typeahead.Number.Shortest
import Typeahead.Proofs.Action
import Typeahead.Proofs.Document.Lines
import Typeahead.Proofs.Document.Offset
import Typeahead.Proofs.Text.Blank
import Typeahead.Proofs.Text.Break
import Typeahead.Proofs.Text.Lines
import Typeahead.Proofs.Text.Split
import Typeahead.Proofs.Text.Subpart
import Typeahead.Proofs.Text.Utf8
import Typeahead.Table
import Typeahead.Resource.Bundle
import Typeahead.Resource.Disk
import Typeahead.Resource.Loader
import Typeahead.Resource.Path
import Typeahead.RootLog
import Typeahead.Template.Catalogue
import Typeahead.Template.Fill
import Typeahead.Template.Kind
import Typeahead.Template.Layout
import Typeahead.Template.Layout.Number
import Typeahead.Template.Member
import Typeahead.Template.Part
import Typeahead.Template.Subject
import Typeahead.Text.Character
import Typeahead.Text.Encoding
import Typeahead.Text.Letter
import Typeahead.Text.Lines
import Typeahead.Text.Numeral
import Typeahead.Text.Quoted
import Typeahead.Value
import Typeahead.Word
import Typeahead.WordList
import Typeahead.Workspace
import Typeahead.Workspace.Completion
import Typeahead.Proofs.Resource.Loading
import Typeahead.Proofs.WordList.Reading
import Typeahead.Proofs.Workspace.Lists
import Typeahead.Proofs.WordList.History
import Typeahead.Proofs.WordList.Lines
import Typeahead.Proofs.WordList.Naming
import Typeahead.Proofs.Collaborators
import Typeahead.Proofs.Fragment.Locate
import Typeahead.Proofs.Workspace.Stages
import Typeahead.Proofs.Word
import Typeahead.Proofs.Workspace.Completion
import Typeahead.Proofs.Document.Typing
import Typeahead.Proofs.Workspace.Requests
import Typeahead.Proofs.Workspace.Narrowing
import Typeahead.Proofs.Resource.Address
import Typeahead.Proofs.WordList.Availability
import Typeahead.Proofs.Document.Between
import Typeahead.Proofs.Workspace.PlainText
import Typeahead.Proofs.Workspace.CurrentLine
import Typeahead.Proofs.Workspace.Mirrors
import Typeahead.Proofs.Workspace.Transparency
import Typeahead.Proofs.Asked
import Typeahead.Proofs.Workspace.Calls
import Typeahead.Proofs.Workspace.Overlooked
import Typeahead.Proofs.Workspace.Registration
import Typeahead.Proofs.Workspace.Failure
import Typeahead.Proofs.Workspace.Moves
import Typeahead.Proofs.Workspace.Shared
import Typeahead.Proofs.Workspace.Steps
import Typeahead.Proofs.Workspace.Loads
import Typeahead.Proofs.Workspace.Sharing
import Typeahead.Proofs.Document.Columns
import Typeahead.Proofs.Fragment.Nesting
import Typeahead.Proofs.Workspace.Scanning
import Typeahead.Proofs.Text.Numeral
import Typeahead.Proofs.Document.Coordinates
import Typeahead.Proofs.WordList.LineBreaks
import Typeahead.Proofs.Workspace.Parts
import Typeahead.Proofs.Language.Making
import Typeahead.Proofs.Workspace.Detectors
import Typeahead.Proofs.Resource.Path
import Typeahead.Proofs.Resource.Origin
import Typeahead.Proofs.Language.Code
import Typeahead.Proofs.Language.Missing
import Typeahead.Proofs.Workspace.Inquiries
import Typeahead.Proofs.RootLog
import Typeahead.Proofs.Workspace.Logging
