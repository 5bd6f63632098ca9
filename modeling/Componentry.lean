import Componentry.Loading.Observer
import Componentry.Script.Console
import Componentry.Proofs.Markup.Escaping
import Componentry.Proofs.Markup.NormalForm
import Componentry.Proofs.Markup.WrittenParts
import Componentry.Proofs.Markup.WrittenTokens
import Componentry.Proofs.Markup.RoundTrip
import Componentry.Proofs.Loading.Key
import Componentry.Proofs.Loading.Outcome
import Componentry.Proofs.Loading.Step
import Componentry.Proofs.Loading.Coherence
import Componentry.Proofs.Loading.Session
import Componentry.Proofs.Loading.Naming
import Componentry.Proofs.Declaration.Site
import Componentry.Proofs.Declaration.Record
import Componentry.Proofs.Declaration.Extraction
import Componentry.Proofs.Script.Printing
import Componentry.Proofs.Script.Reading
import Componentry.Proofs.Declaration.Form
import Componentry.Proofs.Declaration.Layout
import Componentry.Proofs.Declaration.ParameterList
import Componentry.Proofs.Script.RoundTrip
import Componentry.Proofs.Script.Height
import Componentry.Proofs.Script.Depth
import Componentry.Proofs.Script.Rendering
import Componentry.Proofs.Script.Spelling
import Componentry.Proofs.Declaration.Steady
import Componentry.Proofs.Loading.Completion
import Componentry.Proofs.Loading.Independence
import Componentry.Proofs.Script.Tallest
import Componentry.Proofs.Element.Activation
import Componentry.Proofs.Script.Course
import Componentry.Proofs.Element.Nesting
import Componentry.Proofs.Element.Member
import Componentry.Proofs.Loading.Observation
import Componentry.Proofs.Loading.Delivery
import Componentry.Proofs.Loading.Act
import Componentry.Proofs.Loading.Replay
import Componentry.Proofs.Loading.Request
import Componentry.Proofs.Loading.Sibling
import Componentry.Proofs.Markup.Progress
import Componentry.Proofs.Markup.Shape
import Componentry.Proofs.Declaration.ListGrammar
import Componentry.Proofs.Markup.Content
import Componentry.Proofs.Script.Scoping
import Componentry.Proofs.Script.Reach
import Componentry.Proofs.Element.Change
import Componentry.Proofs.Element.Untouched
import Componentry.Proofs.Element.Notice
import Componentry.Proofs.Element.Synthesis
import Componentry.Proofs.Script.Locality
import Componentry.Proofs.Script.Content
import Componentry.Proofs.Text.Bytes
import Componentry.Proofs.Text.Case
import Componentry.Proofs.Script.Position
import Componentry.Proofs.Loading.Scanning
import Componentry.Proofs.Declaration.Hyphenation
import Componentry.Proofs.Markup.StartTag
import Componentry.Proofs.Markup.Cursor
import Componentry.Proofs.Loading.FreshKey
import Componentry.Proofs.Declaration.Grouping
import Componentry.Proofs.Declaration.Reserved
