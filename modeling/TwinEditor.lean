import TwinEditor.Autosave.Mailbox
import TwinEditor.Autosave.Run
import TwinEditor.Main
import TwinEditor.Markdown.BlockPrinter
import TwinEditor.Markdown.OptionsJson
import TwinEditor.Markdown.Reader.Document
import TwinEditor.Markdown.TreeJson
import TwinEditor.Outline
import TwinEditor.Proofs.Autosave.Exchange
import TwinEditor.Proofs.Autosave.Flight
import TwinEditor.Proofs.Autosave.Outcome
import TwinEditor.Proofs.Autosave.Phase
import TwinEditor.Proofs.Autosave.Sequence
import TwinEditor.Proofs.RichText.Lossless
import TwinEditor.Proofs.Session.Closing
import TwinEditor.Proofs.Session.Content
import TwinEditor.Proofs.Store.Network
import TwinEditor.RichText.Conversion
import TwinEditor.RichText.DocumentJson
import TwinEditor.Session
import TwinEditor.SettingsFile
import TwinEditor.Store.Response
import TwinEditor.Store.Shelf
import TwinEditor.Sync.Coordinator
import TwinEditor.Proofs.RichText.Alternation
import TwinEditor.Proofs.Sync.Nested
import TwinEditor.Proofs.Sync.Coherence
import TwinEditor.Proofs.Sync.Reentrance
import TwinEditor.Proofs.Markdown.Stability
import TwinEditor.Proofs.Markdown.Columns
import TwinEditor.Proofs.Markdown.LineStart
import TwinEditor.Proofs.Markdown.Containers
import TwinEditor.Proofs.Markdown.Leaves
import TwinEditor.Proofs.Markdown.PlainText
import TwinEditor.Proofs.Markdown.Escaping
import TwinEditor.Proofs.Markdown.PlainNode
import TwinEditor.Proofs.Markdown.PlainTree
import TwinEditor.Proofs.Json.Documents
import TwinEditor.Proofs.Markdown.BlockStructure
import TwinEditor.Proofs.Markdown.Normalization
import TwinEditor.Proofs.Markdown.WellFormed
import TwinEditor.Proofs.Outline.Identifiers
import TwinEditor.Proofs.Session.Resolution
import TwinEditor.Proofs.Settings.File
import TwinEditor.Proofs.Outline.Levels
import TwinEditor.Proofs.RichText.Runs
import TwinEditor.Proofs.RichText.TextContent
import TwinEditor.Proofs.Markdown.Flanking
import TwinEditor.Proofs.Markdown.TextAndCode
import TwinEditor.Proofs.Markdown.InlineCode
import TwinEditor.Proofs.Markdown.InlineLink
import TwinEditor.Proofs.Markdown.ListSeparation
import TwinEditor.Proofs.Markdown.TableGrid
import TwinEditor.Proofs.Autosave.Coalescing
import TwinEditor.Proofs.Autosave.Backstop
import TwinEditor.Proofs.Autosave.Announcements
import TwinEditor.Proofs.Markdown.BlockEdges
import TwinEditor.Proofs.Markdown.ContainerPrefixes
import TwinEditor.Proofs.Markdown.SplitOffsets
