import StaticBlog.Code.FirstLine
import StaticBlog.Code.Grammars
import StaticBlog.Code.Highlighted
import StaticBlog.Code.Styled
import StaticBlog.Collection.Collections
import StaticBlog.CommandLine.Arguments
import StaticBlog.CommandLine.Run
import StaticBlog.Config.Load
import StaticBlog.Config.Setting
import StaticBlog.Config.Site
import StaticBlog.Date.Civil
import StaticBlog.Date.Format
import StaticBlog.Date.Moment
import StaticBlog.Date.Parse
import StaticBlog.Decimal.Binary64
import StaticBlog.Decimal.Numeral
import StaticBlog.Dict
import StaticBlog.Disk.Access
import StaticBlog.Disk.Basic
import StaticBlog.Disk.Walk
import StaticBlog.Html.Escape
import StaticBlog.Html.Page
import StaticBlog.Json.Basic
import StaticBlog.Json.Number
import StaticBlog.Json.Parse
import StaticBlog.Main
import StaticBlog.Markdown.Blocks
import StaticBlog.Markdown.Definition
import StaticBlog.Markdown.Emphasis
import StaticBlog.Markdown.Entity
import StaticBlog.Markdown.Event
import StaticBlog.Markdown.Html
import StaticBlog.Markdown.Line
import StaticBlog.Markdown.LineStart
import StaticBlog.Markdown.Names
import StaticBlog.Markdown.Node
import StaticBlog.Markdown.Outline
import StaticBlog.Markdown.Page
import StaticBlog.Markdown.Paragraph
import StaticBlog.Markdown.Place
import StaticBlog.Markdown.Repair
import StaticBlog.Markdown.RunningText
import StaticBlog.Markdown.Setting
import StaticBlog.Markdown.Tag
import StaticBlog.Markdown.Verbatim
import StaticBlog.Path
import StaticBlog.Post.Basic
import StaticBlog.Post.FrontMatter
import StaticBlog.Post.Parse
import StaticBlog.Post.Permalink
import StaticBlog.Post.Preview
import StaticBlog.Post.Slug
import StaticBlog.Post.Value
import StaticBlog.Proofs.Code.PlainBlock
import StaticBlog.Proofs.Collection.Archive
import StaticBlog.Proofs.Collection.Counts
import StaticBlog.Proofs.Collection.Listing
import StaticBlog.Proofs.Collection.Newest
import StaticBlog.Proofs.Date.Clock
import StaticBlog.Proofs.Date.Cutting
import StaticBlog.Proofs.Date.Exchange
import StaticBlog.Proofs.Date.Meaning
import StaticBlog.Proofs.Date.Order
import StaticBlog.Proofs.Date.Spelling
import StaticBlog.Proofs.Decimal.Rounding
import StaticBlog.Proofs.Decimal.Shortest
import StaticBlog.Proofs.Dict
import StaticBlog.Proofs.Disk.Depth
import StaticBlog.Proofs.Disk.Filling
import StaticBlog.Proofs.Disk.Follow
import StaticBlog.Proofs.Disk.Growth
import StaticBlog.Proofs.Disk.Likeness
import StaticBlog.Proofs.Disk.Removal
import StaticBlog.Proofs.Disk.Soundness
import StaticBlog.Proofs.Disk.Tour
import StaticBlog.Proofs.Disk.Trail
import StaticBlog.Proofs.Disk.Tree
import StaticBlog.Proofs.Disk.Walk
import StaticBlog.Proofs.Html.Elements
import StaticBlog.Proofs.Html.Markup
import StaticBlog.Proofs.Markdown.Closing
import StaticBlog.Proofs.Markdown.Escapes
import StaticBlog.Proofs.Markdown.Fenced
import StaticBlog.Proofs.Markdown.FencedRepair
import StaticBlog.Proofs.Markdown.Flat
import StaticBlog.Proofs.Markdown.Headings
import StaticBlog.Proofs.Markdown.Highlighting
import StaticBlog.Proofs.Markdown.Lines
import StaticBlog.Proofs.Markdown.Mended
import StaticBlog.Proofs.Markdown.OutlineShape
import StaticBlog.Proofs.Markdown.PlainBlocks
import StaticBlog.Proofs.Markdown.RepairedLines
import StaticBlog.Proofs.Markdown.Resolution
import StaticBlog.Proofs.Markdown.Shape
import StaticBlog.Proofs.Markdown.Streams
import StaticBlog.Proofs.Path.Below
import StaticBlog.Proofs.Post.CustomFields
import StaticBlog.Proofs.Post.Excerpts
import StaticBlog.Proofs.Post.Permalinks
import StaticBlog.Proofs.Post.Scaffold
import StaticBlog.Proofs.Post.Sections
import StaticBlog.Proofs.Post.Shown
import StaticBlog.Proofs.Post.Slugs
import StaticBlog.Proofs.Server.Requests
import StaticBlog.Proofs.Site.Clean
import StaticBlog.Proofs.Site.Containment
import StaticBlog.Proofs.Site.Contents
import StaticBlog.Proofs.Site.Drafts
import StaticBlog.Proofs.Site.Files
import StaticBlog.Proofs.Site.HomePages
import StaticBlog.Proofs.Site.HomePosts
import StaticBlog.Proofs.Site.Inventory
import StaticBlog.Proofs.Site.LabelCounts
import StaticBlog.Proofs.Site.Labels
import StaticBlog.Proofs.Site.Links
import StaticBlog.Proofs.Site.Loading
import StaticBlog.Proofs.Site.Navigation
import StaticBlog.Proofs.Site.NewPost
import StaticBlog.Proofs.Site.Overlay
import StaticBlog.Proofs.Site.Pages
import StaticBlog.Proofs.Site.PostFiles
import StaticBlog.Proofs.Site.Reading
import StaticBlog.Proofs.Site.Repetition
import StaticBlog.Proofs.Site.Replay
import StaticBlog.Proofs.Site.Runs
import StaticBlog.Proofs.Site.Steps
import StaticBlog.Proofs.Site.Unseen
import StaticBlog.Proofs.Site.Writing
import StaticBlog.Proofs.Template.Composition
import StaticBlog.Proofs.Template.Dates
import StaticBlog.Proofs.Template.EntryOrder
import StaticBlog.Proofs.Template.FreeNames
import StaticBlog.Proofs.Template.Integers
import StaticBlog.Proofs.Template.NestedEntries
import StaticBlog.Proofs.Template.Pairing
import StaticBlog.Proofs.Template.Parsing
import StaticBlog.Proofs.Template.Ranges
import StaticBlog.Proofs.Template.Recovery
import StaticBlog.Proofs.Template.Scanning
import StaticBlog.Proofs.Template.WellPaired
import StaticBlog.Proofs.Text.ByteOrder
import StaticBlog.Proofs.Text.Digits
import StaticBlog.Proofs.Text.Lines
import StaticBlog.Proofs.Text.Percent
import StaticBlog.Proofs.Text.Pieces
import StaticBlog.Proofs.Text.Search
import StaticBlog.Proofs.Text.Substitution
import StaticBlog.Proofs.Toc.Anchors
import StaticBlog.Proofs.Toc.Canonical
import StaticBlog.Proofs.Toc.Nesting
import StaticBlog.Proofs.Url.Segments
import StaticBlog.Proofs.Yaml.JsonForm
import StaticBlog.Proofs.Yaml.LineTree
import StaticBlog.Proofs.Yaml.Lines
import StaticBlog.Proofs.Yaml.PlainText
import StaticBlog.Proofs.Yaml.Quoted
import StaticBlog.Server.Resolve
import StaticBlog.Site.Basic
import StaticBlog.Site.Build
import StaticBlog.Site.Error
import StaticBlog.Site.Notice
import StaticBlog.Site.Pages
import StaticBlog.Site.Scaffold
import StaticBlog.Site.Watched
import StaticBlog.Site.Work
import StaticBlog.Template.Context
import StaticBlog.Template.Render
import StaticBlog.Template.Token
import StaticBlog.Template.Tree
import StaticBlog.Template.Value
import StaticBlog.Text.Blank
import StaticBlog.Text.Classes
import StaticBlog.Text.Digits
import StaticBlog.Text.LetterCase
import StaticBlog.Text.Lines
import StaticBlog.Text.Percent
import StaticBlog.Text.Quoted
import StaticBlog.Text.Romanised
import StaticBlog.Text.Search
import StaticBlog.Theme.Assets
import StaticBlog.Theme.Standard
import StaticBlog.Theme.Stylesheet
import StaticBlog.Theme.Templates
import StaticBlog.Toc.Anchor
import StaticBlog.Toc.Nested
import StaticBlog.Toml.Moment
import StaticBlog.Toml.Number
import StaticBlog.Toml.Parse
import StaticBlog.Toml.Text
import StaticBlog.Toml.Value
import StaticBlog.Url
import StaticBlog.Yaml.Cursor
import StaticBlog.Yaml.Node
import StaticBlog.Yaml.Plain
import StaticBlog.Yaml.Scalar
import StaticBlog.Yaml.Tag
import StaticBlog.Yaml.Token
import StaticBlog.Yaml.Value
