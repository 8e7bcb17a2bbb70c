import StaticSite.Main
import StaticSite.Proofs.Text.ByteOrder
import StaticSite.Proofs.Text.Search
import StaticSite.Proofs.Text.Occurrence
import StaticSite.Proofs.Text.Letters
import StaticSite.Proofs.Html.Escape
import StaticSite.Proofs.Html.Reading
import StaticSite.Proofs.Html.Tags
import StaticSite.Proofs.Html.Ids
import StaticSite.Proofs.SortedMap
import StaticSite.Proofs.Json.RoundTrip
import StaticSite.Proofs.FileTree.Entry
import StaticSite.Proofs.FileTree.Directory
import StaticSite.Proofs.FileTree.Making
import StaticSite.Proofs.Manifest
import StaticSite.Proofs.Site
import StaticSite.Proofs.Build.Refusal
import StaticSite.Proofs.Build.Writing
import StaticSite.Proofs.Build.Run
import StaticSite.Proofs.Build.History
import StaticSite.Proofs.Build.Cache
import StaticSite.Proofs.Build.Recovery
import StaticSite.Proofs.Build.Agreement
import StaticSite.Proofs.Build.ManifestFile
import StaticSite.Proofs.Build.Frame
import StaticSite.Proofs.Toml.Merge
import StaticSite.Proofs.Toml.Paths
import StaticSite.Proofs.Toml.Layering
import StaticSite.Proofs.Toml.Document
import StaticSite.Proofs.Config.Decode
import StaticSite.Proofs.Config.Overlay
import StaticSite.Proofs.Config.Strictness
import StaticSite.Proofs.Config.Override
import StaticSite.Proofs.Config.Defaults
import StaticSite.Proofs.Config.Version
import StaticSite.Proofs.Config.Validity
import StaticSite.Proofs.Config.Holder
import StaticSite.Proofs.Links
import StaticSite.Proofs.LinkErrors
import StaticSite.Proofs.Page.Script
import StaticSite.Proofs.Page.Stock
import StaticSite.Proofs.Page.Sections
import StaticSite.Proofs.Page.Relaxing
import StaticSite.Proofs.Shell
import StaticSite.Proofs.Navigation
import StaticSite.Proofs.BaseUrl
import StaticSite.Proofs.Anchor
import StaticSite.Proofs.Archive
import StaticSite.Proofs.HostLink
import StaticSite.Proofs.Report.Json
import StaticSite.Proofs.Report.Lines
