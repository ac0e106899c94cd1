import Surface.Ordered
import Surface.Patch
import Surface.Flow
import Surface.Trace
import Surface.Atomic
import Surface.Unordered
import Surface.Text
import Surface.Utf8
import Surface.Template
import Surface.Markup
import Surface.Lines
import Surface.Hex
import Surface.Reader
import Surface.Net
import Surface.NetText
import Surface.Json
import Surface.Model.Basic
import Surface.Model.Dns
import Surface.Model.Observation
import Surface.Model.Intelligence
import Surface.Model.Report
import Surface.Exposure
import Surface.Http.Inspect
import Surface.Http.Redirects
import Surface.Http.Analyze
import Surface.Lifecycle
import Surface.Finalize
import Surface.Findings
import Surface.FindingsOrder
import Surface.Intelligence.Destination
import Surface.Intelligence.Lookup
import Surface.Intelligence.Phases
import Surface.Cli.Marks
import Surface.Cli.DefaultHtml
import Surface.Terminal
import Surface.Engine
import Surface.Scanner
import Surface.ScannerOrder
import Surface.Service.Detect
import Surface.Service.Probe
import Surface.Service.Starttls
import Surface.Tls.Certificates
import Surface.Tls.Analyze
import Surface.Stages
import Surface.DnsPhase
import Surface.Accounting
import Surface.ActiveScan
import Surface.ScanSections
import Surface.ScanScope
import Surface.Intelligence.Supplied
import Surface.Cli.Scan
import Surface.Cli.Skips
import Surface.Completed
import Surface.Dns.Message
import Surface.Dns.Axfr
import Surface.Dns.AxfrTransfer
import Surface.Dns.AxfrCheck
import Surface.Dns.AxfrCoverage
import Surface.Dns.Wildcard
import Surface.Dns.WildcardStatus
import Surface.Dns.Mail
import Surface.Dns.Baseline
import Surface.Dns.CnameChain
import Surface.Dns.Dangling
import Surface.Dns.DanglingStatus
import Surface.Dns.BaselineHosts
import Surface.Report.Serialize
import Surface.Report.Projection
import Surface.Report.Exports
import Surface.Report.Signing
import Surface.Report.Labels
import Surface.Report.Shape
import Surface.Report.RenderHtml
import Surface.Report.HtmlMarkup
import Surface.Report.RenderTerminal
import Surface.Report.TerminalLines
import Surface.Report.Selections
import Surface.Report.Diff
import Surface.Report.DiffLaws
import Surface.Report.DiffSymmetry
import Surface.Report.DiffPatch
import Surface.Report.DiffHttp
import Surface.Report.DiffWording
import Surface.Storage.Database
import Surface.Storage.History
import Surface.Storage.Retention
import Surface.Storage.Audit
import Surface.Storage.Ledger
import Surface.Storage.Representations
import Surface.Storage.Migrations
import Surface.Storage.Opening
import Surface.Storage.Backup
import Surface.Storage.Restore
import Surface.Storage.Rollback
import Surface.Storage.Publish
import Surface.Ssh.Kexinit
import Surface.Ssh.KexinitFormat
import Surface.Ssh.Packet
import Surface.Ssh.PacketFormat
import Surface.Ssh.Posture
import Surface.Ssh.Identification
import Surface.Ssh.IdentificationFormat
import Surface.NetParse
import Surface.Url
import Surface.Target
import Surface.Mask
import Surface.Intelligence.Prefix
import Surface.JsonText
import Surface.JsonRead
import Surface.Codec
import Surface.Intelligence.JsonDepth
import Surface.Intelligence.Bgp
import Surface.Intelligence.Bootstrap
import Surface.Intelligence.Clients
import Surface.Gather
import Surface.Intelligence.Fetch
import Surface.Intelligence.Registration
import Surface.Intelligence.RdapRun
import Surface.Intelligence.BgpRun
import Surface.Intelligence.RelatedRun
import Surface.Intelligence.Candidates
import Surface.Intelligence.Transparency
import Surface.Intelligence.Verification
import Surface.Intelligence.TransparencyRun
import Surface.Ssh.Analyze
import Surface.Fallible
import Surface.Distinct
import Surface.Entities
import Surface.Der
import Surface.Dns.Dnssec
import Surface.Tls.LeafCertificate
import Surface.ExposureLaws
import Surface.Ports
import Surface.Cli.FileNames
import Surface.Report.Format
import Surface.Cli.ReportFile
import Surface.Intelligence.Dkim
import Surface.TagList
import Surface.Dns.MailBlanks
import Surface.Cli.ScanRun
