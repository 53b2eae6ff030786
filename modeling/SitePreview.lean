import SitePreview.CommandLine.Argument
import SitePreview.CommandLine.Options
import SitePreview.CommandLine.Program
import SitePreview.CommandLine.Request
import SitePreview.CommandLine.Table
import SitePreview.CommandLine.Usage
import SitePreview.Conf.Encoding
import SitePreview.Conf.Grammar
import SitePreview.Conf.Lexeme
import SitePreview.Conf.Node
import SitePreview.Conf.Parser
import SitePreview.Conf.Scanner
import SitePreview.Conf.Source
import SitePreview.Conf.Token
import SitePreview.Fields.BuiltRecord
import SitePreview.Fields.Checked
import SitePreview.Fields.Issue
import SitePreview.Fields.Printed
import SitePreview.Fields.RuleChoice
import SitePreview.Fields.RuleRecord
import SitePreview.Fields.Value
import SitePreview.Files.Canonical
import SitePreview.Files.Change
import SitePreview.Files.Disk
import SitePreview.Files.Entry
import SitePreview.Files.Path
import SitePreview.Log.Channel
import SitePreview.Log.Files
import SitePreview.Log.Level
import SitePreview.Log.Reports
import SitePreview.Log.Uncaught
import SitePreview.Main
import SitePreview.Pattern.Charset
import SitePreview.Pattern.Compile
import SitePreview.Pattern.Fault
import SitePreview.Pattern.Matcher
import SitePreview.Pattern.Parser
import SitePreview.Pattern.Reader
import SitePreview.Pattern.Syntax
import SitePreview.PlainPlatform
import SitePreview.Platform
import SitePreview.Proofs.Answers
import SitePreview.Proofs.Attendance
import SitePreview.Proofs.BaseDirectory
import SitePreview.Proofs.BraceCounts
import SitePreview.Proofs.BuiltConfig
import SitePreview.Proofs.CanonicalPath
import SitePreview.Proofs.ConfigOutcome
import SitePreview.Proofs.ConfigSearch
import SitePreview.Proofs.Containment
import SitePreview.Proofs.Decoding
import SitePreview.Proofs.Derivations
import SitePreview.Proofs.DryRun
import SitePreview.Proofs.Exchange
import SitePreview.Proofs.FirstServer
import SitePreview.Proofs.Following
import SitePreview.Proofs.HeadLines
import SitePreview.Proofs.Histories
import SitePreview.Proofs.IndexRequests
import SitePreview.Proofs.LetterCase
import SitePreview.Proofs.Lexemes
import SitePreview.Proofs.LexicalJoin
import SitePreview.Proofs.LifeCycle
import SitePreview.Proofs.ListenValue
import SitePreview.Proofs.LocatedConfig
import SitePreview.Proofs.LocationPrecedence
import SitePreview.Proofs.NulFree
import SitePreview.Proofs.OperationOutcome
import SitePreview.Proofs.OperationSteps
import SitePreview.Proofs.ParseFailure
import SitePreview.Proofs.ParseOutcome
import SitePreview.Proofs.ParserSteps
import SitePreview.Proofs.PathNames
import SitePreview.Proofs.PrintedTable
import SitePreview.Proofs.ReadingOrder
import SitePreview.Proofs.Recovery
import SitePreview.Proofs.RelativePaths
import SitePreview.Proofs.RequestSegments
import SitePreview.Proofs.RequestSequences
import SitePreview.Proofs.ResolutionOrder
import SitePreview.Proofs.ResponseFraming
import SitePreview.Proofs.Restart
import SitePreview.Proofs.RuleArguments
import SitePreview.Proofs.RuleOrder
import SitePreview.Proofs.Seams
import SitePreview.Proofs.Sections
import SitePreview.Proofs.Serialization
import SitePreview.Proofs.ServedFiles
import SitePreview.Proofs.SessionEvents
import SitePreview.Proofs.ShownPath
import SitePreview.Proofs.StartOutcome
import SitePreview.Proofs.StartSettings
import SitePreview.Proofs.TargetPaths
import SitePreview.Proofs.TextTokens
import SitePreview.Proofs.Traffic
import SitePreview.Routing.ListenPort
import SitePreview.Routing.LocationRule
import SitePreview.Routing.ServerConfig
import SitePreview.Routing.Summary
import SitePreview.Server.Attendance
import SitePreview.Server.Completion
import SitePreview.Server.Connection
import SitePreview.Server.History
import SitePreview.Server.Interleaving
import SitePreview.Server.LifeCycle
import SitePreview.Server.PortOwner
import SitePreview.Server.Registry
import SitePreview.Server.Reply
import SitePreview.Server.Request
import SitePreview.Server.Session
import SitePreview.Server.Status
import SitePreview.Server.Traffic
import SitePreview.Serving.HostAddress
import SitePreview.Serving.MediaType
import SitePreview.Serving.RequestHead
import SitePreview.Serving.Resolve
import SitePreview.Serving.Response
import SitePreview.Serving.SafeJoin
import SitePreview.Serving.Target
import SitePreview.Text.Basic
import SitePreview.Text.Blank
import SitePreview.Text.Case
import SitePreview.Text.CaseTable
import SitePreview.Text.Codec
import SitePreview.Text.DoubleByte
import SitePreview.Text.IdentifierTable
import SitePreview.Text.Latin
import SitePreview.Text.Letter
import SitePreview.Text.LetterTable
import SitePreview.Text.Percent
import SitePreview.Text.PrintTable
import SitePreview.Text.Quoted
import SitePreview.Text.UpperTable
import SitePreview.Text.Utf16
import SitePreview.Text.Utf8
import SitePreview.Text.Windows
import SitePreview.Text.WrittenNumber
import SitePreview.Workspace.Locate
import SitePreview.Workspace.Settings
import SitePreview.Workspace.Walk
