import Enrollment.Account.Assertion
import Enrollment.Account.Failure
import Enrollment.Account.Group
import Enrollment.Account.Login
import Enrollment.Account.Outcome
import Enrollment.Account.Right
import Enrollment.Account.Timestamp
import Enrollment.Account.User
import Enrollment.Cli.Command
import Enrollment.Cli.Grammar
import Enrollment.Cli.Run
import Enrollment.Cli.Supply
import Enrollment.Credential.Derivation
import Enrollment.Credential.Digest
import Enrollment.Credential.Hash
import Enrollment.Credential.Password
import Enrollment.Directory.Layout
import Enrollment.Directory.Lookup
import Enrollment.Directory.Session
import Enrollment.Directory.Snapshot
import Enrollment.Directory.Tables
import Enrollment.Json.Basic
import Enrollment.Json.Reader
import Enrollment.Json.Shortest
import Enrollment.Json.Writer
import Enrollment.Locale.Language
import Enrollment.Locale.Resolver
import Enrollment.Locale.Tag
import Enrollment.Locale.TimezoneNames
import Enrollment.Log.Context
import Enrollment.Log.Event
import Enrollment.Mail.Address
import Enrollment.Mail.EncodedWord
import Enrollment.Mail.Header
import Enrollment.Mail.Message
import Enrollment.Mail.Mime
import Enrollment.Mail.Outbox
import Enrollment.Mail.Server
import Enrollment.Main
import Enrollment.Notice.Compose
import Enrollment.Notice.Wording
import Enrollment.Policy.Configuration
import Enrollment.Policy.Key
import Enrollment.Policy.Reading
import Enrollment.Proofs.ActivationLinks
import Enrollment.Proofs.ActivationMail
import Enrollment.Proofs.ActivationTokens
import Enrollment.Proofs.Answers
import Enrollment.Proofs.Ascii
import Enrollment.Proofs.Atomicity
import Enrollment.Proofs.Closing
import Enrollment.Proofs.CommandLines
import Enrollment.Proofs.ConfigurationMap
import Enrollment.Proofs.Consistency
import Enrollment.Proofs.Consulting
import Enrollment.Proofs.Countries
import Enrollment.Proofs.Credentials
import Enrollment.Proofs.Decisions
import Enrollment.Proofs.Deeds
import Enrollment.Proofs.DefaultGroup
import Enrollment.Proofs.Drafting
import Enrollment.Proofs.EffectOrder
import Enrollment.Proofs.EmailCheck
import Enrollment.Proofs.Endings
import Enrollment.Proofs.ExitStatus
import Enrollment.Proofs.ExternalMail
import Enrollment.Proofs.Faults
import Enrollment.Proofs.GroupQuestions
import Enrollment.Proofs.Growth
import Enrollment.Proofs.HashTexts
import Enrollment.Proofs.Heeding
import Enrollment.Proofs.History
import Enrollment.Proofs.HtmlMail
import Enrollment.Proofs.Idempotence
import Enrollment.Proofs.Kept
import Enrollment.Proofs.Keys
import Enrollment.Proofs.Languages
import Enrollment.Proofs.Linked
import Enrollment.Proofs.LocaleTags
import Enrollment.Proofs.LoginRule
import Enrollment.Proofs.LostRace
import Enrollment.Proofs.LostWrites
import Enrollment.Proofs.Mailing
import Enrollment.Proofs.Memberships
import Enrollment.Proofs.Nesting
import Enrollment.Proofs.NewAccounts
import Enrollment.Proofs.Noninterference
import Enrollment.Proofs.Notices
import Enrollment.Proofs.Numerals
import Enrollment.Proofs.Outcomes
import Enrollment.Proofs.PeerStoring
import Enrollment.Proofs.Peers
import Enrollment.Proofs.PercentCoding
import Enrollment.Proofs.PolicyBounds
import Enrollment.Proofs.PolicyChange
import Enrollment.Proofs.Provenance
import Enrollment.Proofs.ReadBack
import Enrollment.Proofs.Relinking
import Enrollment.Proofs.Rendering
import Enrollment.Proofs.Reports
import Enrollment.Proofs.Run
import Enrollment.Proofs.Scopes
import Enrollment.Proofs.SelfService
import Enrollment.Proofs.Silent
import Enrollment.Proofs.Spellings
import Enrollment.Proofs.Splitting
import Enrollment.Proofs.Stages
import Enrollment.Proofs.StoredAccounts
import Enrollment.Proofs.Storing
import Enrollment.Proofs.Timezones
import Enrollment.Proofs.Transcript
import Enrollment.Proofs.Trimming
import Enrollment.Proofs.TwoRuns
import Enrollment.Proofs.WelcomeMail
import Enrollment.Service
import Enrollment.Settings.BaseUrl
import Enrollment.Settings.Basic
import Enrollment.Settings.Coercion
import Enrollment.Settings.Reader
import Enrollment.Template.Basic
import Enrollment.Template.Reader
import Enrollment.Template.Render
import Enrollment.Template.Token
import Enrollment.Text.Ascii
import Enrollment.Text.Base64
import Enrollment.Text.Blank
import Enrollment.Text.Case
import Enrollment.Text.CaseTable
import Enrollment.Text.Digit
import Enrollment.Text.Html
import Enrollment.Text.Percent
import Enrollment.Text.PrintableTable
import Enrollment.Text.Quoted
import Enrollment.Text.QuotedPrintable
import Enrollment.Text.Ranges
import Enrollment.Text.Similarity
import Enrollment.Workflow.Call
import Enrollment.Workflow.Defaults
import Enrollment.Workflow.Linking
import Enrollment.Workflow.Program
import Enrollment.Workflow.Registration
import Enrollment.Workflow.Rehearsal
import Enrollment.Workflow.Script
import Enrollment.Workflow.Stale
