import AccountAuthority.AccessToken
import AccountAuthority.Account.AdminGuard
import AccountAuthority.Account.Audit
import AccountAuthority.Account.ExternalIdentity
import AccountAuthority.Account.User
import AccountAuthority.Account.VerificationToken
import AccountAuthority.BearerToken
import AccountAuthority.Code
import AccountAuthority.Command.Basic
import AccountAuthority.Command.Calls
import AccountAuthority.Command.Requests
import AccountAuthority.Config.Assignments
import AccountAuthority.Config.Authority
import AccountAuthority.Config.Environment
import AccountAuthority.Config.FileFormat
import AccountAuthority.Config.Ini
import AccountAuthority.Config.Integer
import AccountAuthority.Config.Lexeme
import AccountAuthority.Config.Listener
import AccountAuthority.Config.Literal
import AccountAuthority.Config.Load
import AccountAuthority.Config.Report
import AccountAuthority.Config.Setting
import AccountAuthority.Config.Toml
import AccountAuthority.Config.Variables
import AccountAuthority.Config.Wiring
import AccountAuthority.Config.Yaml
import AccountAuthority.Crypto.Argon2
import AccountAuthority.Crypto.Base64
import AccountAuthority.Crypto.Blake2b
import AccountAuthority.Crypto.Bytes
import AccountAuthority.Crypto.Crc32
import AccountAuthority.Crypto.Der
import AccountAuthority.Crypto.Pem
import AccountAuthority.Crypto.Rsa
import AccountAuthority.Crypto.Sha2
import AccountAuthority.Database.Error
import AccountAuthority.Database.Migration
import AccountAuthority.Database.MigrationServer
import AccountAuthority.Database.Request
import AccountAuthority.Database.Scripted
import AccountAuthority.Database.Transaction
import AccountAuthority.Database.Value
import AccountAuthority.Email
import AccountAuthority.Http.Failure
import AccountAuthority.Http.Router
import AccountAuthority.Job.Basic
import AccountAuthority.Job.DeletionPayload
import AccountAuthority.Job.Queue
import AccountAuthority.Json.Basic
import AccountAuthority.Json.Parser
import AccountAuthority.Json.Printer
import AccountAuthority.Json.Quoted
import AccountAuthority.Jwt.Basic
import AccountAuthority.Jwt.Key
import AccountAuthority.Net.DomainName
import AccountAuthority.Net.IpAddress
import AccountAuthority.Oidc
import AccountAuthority.Password.HashText
import AccountAuthority.Password.Hasher
import AccountAuthority.Password.Policy
import AccountAuthority.Program
import AccountAuthority.Proofs.AcceptedConfigurations
import AccountAuthority.Proofs.AcceptedTokens
import AccountAuthority.Proofs.AddressSpellings
import AccountAuthority.Proofs.AuditTrail
import AccountAuthority.Proofs.AwaitedDeletions
import AccountAuthority.Proofs.Belongings
import AccountAuthority.Proofs.BoundedRetry
import AccountAuthority.Proofs.BulkRevocation
import AccountAuthority.Proofs.CallEndings
import AccountAuthority.Proofs.CallHistories
import AccountAuthority.Proofs.CivilDays
import AccountAuthority.Proofs.Conversations
import AccountAuthority.Proofs.DeletionBatches
import AccountAuthority.Proofs.Dialogues
import AccountAuthority.Proofs.DrawnNames
import AccountAuthority.Proofs.DueDeletions
import AccountAuthority.Proofs.ExternalIdentities
import AccountAuthority.Proofs.FailedLogins
import AccountAuthority.Proofs.FinalRevocation
import AccountAuthority.Proofs.FirstSignIn
import AccountAuthority.Proofs.GuardedRequests
import AccountAuthority.Proofs.HeededAnswers
import AccountAuthority.Proofs.InactiveUsers
import AccountAuthority.Proofs.InstantText
import AccountAuthority.Proofs.Instants
import AccountAuthority.Proofs.Interleaving
import AccountAuthority.Proofs.JobLeases
import AccountAuthority.Proofs.LastAdmin
import AccountAuthority.Proofs.LifecycleUnits
import AccountAuthority.Proofs.LoginCourses
import AccountAuthority.Proofs.NormalForms
import AccountAuthority.Proofs.OneSessionPerDevice
import AccountAuthority.Proofs.Operations
import AccountAuthority.Proofs.OtherUsers
import AccountAuthority.Proofs.PasswordUpdates
import AccountAuthority.Proofs.ProperCalls
import AccountAuthority.Proofs.ProviderLogins
import AccountAuthority.Proofs.PushTokens
import AccountAuthority.Proofs.QueuedJobs
import AccountAuthority.Proofs.ReadPayloads
import AccountAuthority.Proofs.Refresh
import AccountAuthority.Proofs.RefreshAtomicity
import AccountAuthority.Proofs.RefreshRecords
import AccountAuthority.Proofs.RefreshTable
import AccountAuthority.Proofs.Refusals
import AccountAuthority.Proofs.RepresentableTimes
import AccountAuthority.Proofs.RotationChains
import AccountAuthority.Proofs.RowReading
import AccountAuthority.Proofs.ScrubbedUsers
import AccountAuthority.Proofs.SeparateAccounts
import AccountAuthority.Proofs.SeparateLimits
import AccountAuthority.Proofs.SequentialCalls
import AccountAuthority.Proofs.ServedDeletions
import AccountAuthority.Proofs.ServedStores
import AccountAuthority.Proofs.ServiceCalls
import AccountAuthority.Proofs.SessionHistory
import AccountAuthority.Proofs.SessionSteps
import AccountAuthority.Proofs.SessionTerms
import AccountAuthority.Proofs.SessionWork
import AccountAuthority.Proofs.SharedAddresses
import AccountAuthority.Proofs.SingleWinner
import AccountAuthority.Proofs.SpentAttempts
import AccountAuthority.Proofs.StaleOutcomes
import AccountAuthority.Proofs.SteppingDown
import AccountAuthority.Proofs.SupersededPasswords
import AccountAuthority.Proofs.Tables
import AccountAuthority.Proofs.TimelyCalls
import AccountAuthority.Proofs.TokenLifetimes
import AccountAuthority.Proofs.Transactions
import AccountAuthority.Proofs.UnitsOfWork
import AccountAuthority.Proofs.UnknownAddresses
import AccountAuthority.Proofs.UserRecords
import AccountAuthority.Proofs.UserSteps
import AccountAuthority.Proofs.UuidText
import AccountAuthority.Proofs.VerificationTokens
import AccountAuthority.Proofs.WaitingTimes
import AccountAuthority.RateLimit
import AccountAuthority.Relational.Accounts
import AccountAuthority.Relational.Jobs
import AccountAuthority.Relational.Lifecycle
import AccountAuthority.Relational.Perform
import AccountAuthority.Relational.Row
import AccountAuthority.Relational.Schema
import AccountAuthority.Relational.Sessions
import AccountAuthority.Relational.Sql
import AccountAuthority.Relational.Statement
import AccountAuthority.Repository.Error
import AccountAuthority.Repository.Outcome
import AccountAuthority.Repository.Report
import AccountAuthority.Repository.Request
import AccountAuthority.Retry
import AccountAuthority.Service.Accounts
import AccountAuthority.Service.Backend
import AccountAuthority.Service.Credentials
import AccountAuthority.Service.Deletion
import AccountAuthority.Service.Error
import AccountAuthority.Service.Local
import AccountAuthority.Service.Sessions
import AccountAuthority.Session.Basic
import AccountAuthority.Session.RefreshToken
import AccountAuthority.Store.Accounts
import AccountAuthority.Store.Basic
import AccountAuthority.Store.Lifecycle
import AccountAuthority.Store.Perform
import AccountAuthority.Store.Sessions
import AccountAuthority.Table
import AccountAuthority.Text.Blank
import AccountAuthority.Text.CaseTable
import AccountAuthority.Text.Casing
import AccountAuthority.Text.DomainTable
import AccountAuthority.Text.PrintTable
import AccountAuthority.Text.Punycode
import AccountAuthority.Text.Split
import AccountAuthority.Time.Calendar
import AccountAuthority.Time.Instant
import AccountAuthority.Time.Rfc3339
import AccountAuthority.Time.Span
import AccountAuthority.Uuid
