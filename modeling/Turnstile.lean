import Turnstile.Accounts
import Turnstile.Credential.Hash
import Turnstile.Credential.Phc
import Turnstile.Credential.Token
import Turnstile.Digest.Argon2
import Turnstile.Digest.Argon2.Block
import Turnstile.Digest.Blake2b
import Turnstile.Digest.Sha256
import Turnstile.Domain
import Turnstile.Domain.Direction
import Turnstile.Domain.Direction.Table
import Turnstile.Domain.Joining
import Turnstile.Domain.Joining.Table
import Turnstile.Domain.Mapping
import Turnstile.Domain.Mapping.Table
import Turnstile.Domain.Punycode
import Turnstile.Email
import Turnstile.Expiry
import Turnstile.Failure.Chain
import Turnstile.Failure.Repository
import Turnstile.Failure.System
import Turnstile.Field
import Turnstile.IpAddress
import Turnstile.Json
import Turnstile.Json.Reader
import Turnstile.Language
import Turnstile.Log
import Turnstile.LogFilter
import Turnstile.PersonName
import Turnstile.Postgres.Address
import Turnstile.Postgres.Migration
import Turnstile.Postgres.Row
import Turnstile.Postgres.Statement
import Turnstile.Postgres.UnitOfWork
import Turnstile.Program
import Turnstile.Purpose
import Turnstile.Rehearsal.Entropy
import Turnstile.Rehearsal.Fault
import Turnstile.Rehearsal.Run
import Turnstile.Rehearsal.Step
import Turnstile.Rehearsal.World
import Turnstile.Rejection
import Turnstile.Repository
import Turnstile.Request
import Turnstile.Session
import Turnstile.Sessions
import Turnstile.Settings
import Turnstile.SignIn
import Turnstile.Startup
import Turnstile.Store
import Turnstile.Text.Base64
import Turnstile.Text.Blank
import Turnstile.Text.Case
import Turnstile.Text.Case.Table
import Turnstile.Text.Compose
import Turnstile.Text.Compose.Table
import Turnstile.Text.Hex
import Turnstile.Text.Inspect
import Turnstile.Text.Number
import Turnstile.Text.Packed
import Turnstile.Text.Percent
import Turnstile.Text.Quoted
import Turnstile.Text.Quoted.Table
import Turnstile.Text.Split
import Turnstile.Text.Utf8
import Turnstile.Time.Calendar
import Turnstile.Time.Instant
import Turnstile.Time.Span
import Turnstile.Transaction
import Turnstile.Url
import Turnstile.User
import Turnstile.UserDraft
import Turnstile.Webhook
import Turnstile.Proofs.Text.Blank
import Turnstile.Proofs.Text.Case
import Turnstile.Proofs.Text.StoredForm
import Turnstile.Proofs.Text.Recase
import Turnstile.Proofs.Text.Reading
import Turnstile.Proofs.Text.Base64
import Turnstile.Proofs.Interleaving
import Turnstile.Proofs.Watch
import Turnstile.Proofs.Transaction.Closing
import Turnstile.Proofs.Transaction.EndsOnce
import Turnstile.Proofs.Store.Rows
import Turnstile.Proofs.Store.Emails
import Turnstile.Proofs.Service.Jobs
import Turnstile.Proofs.Accounts.EmailRace
import Turnstile.Proofs.Service.Undisturbed
import Turnstile.Proofs.Sessions.SignOut
import Turnstile.Proofs.Sessions.Verify
import Turnstile.Proofs.Sessions.SignOutReach
import Turnstile.Proofs.Store.Ends
import Turnstile.Proofs.Store.Identity
import Turnstile.Proofs.Store.Plaintext
import Turnstile.Proofs.Store.Secured
import Turnstile.Proofs.Store.WellFormed
import Turnstile.Proofs.Credential.Presented
import Turnstile.Proofs.Credential.Authorization
import Turnstile.Proofs.Credential.PhcGrammar
import Turnstile.Proofs.Credential.Recipe
import Turnstile.Proofs.Credential.StoredHash
import Turnstile.Proofs.Expiry
import Turnstile.Proofs.Service.Conduct
import Turnstile.Proofs.Service.Operations
import Turnstile.Proofs.Sessions.SignIn
import Turnstile.Proofs.Sessions.Lifetime
import Turnstile.Proofs.Sessions.Acceptance
import Turnstile.Proofs.Service.Faithful
import Turnstile.Proofs.Leads
import Turnstile.Proofs.Service.Inside
import Turnstile.Proofs.Service.Lookups
import Turnstile.Proofs.Store.Deleted
import Turnstile.Proofs.Store.Replaced
import Turnstile.Proofs.Accounts.Update
import Turnstile.Proofs.Accounts.Deletion
import Turnstile.Proofs.Accounts.StaleCopy
import Turnstile.Proofs.Accounts.PasswordChange
import Turnstile.Proofs.Accounts.OwnAddress
import Turnstile.Proofs.Accounts.FreshCopy
import Turnstile.Proofs.Accounts.Newcomer
import Turnstile.Proofs.Service.Answered
import Turnstile.Proofs.Service.Rejected
import Turnstile.Proofs.Service.SoundRecords
import Turnstile.Proofs.Service.WellFormed
import Turnstile.Proofs.Sessions.Enumeration
import Turnstile.Proofs.Sessions.Issuance
import Turnstile.Proofs.Sessions.NewPassword
import Turnstile.Proofs.Transaction.Conclude
import Turnstile.Proofs.Transaction.Request
import Turnstile.Proofs.Transaction.Books
import Turnstile.Proofs.Transaction.Notices
import Turnstile.Proofs.Postgres.Reading
import Turnstile.Proofs.Postgres.Sequence
import Turnstile.Proofs.Postgres.Plaintext
import Turnstile.Proofs.Postgres.Callers
import Turnstile.Proofs.Postgres.Discipline
import Turnstile.Proofs.Postgres.Upsert
import Turnstile.Proofs.Sessions.CredentialText
import Turnstile.Proofs.Accounts.Enrolment
import Turnstile.Proofs.Accounts.DeletedCopy
import Turnstile.Proofs.Sessions.ConcurrentSignOut
import Turnstile.Proofs.Sessions.Spellings
import Turnstile.Proofs.Names.Display
import Turnstile.Proofs.Names.Survival
import Turnstile.Proofs.Failure.Chain
import Turnstile.Proofs.Settings.Variables
import Turnstile.Proofs.Settings.Load
import Turnstile.Proofs.Webhook.Delivery
import Turnstile.Proofs.Disclosure
