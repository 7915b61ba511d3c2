import CloudTenancy.Provider
import CloudTenancy.Proofs.Retry
import CloudTenancy.Proofs.Trace
import CloudTenancy.Proofs.Tasks
import CloudTenancy.Proofs.OrgConvergence
import CloudTenancy.Proofs.ByteOrder
import CloudTenancy.Proofs.LocalUserConvergence
import CloudTenancy.Proofs.Paging
import CloudTenancy.Proofs.Removal
import CloudTenancy.Proofs.Sessions
import CloudTenancy.Proofs.Rotation
import CloudTenancy.Proofs.Disabling
import CloudTenancy.Proofs.Provenance
import CloudTenancy.Proofs.Scrubbing
import CloudTenancy.Proofs.Addresses
import CloudTenancy.Proofs.Lifecycle
import CloudTenancy.Proofs.Tenants
import CloudTenancy.Proofs.Passwords
import CloudTenancy.Proofs.Secrets
import CloudTenancy.Proofs.Lookahead.Numbers
import CloudTenancy.Proofs.Lookahead.Values
import CloudTenancy.Proofs.SecretMembers
import CloudTenancy.Proofs.TokenFiles
import CloudTenancy.Proofs.OrgViews
import CloudTenancy.Proofs.Methods
import CloudTenancy.Proofs.Deadlines
import CloudTenancy.Proofs.Reporting
import CloudTenancy.Proofs.Queries
import CloudTenancy.Proofs.Lookups
import CloudTenancy.Proofs.Acceptance
import CloudTenancy.Proofs.Prefixes
import CloudTenancy.Proofs.HostNames
import CloudTenancy.Proofs.Stripping
import CloudTenancy.Proofs.EmptyVariables
import CloudTenancy.Proofs.ClockRange
import CloudTenancy.Proofs.Escapes
import CloudTenancy.Proofs.TenantEndpoints
import CloudTenancy.Proofs.FileMembers
import CloudTenancy.Proofs.VersionLookups
import CloudTenancy.Proofs.ConditionTexts
import CloudTenancy.Proofs.ImportIds
import CloudTenancy.Proofs.SensitiveLines
import CloudTenancy.Proofs.Payloads
import CloudTenancy.Proofs.SavedStates
import CloudTenancy.Proofs.RoleSets
