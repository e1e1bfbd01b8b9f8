import TenantOS.Configuration.BrowserOrigins
import TenantOS.Auth.PasswordChange
import TenantOS.Auth.DenylistLifetime
import TenantOS.Auth.FirstRevocation
import TenantOS.Auth.Logout
import TenantOS.Auth.LogoutFailures
import TenantOS.Auth.ReuseAlarm
import TenantOS.Auth.LoginUniformity
import TenantOS.Auth.Admission
import TenantOS.Auth.SocketSubscriptions
import TenantOS.Auth.ConcurrentLogins
import TenantOS.Users.Serialization
import TenantOS.Users.KeysetPagination
import TenantOS.Users.UsableCursors
import TenantOS.Auth.TokenVersion
import TenantOS.Auth.PasswordIntegrity
import TenantOS.Auth.TokenAcceptance
import TenantOS.Auth.RevocationReasons
import TenantOS.Workspaces.ResourceCounts
import TenantOS.Workspaces.DefaultFolder
import TenantOS.Workspaces.Namespaces
import TenantOS.Workspaces.PartialUpdates
import TenantOS.Workspaces.WorkflowCreation
import TenantOS.Workspaces.HandedRequests
import TenantOS.Workspaces.ReportedViolations
import TenantOS.Tenancy.Isolation
import TenantOS.Tenancy.WriteOnlyCredentials
import TenantOS.Tenancy.Undisturbed
import TenantOS.Caching.ResponseCache
import TenantOS.Caching.SingleFlight
import TenantOS.RateLimits.Budgets
import TenantOS.Users.OffsetPagination
import TenantOS.Users.Erasure
import TenantOS.Workspaces.StableSlugs
import TenantOS.Caching.Coalescing
import TenantOS.Caching.ResponseLifetime
import TenantOS.Infrastructure.PrefixInvalidation
import TenantOS.Caching.TenantScope
import TenantOS.Modules.Routes
import TenantOS.Modules.AuthCookieService
import TenantOS.Configuration.RefreshCookie
import TenantOS.Responses.ServerErrors
import TenantOS.Transactions.Repositories
import TenantOS.Transactions.OptimisticSave
import TenantOS.Realtime.Delivery
import TenantOS.Responses.RequestLifecycle
import TenantOS.Auth.SessionRenewal
