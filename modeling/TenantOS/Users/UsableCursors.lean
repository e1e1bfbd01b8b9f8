import TenantOS.Users.KeysetPagination
import TenantOS.Shared.Uuid

/-! Which cursors the decoder lets through to the keyset query, and whether what they
name can be compared with a `uuid` column. -/
namespace TenantOS.Users

open TenantOS.Domain TenantOS.Infrastructure TenantOS.Shared

section

variable {platform : Platform} {cursor : String}

end

end TenantOS.Users
