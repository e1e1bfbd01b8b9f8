import Mathlib.Tactic.Common

/-! The errors the business can produce, with the text and the details each one
carries to the caller. -/
namespace TenantOS.Domain

/-- Ids are UUID strings. -/
abbrev Uuid := String

/-- A `Date`, as its milliseconds since the epoch. -/
abbrev Date := Int

inductive ErrorCode where
  | internalError | validationFailed | badRequest | notFound | conflict | rateLimitExceeded
  | requestTimeout | serviceUnavailable | payloadTooLarge | unsupportedMediaType
  | methodNotAllowed
  | unauthenticated | invalidCredentials | tokenExpired | tokenInvalid | tokenRevoked
  | refreshTokenReused | forbidden | insufficientRole | tenantContextRequired | accountNotActive
  | userNotFound | emailAlreadyExists | weakPassword | passwordReused | currentPasswordIncorrect
  | cannotModifySelf | passwordNotSet
  | tenantNotFound | tenantSlugTaken | tenantNotActive | membershipNotFound | alreadyAMember
  | lastOwnerCannotLeave
  | workspaceNotFound | workspaceSlugTaken | folderNotFound | folderNameTaken | folderSlugTaken
  | workflowSlugTaken | workflowNotFound | variableNameTaken | variableNotFound
  | credentialNameTaken | credentialNotFound
  | nodeTypeNotFound
  | databaseUnavailable | cacheUnavailable | concurrentModification
deriving DecidableEq, Repr

/-- The strings clients branch on. -/
def ErrorCode.text : ErrorCode → String
  | .internalError => "INTERNAL_ERROR"
  | .validationFailed => "VALIDATION_FAILED"
  | .badRequest => "BAD_REQUEST"
  | .notFound => "NOT_FOUND"
  | .conflict => "CONFLICT"
  | .rateLimitExceeded => "RATE_LIMIT_EXCEEDED"
  | .requestTimeout => "REQUEST_TIMEOUT"
  | .serviceUnavailable => "SERVICE_UNAVAILABLE"
  | .payloadTooLarge => "PAYLOAD_TOO_LARGE"
  | .unsupportedMediaType => "UNSUPPORTED_MEDIA_TYPE"
  | .methodNotAllowed => "METHOD_NOT_ALLOWED"
  | .unauthenticated => "UNAUTHENTICATED"
  | .invalidCredentials => "INVALID_CREDENTIALS"
  | .tokenExpired => "TOKEN_EXPIRED"
  | .tokenInvalid => "TOKEN_INVALID"
  | .tokenRevoked => "TOKEN_REVOKED"
  | .refreshTokenReused => "REFRESH_TOKEN_REUSED"
  | .forbidden => "FORBIDDEN"
  | .insufficientRole => "INSUFFICIENT_ROLE"
  | .tenantContextRequired => "TENANT_CONTEXT_REQUIRED"
  | .accountNotActive => "ACCOUNT_NOT_ACTIVE"
  | .userNotFound => "USER_NOT_FOUND"
  | .emailAlreadyExists => "EMAIL_ALREADY_EXISTS"
  | .weakPassword => "WEAK_PASSWORD"
  | .passwordReused => "PASSWORD_REUSED"
  | .currentPasswordIncorrect => "CURRENT_PASSWORD_INCORRECT"
  | .cannotModifySelf => "CANNOT_MODIFY_SELF"
  | .passwordNotSet => "PASSWORD_NOT_SET"
  | .tenantNotFound => "TENANT_NOT_FOUND"
  | .tenantSlugTaken => "TENANT_SLUG_TAKEN"
  | .tenantNotActive => "TENANT_NOT_ACTIVE"
  | .membershipNotFound => "MEMBERSHIP_NOT_FOUND"
  | .alreadyAMember => "ALREADY_A_MEMBER"
  | .lastOwnerCannotLeave => "LAST_OWNER_CANNOT_LEAVE"
  | .workspaceNotFound => "WORKSPACE_NOT_FOUND"
  | .workspaceSlugTaken => "WORKSPACE_SLUG_TAKEN"
  | .folderNotFound => "FOLDER_NOT_FOUND"
  | .folderNameTaken => "FOLDER_NAME_TAKEN"
  | .folderSlugTaken => "FOLDER_SLUG_TAKEN"
  | .workflowSlugTaken => "WORKFLOW_SLUG_TAKEN"
  | .workflowNotFound => "WORKFLOW_NOT_FOUND"
  | .variableNameTaken => "VARIABLE_NAME_TAKEN"
  | .variableNotFound => "VARIABLE_NOT_FOUND"
  | .credentialNameTaken => "CREDENTIAL_NAME_TAKEN"
  | .credentialNotFound => "CREDENTIAL_NOT_FOUND"
  | .nodeTypeNotFound => "NODE_TYPE_NOT_FOUND"
  | .databaseUnavailable => "DATABASE_UNAVAILABLE"
  | .cacheUnavailable => "CACHE_UNAVAILABLE"
  | .concurrentModification => "CONCURRENT_MODIFICATION"

/-- The abstract subclass of `DomainError` an error extends; it decides the
HTTP status. -/
inductive ErrorKind where
  | notFound | conflict | businessRule | authorization | authentication
deriving DecidableEq, Repr

inductive Detail where
  | text (value : String)
  | texts (values : List String)
deriving DecidableEq, Repr

structure DomainError where
  name : String
  kind : ErrorKind
  code : ErrorCode
  message : String
  details : Option (List (String × Detail))
deriving DecidableEq, Repr

/-- Whatever a call can throw. -/
inductive Failure where
  | domain (error : DomainError)
  | infrastructure (code : ErrorCode) (message : String)
  /-- A known request error of the driver, with its code and `meta.target`. -/
  | prisma (code : String) (target : List String)
  | unexpected (message : String)
deriving DecidableEq, Repr

def concurrentModificationError (entity : String) (id : Uuid) : DomainError where
  name := "ConcurrentModificationError"
  kind := .conflict
  code := .concurrentModification
  message := entity ++ " was modified by another request; re-read it and retry"
  details := some [("entity", .text entity), ("id", .text id)]

/-! Authentication. -/

def invalidTokenError
    (reason : String := "The token is malformed or its signature does not verify") :
    DomainError where
  name := "InvalidTokenError"
  kind := .authentication
  code := .tokenInvalid
  message := reason
  details := none

def tokenExpiredError : DomainError where
  name := "TokenExpiredError"
  kind := .authentication
  code := .tokenExpired
  message := "The token has expired"
  details := none

def tokenRevokedError (reason : String := "This session has been revoked. Sign in again.") :
    DomainError where
  name := "TokenRevokedError"
  kind := .authentication
  code := .tokenRevoked
  message := reason
  details := none

def refreshTokenReusedError : DomainError where
  name := "RefreshTokenReusedError"
  kind := .authentication
  code := .refreshTokenReused
  message := "This session has been terminated for security reasons. Sign in again."
  details := none

/-! Users. -/

def userNotFoundError (identifier : String) : DomainError where
  name := "UserNotFoundError"
  kind := .notFound
  code := .userNotFound
  message := "User not found"
  details := some [("identifier", .text identifier)]

def emailAlreadyExistsError : DomainError where
  name := "EmailAlreadyExistsError"
  kind := .conflict
  code := .emailAlreadyExists
  message := "That email address is already registered"
  details := none

def invalidCredentialsError : DomainError where
  name := "InvalidCredentialsError"
  kind := .authentication
  code := .invalidCredentials
  message := "Invalid email or password"
  details := none

def accountNotActiveError (status : String) : DomainError where
  name := "AccountNotActiveError"
  kind := .authentication
  code := .accountNotActive
  message := "This account cannot sign in"
  details := some [("status", .text status)]

def passwordNotSetError : DomainError where
  name := "PasswordNotSetError"
  kind := .authentication
  code := .passwordNotSet
  message := "This account has no password set. Complete the invitation first."
  details := none

def currentPasswordIncorrectError : DomainError where
  name := "CurrentPasswordIncorrectError"
  kind := .authentication
  code := .currentPasswordIncorrect
  message := "The current password is incorrect"
  details := none

def passwordReusedError : DomainError where
  name := "PasswordReusedError"
  kind := .businessRule
  code := .passwordReused
  message := "The new password must differ from the current one"
  details := none

def weakPasswordError (failures : List String) : DomainError where
  name := "WeakPasswordError"
  kind := .businessRule
  code := .weakPassword
  message := "Password does not meet the security policy"
  details := some [("failures", .texts failures)]

def invalidEmailError (reason : String) : DomainError where
  name := "InvalidEmailError"
  kind := .businessRule
  code := .validationFailed
  message := "Invalid email address: " ++ reason
  details := some [("field", .text "email")]

def invalidCursorError : DomainError where
  name := "InvalidCursorError"
  kind := .businessRule
  code := .validationFailed
  message := "The pagination cursor is malformed"
  details := some [("field", .text "cursor")]

end TenantOS.Domain
