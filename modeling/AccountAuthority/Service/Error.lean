import AccountAuthority.Http.Failure
import AccountAuthority.Repository.Error

/-!
# Errors of the services

Why a service refuses a call.  Every error has a stable code.
-/

namespace AccountAuthority

/-- Why a service refuses a call. -/
inductive ServiceError where
  | invalidCredentials
  | userSuspended
  | sessionRevoked
  | refreshTokenInvalid
  | refreshTokenExpired
  | refreshTokenReused
  | sessionNotFound
  | userNotFound
  | userDeleted
  | blockedLastAdmin
  | identityLinkedToOtherUser
  | providerAlreadyLinked
  | linkRequired
  | oidcNotConfigured
  | oidcTokenInvalid
  | oidcEmailNotVerified
  | emailAlreadyRegistered
  | invalidToken
  | tokenExpired
  | validation (text : String)
  | rateLimited (retryAfterSeconds : Nat)
  | repository (cause : RepositoryError)
  | internal (text : String)
  deriving DecidableEq, Repr

namespace ServiceError

/-- The stable code of an error. -/
def code : ServiceError → String
  | invalidCredentials => "invalid_credentials"
  | userSuspended => "user_suspended"
  | sessionRevoked => "session_revoked"
  | refreshTokenInvalid => "refresh_token_invalid"
  | refreshTokenExpired => "refresh_token_expired"
  | refreshTokenReused => "refresh_token_reused"
  | sessionNotFound => "session_not_found"
  | userNotFound => "user_not_found"
  | userDeleted => "user_deleted"
  | blockedLastAdmin => "blocked_last_admin"
  | identityLinkedToOtherUser => "identity_linked_to_other_user"
  | providerAlreadyLinked => "provider_already_linked"
  | linkRequired => "link_required"
  | oidcNotConfigured => "oidc_not_configured"
  | oidcTokenInvalid => "oidc_token_invalid"
  | oidcEmailNotVerified => "oidc_email_not_verified"
  | emailAlreadyRegistered => "email_already_registered"
  | invalidToken => "invalid_token"
  | tokenExpired => "token_expired"
  | validation _ => "validation_error"
  | rateLimited _ => "rate_limited"
  | repository _ | internal _ => "internal_error"

def message : ServiceError → String
  | invalidCredentials => "Invalid credentials"
  | userSuspended => "User is suspended"
  | sessionRevoked => "Session has been revoked"
  | refreshTokenInvalid => "Refresh token is invalid"
  | refreshTokenExpired => "Refresh token has expired"
  | refreshTokenReused => "Refresh token reuse detected"
  | sessionNotFound => "Session not found"
  | userNotFound => "User not found"
  | userDeleted => "User is deleted"
  | blockedLastAdmin => "Operation would remove the last active administrator"
  | identityLinkedToOtherUser => "External identity is linked to another user"
  | providerAlreadyLinked => "Provider is already linked to this user"
  | linkRequired => "An account with this email exists; link the provider from that account"
  | oidcNotConfigured => "OIDC provider is not configured"
  | oidcTokenInvalid => "OIDC token is invalid"
  | oidcEmailNotVerified => "OIDC email is not verified"
  | emailAlreadyRegistered => "Email already registered"
  | invalidToken => "Invalid token"
  | tokenExpired => "Token expired"
  | validation text => "Validation error: " ++ text
  | rateLimited _ => "Too many attempts"
  | repository cause => "Repository error: " ++ cause.message
  | internal text => "Internal server error: " ++ text

def status : ServiceError → Nat
  | invalidCredentials | sessionRevoked | refreshTokenInvalid | refreshTokenExpired
  | refreshTokenReused | oidcTokenInvalid => 401
  | userSuspended | oidcEmailNotVerified => 403
  | sessionNotFound | userNotFound => 404
  | userDeleted => 410
  | blockedLastAdmin | identityLinkedToOtherUser | providerAlreadyLinked | linkRequired
  | emailAlreadyRegistered => 409
  | oidcNotConfigured | invalidToken | tokenExpired | validation _ => 400
  | rateLimited _ => 429
  | repository _ | internal _ => 500

def toFailure (e : ServiceError) : Failure :=
  match e with
  | repository cause => .database cause.message
  | internal text => .internal text
  | rateLimited seconds => .tooManyRequests "Too many login attempts" (some seconds)
  | _ => .rejected e.status e.code e.message

end ServiceError

end AccountAuthority
