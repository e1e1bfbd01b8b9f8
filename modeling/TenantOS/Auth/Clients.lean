import TenantOS.Application.AuthUseCases

/-! The clients of the authentication service, and what each of them knows at
every moment of a run. The discipline says once, for every use case, what must
have been heard before a call is issued. -/
namespace TenantOS.Auth

open TenantOS.Domain TenantOS.Infrastructure TenantOS.Interleaving TenantOS.Application

inductive Command where
  | login (command : LoginCommand)
  | refresh (command : RefreshTokensCommand)
  | logout (command : LogoutCommand)
  | logoutAll (command : LogoutCommand)
  | changePassword (command : ChangePasswordCommand)
  | deleteExpiredBefore (cutoff : Date)
  | sessions (userId : Uuid) (cookie : Option String)
  | editUser (lookup : UserLookup) (calls : List (Date × UserMethod))
deriving DecidableEq, Repr

inductive Outcome where
  | authenticated (result : AuthenticationResult)
  | finished
  | swept (count : Nat)
  | listed (sessions : List SessionResponse)
  | edited (user : Option User)
deriving DecidableEq, Repr

def body (host : Host) : Command → UseCase Outcome
  | .login command => do
      let result ← LoginUseCase.execute host command
      pure (.authenticated result)
  | .refresh command => do
      let result ← RefreshTokensUseCase.execute host command
      pure (.authenticated result)
  | .logout command => do
      LogoutUseCase.execute host command
      pure .finished
  | .logoutAll command => do
      LogoutUseCase.executeAll command
      pure .finished
  | .changePassword command => do
      UpdateUserUseCase.changePassword host command
      pure .finished
  | .deleteExpiredBefore cutoff => do
      let count ← deleteExpiredBefore cutoff
      pure (.swept count)
  | .sessions userId cookie => do
      let sessions ← AuthController.sessions host userId cookie
      pure (.listed sessions)
  | .editUser lookup calls => do
      let saved ← editUser lookup calls
      pure (.edited saved)

/-- The service: any number of clients over one store. -/
abbrev service (host : Host) : System where
  interface := authInterface
  Failure := Failure
  Fault := Failure
  raise := id
  Outcome := Outcome
  Command := Command
  Store := Store
  Input := Input
  body := body host
  answer := answer host

/-- What a client has learnt and done so far. -/
structure Knowledge where
  command : Command
  /-- The row `findByHash` showed it. -/
  stored : Option RefreshToken
  /-- Its `consume` was answered `true`. -/
  consumed : Bool
  /-- The aggregate it loaded. -/
  user : Option User
  /-- Its `save` was answered with the saved aggregate. -/
  saved : Bool
  /-- The ids it drew. -/
  ids : List Uuid
  /-- The hash of the refresh token it generated. -/
  generated : Option String
  /-- The access token it was given. -/
  signed : Option AccessTokenClaims
  /-- The refresh token it asked to be inserted, whatever came of that. -/
  created : Option RefreshToken

def Knowledge.start (command : Command) : Knowledge where
  command := command
  stored := none
  consumed := false
  user := none
  saved := false
  ids := []
  generated := none
  signed := none
  created := none

variable (host : Host)

def observe (k : Knowledge) : (c : AuthCall) → Except Failure c.Reply → Knowledge
  | .refreshTokens (.findByHash _), .ok (some stored) => { k with stored := some stored }
  | .refreshTokens (.consume ..), .ok true => { k with consumed := true }
  | .refreshTokens (.create token), _ => { k with created := some token }
  | .users (.findById ..), .ok (some user) => { k with user := some user }
  | .users (.findByEmail ..), .ok (some user) => { k with user := some user }
  | .users (.save _), .ok _ => { k with saved := true }
  | .runtime .randomUUID, .ok id => { k with ids := id :: k.ids }
  | .runtime .randomBytes, .ok raw => { k with generated := some (host.sha256Hex raw) }
  | .runtime (.signAsync ..), .ok claims => { k with signed := some claims }
  | _, _ => k

def Command.presentedHash : Command → Option String
  | .refresh command => some (host.sha256Hex command.refreshToken)
  | .logout command => command.refreshToken.map host.sha256Hex
  | _ => none

def Command.isRefresh : Command → Bool
  | .refresh _ => true
  | _ => false

/-- What a login inserts: a family of its own, for the user it loaded. -/
def Knowledge.OpensFamily (k : Knowledge) (token : RefreshToken) : Prop :=
  (∃ command, k.command = .login command) ∧ token.familyId ∈ k.ids ∧
    ∃ user, k.user = some user ∧ token.userId = user.id

/-- What a refresh inserts: a successor in the family of the row it consumed. -/
def Knowledge.ContinuesFamily (k : Knowledge) (token : RefreshToken) : Prop :=
  k.command.isRefresh ∧ k.consumed ∧
    ∃ stored user, k.stored = some stored ∧ k.user = some user ∧
      token.familyId = stored.familyId ∧ token.userId = user.id

def permits (k : Knowledge) : AuthCall → Prop
  | .refreshTokens (.findByHash tokenHash) =>
      k.stored = none ∧ k.consumed = false ∧ k.created = none ∧
        k.command.presentedHash host = some tokenHash
  | .refreshTokens (.consume tokenId _ _) =>
      k.command.isRefresh ∧ k.consumed = false ∧ k.user = none ∧ k.created = none ∧
        ∃ stored, k.stored = some stored ∧ stored.id = tokenId ∧ stored.isRevoked = false
  | .refreshTokens (.create token) =>
      k.created = none ∧ token.id ∈ k.ids ∧ k.generated = some token.tokenHash ∧
        (k.OpensFamily token ∨ k.ContinuesFamily token)
  | .refreshTokens (.revokeFamily familyId _ _) =>
      ∃ stored, k.stored = some stored ∧ stored.familyId = familyId
  | .refreshTokens (.revokeAllForUser userId _ _) =>
      (∃ command, k.command = .logoutAll command ∧ command.userId = userId) ∨
        ∃ command user, k.command = .changePassword command ∧ k.user = some user ∧
          user.id = userId ∧ k.saved
  | .users (.findById id _) =>
      k.user = none ∧
        (k.command.isRefresh → ∃ stored, k.stored = some stored ∧ stored.userId = id) ∧
        ∀ command, k.command = .changePassword command → command.userId = id
  | .users (.findByEmail ..) => k.user = none ∧ k.command.isRefresh = false ∧
      ∀ command, k.command ≠ .changePassword command
  | .users (.save user) => ∃ loaded calls, k.user = some loaded ∧ user = loaded.applyAll calls
  | .runtime .randomBytes => k.generated = none
  | .runtime (.signAsync sub tv _ _) =>
      ∃ user, k.user = some user ∧ user.assertCanAuthenticate = .ok () ∧ sub = user.id ∧
        tv = user.tokenVersion
  | _ => True

/-- A token pair is handed out only with its refresh token inserted, and by a
refresh only after it won the token it presented. -/
def accepts (k : Knowledge) : Except Failure Outcome → Prop
  | .ok (.authenticated result) =>
      k.signed = some result.tokens.accessToken ∧ k.created.isSome ∧
        (k.command.isRefresh → k.consumed ∧ k.stored.isSome)
  | _ => True

abbrev monitor : Monitor authInterface Failure where
  State := Knowledge
  observe := observe host
  permits := permits host

/-! A small deployment, on which whole runs can be computed. -/

def sampleHost : Host where
  toLowerCase := id
  sha256Hex raw := "sha256:" ++ raw
  verify hash plaintext := hash = plaintext
  needsRehash _ := false
  accessTtlS := 900
  refreshTtlS := 604800
  issuer := "tenantos"
  audience := "tenantos"

def sampleUser : UserRow where
  id := "ann"
  registrarUserId := none
  email := "ann@example.com"
  passwordHash := some "correct horse battery"
  firstName := none
  lastName := none
  status := "ACTIVE"
  isPlatformAdmin := false
  tokenVersion := 0
  lastLoginAt := none
  version := 0
  createdAt := 0
  updatedAt := 0
  deletedAt := none

def sampleWorld : World (service sampleHost) where
  store := {
    users := [sampleUser]
    refreshTokens := []
    denylist := []
    ids := []
    hashes := [] }
  threads := []

def sampleLogin : Event (service sampleHost) :=
  .start (.login ⟨"ann@example.com", "correct horse battery", ⟨none, none⟩⟩)

def sampleRefresh (refreshToken : String) : Event (service sampleHost) :=
  .start (.refresh ⟨refreshToken, ⟨none, none⟩⟩)

/-- The client's next calls are answered, each with its draw of the random source. -/
def answered (i : Nat) (draws : List String) : List (Event (service sampleHost)) :=
  draws.map fun random => .advance i (.answered ⟨0, random⟩)

def loginDraws : List String :=
  ["", "", "jti-0", "", "", "raw-0", "", "id-0", "family-0", "", "", ""]

end TenantOS.Auth
