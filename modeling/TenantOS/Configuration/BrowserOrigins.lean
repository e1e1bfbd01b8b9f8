import TenantOS.Infrastructure.AppConfigService

/-! Which browser origins a production process boots with. -/
namespace TenantOS.Configuration
open Schema Infrastructure.Config

theorem failIf_eq_nil {condition : Prop} [Decidable condition] {path message : String} :
    failIf condition path message = [] ↔ ¬ condition := by
  unfold failIf
  split <;> simp_all

/-! What validation lets through. -/

section

variable {runtime : NodeRuntime} {raw : RawEnv} {env : Env}

theorem validateEnv_ok_iff :
    validateEnv runtime raw = .ok env ↔
      (envObject runtime raw).Accepts env ∧ superRefine runtime env = [] := by
  rw [← Outcome.accepts_refine, ← envSchema, ← Outcome.safeParse_ok_iff]
  unfold validateEnv
  cases (envSchema runtime raw).safeParse <;> simp

/-- What an issue is about is one variable, and never the environment as a whole. -/
def NamesVariable (issue : Issue) : Prop :=
  ∃ key, issue.path = [key]

theorem names_field {α : Type} {key : String} {schema : FieldSchema α} :
    Reports NamesVariable (field key schema raw) := by
  apply Reports.relabel
  intro message
  exact ⟨key, rfl⟩

theorem names_failIf {condition : Prop} [Decidable condition] {path message : String}
    {issue : Issue} (reported : issue ∈ failIf condition path message) : NamesVariable issue := by
  unfold failIf at reported
  split at reported
  · cases List.mem_singleton.mp reported
    exact ⟨path, rfl⟩
  · cases reported

theorem names_superRefine {issue : Issue} (reported : issue ∈ superRefine runtime env) :
    NamesVariable issue := by
  simp only [superRefine, productionIssues, List.mem_append] at reported
  split at reported
  · simp only [List.mem_append] at reported
    rcases reported with (((h | h) | h) | (((((((h | h) | h) | h) | h) | h) | h) | h))
    all_goals exact names_failIf h
  · rcases reported with (((h | h) | h) | h)
    · exact names_failIf h
    · exact names_failIf h
    · exact names_failIf h
    · cases h

theorem names_envSchema : Reports NamesVariable (envSchema runtime raw) := by
  refine Reports.refine ?_ fun env issue reported => names_superRefine reported
  simp only [envObject, applicationEnv, databaseEnv, redisEnv, authEnv, cookiesEnv, httpEnv,
    rateLimitingEnv, observabilityEnv, webSocketsEnv, Reports.seq_iff, Reports.valid, names_field,
    and_self]

/-- A refusal lists at least one problem, each of them under the variable it is about. -/
theorem report_of_refused {message : String} (refused : validateEnv runtime raw = .error message) :
    ∃ issues, message = report issues ∧ issues ≠ [] ∧ ∀ issue ∈ issues, NamesVariable issue := by
  unfold validateEnv at refused
  split at refused
  · cases refused
  · rename_i issues failed
    obtain ⟨all, some⟩ := Outcome.safeParse_error failed
    refine ⟨issues, (Except.error.inj refused).symm, some, ?_⟩
    rw [all]
    exact names_envSchema

/-- Every section of an accepted object was accepted. -/
theorem sections_of_accepted (h : (envObject runtime raw).Accepts env) :
    (applicationEnv runtime raw).Accepts env.toApplicationEnv ∧
      (databaseEnv runtime raw).Accepts env.toDatabaseEnv ∧
      (webSocketsEnv runtime raw).Accepts env.toWebSocketsEnv := by
  simp only [envObject, Outcome.accepts_seq, Outcome.accepts_valid] at h
  obtain ⟨_, ⟨_, ⟨_, ⟨_, ⟨_, ⟨_, ⟨_, ⟨_, ⟨_, rfl, application, hApplication, rfl⟩,
    database, hDatabase, rfl⟩, -, -, rfl⟩, -, -, rfl⟩, -, -, rfl⟩, -, -, rfl⟩, -, -, rfl⟩,
    -, -, rfl⟩, webSockets, hWebSockets, rfl⟩ := h
  exact ⟨hApplication, hDatabase, hWebSockets⟩

theorem nodeEnv_of_accepted {application : ApplicationEnv}
    (h : (applicationEnv runtime raw).Accepts application) :
    application.nodeEnv = .production ↔ raw "NODE_ENV" = some (.string "production") := by
  simp only [applicationEnv, Outcome.accepts_seq, Outcome.accepts_valid] at h
  obtain ⟨_, ⟨_, ⟨_, ⟨_, ⟨_, ⟨_, ⟨_, rfl, nodeEnv, read, rfl⟩, -, -, rfl⟩, -, -, rfl⟩, -, -, rfl⟩,
    -, -, rfl⟩, -, -, rfl⟩, -, -, rfl⟩ := h
  simp only [field, Outcome.accepts_relabel, withDefault] at read
  cases given : raw "NODE_ENV" with
  | none =>
    have development : nodeEnv = .development := by simpa [given, «enum», List.lookup_cons] using read
    simp [development]
  | some value =>
    cases value with
    | string text =>
      simp only [given, Option.getD_some, «enum»] at read
      split at read
      · rename_i named found
        cases Outcome.accepts_valid.mp read
        simp only [List.lookup_cons, List.lookup_nil] at found
        grind
      · exact absurd read Outcome.not_accepts_invalid
    | _ => simp [given, «enum»] at read

theorem databaseUrl_of_accepted {database : DatabaseEnv}
    (h : (databaseEnv runtime raw).Accepts database) :
    (runtime.parseUrl database.databaseUrl).isSome := by
  simp only [databaseEnv, Outcome.accepts_seq, Outcome.accepts_valid] at h
  obtain ⟨_, ⟨_, ⟨_, ⟨_, ⟨_, rfl, url, read, rfl⟩, -, -, rfl⟩, -, -, rfl⟩, -, -, rfl⟩, -, -,
    rfl⟩ := h
  simp only [field, Outcome.accepts_relabel, connectionUrl, Outcome.accepts_refine] at read
  by_contra malformed
  simp [malformed] at read

theorem wsCorsOrigins_of_accepted {webSockets : WebSocketsEnv}
    (h : (webSocketsEnv runtime raw).Accepts webSockets) :
    (raw "WS_CORS_ORIGINS" = none ∧ webSockets.wsCorsOrigins = []) ∨
      ∃ text, raw "WS_CORS_ORIGINS" = some (.string text) ∧
        webSockets.wsCorsOrigins = entries text := by
  simp only [webSocketsEnv, Outcome.accepts_seq, Outcome.accepts_valid] at h
  obtain ⟨_, ⟨_, ⟨_, rfl, -, -, rfl⟩, -, -, rfl⟩, origins, read, rfl⟩ := h
  simp only [field, Outcome.accepts_relabel, csv, withDefault, Outcome.accepts_transform] at read
  obtain ⟨text, read, rfl⟩ := read
  cases given : raw "WS_CORS_ORIGINS" with
  | none =>
    left
    have empty : text = "" := by simpa [given, string] using read
    subst empty
    exact ⟨rfl, show entries "" = [] by decide⟩
  | some value =>
    right
    cases value with
    | string given' =>
      have same : text = given' := by simpa [given, string] using read
      exact ⟨text, by rw [same], rfl⟩
    | _ => simp [given, string] at read

end

/-! What the browser is let do. -/

def SafeOrigin (origin : String) : Prop :=
  origin ≠ "*" ∧ startsWith origin "http://" = false

/-- What the production invariants are for. -/
structure BrowserSafe (config : AppConfigService) : Prop where
  http : ∀ origin ∈ config.cors.origins, SafeOrigin origin
  webSocket : ∀ origin ∈ config.websocket.corsOrigins, SafeOrigin origin
  cookies : config.cookies.enabled = true ∨ config.cookies.sameSite = .none →
    config.cookies.secure = true

section

variable {runtime : NodeRuntime} {raw : RawEnv} {env : Env}

theorem corsOrigins_of_production (refined : superRefine runtime env = [])
    (production : env.nodeEnv = .production) :
    ∀ origin ∈ env.corsOrigins, SafeOrigin origin := by
  simp only [superRefine, production, if_true, productionIssues, List.append_eq_nil_iff,
    failIf_eq_nil, List.any_eq_true, not_exists, not_and, Bool.not_eq_true] at refined
  obtain ⟨-, ⟨⟨⟨⟨⟨-, wildcard⟩, plaintext⟩, -⟩, -⟩, -⟩⟩ := refined
  intro origin mem
  constructor
  · rintro rfl
    exact wildcard mem
  · exact plaintext origin mem

theorem cookies_of_production (refined : superRefine runtime env = [])
    (production : env.nodeEnv = .production) :
    env.authCookieEnabled = true ∨ env.authCookieSameSite = .none →
      env.authCookieSecure = true := by
  simp only [superRefine, production, if_true, productionIssues, List.append_eq_nil_iff,
    failIf_eq_nil, not_and, not_not] at refined
  obtain ⟨⟨-, sameSite⟩, ⟨⟨⟨⟨⟨⟨-, enabled⟩, -⟩, -⟩, -⟩, -⟩, -⟩⟩ := refined
  rintro (cookies | none)
  · exact enabled cookies
  · exact sameSite none

/-- Emptied and repeated parts make no difference to what a list lets in. -/
theorem safe_entries_iff {text : String} :
    (∀ origin ∈ entries text, SafeOrigin origin) ↔ ∀ part ∈ parts text, SafeOrigin part := by
  simp only [entries, List.mem_eraseDups, List.mem_filter, decide_eq_true_eq, and_imp]
  constructor
  · intro safe part mem
    by_cases empty : part = ""
    · subst empty
      exact ⟨by decide, by decide⟩
    · exact safe part mem empty
  · intro safe origin mem _
    exact safe origin mem

theorem new_of_accepted (accepted : (databaseEnv runtime raw).Accepts env.toDatabaseEnv) :
    ∃ url, AppConfigService.new runtime env = .ok (.assemble env url) := by
  obtain ⟨url, parsed⟩ := Option.isSome_iff_exists.mp (databaseUrl_of_accepted accepted)
  simp [AppConfigService.new, buildDatabaseUrl, parsed, Except.map]

/-- The list of the sockets is the one that nothing checks. -/
theorem browserSafe_assemble_iff {url : String} (refined : superRefine runtime env = [])
    (production : env.nodeEnv = .production) :
    BrowserSafe (.assemble env url) ↔ ∀ origin ∈ env.wsCorsOrigins, SafeOrigin origin := by
  have http := corsOrigins_of_production refined production
  constructor
  · intro safe origin mem
    apply safe.webSocket
    have some : env.wsCorsOrigins.length > 0 := List.length_pos_of_mem mem
    simpa [AppConfigService.assemble, some] using mem
  · intro safe
    refine ⟨http, ?_, cookies_of_production refined production⟩
    intro origin mem
    by_cases some : env.wsCorsOrigins.length > 0
    · apply safe
      simpa [AppConfigService.assemble, some] using mem
    · apply http
      simpa [AppConfigService.assemble, some] using mem

theorem wsCorsOrigins_safe_iff (accepted : (webSocketsEnv runtime raw).Accepts env.toWebSocketsEnv) :
    (∀ origin ∈ env.wsCorsOrigins, SafeOrigin origin) ↔
      ∀ text, raw "WS_CORS_ORIGINS" = some (.string text) →
        ∀ part ∈ parts text, SafeOrigin part := by
  rcases wsCorsOrigins_of_accepted accepted with ⟨unset, empty⟩ | ⟨text, given, read⟩
  · simp [unset, empty]
  · rw [read, safe_entries_iff]
    simp [given]

/-- A production process boots with safe origins exactly if `WS_CORS_ORIGINS` was set to
none but safe ones: no check of the schema reads it. -/
theorem browserSafe_iff (accepted : validateEnv runtime raw = .ok env)
    (production : raw "NODE_ENV" = some (.string "production")) :
    ∃ config, AppConfigService.new runtime env = .ok config ∧
      (BrowserSafe config ↔
        ∀ text, raw "WS_CORS_ORIGINS" = some (.string text) →
          ∀ part ∈ parts text, SafeOrigin part) := by
  obtain ⟨read, refined⟩ := validateEnv_ok_iff.mp accepted
  obtain ⟨application, database, webSockets⟩ := sections_of_accepted read
  obtain ⟨url, built⟩ := new_of_accepted database
  have mode := (nodeEnv_of_accepted application).mpr production
  refine ⟨_, built, ?_⟩
  rw [browserSafe_assemble_iff refined mode]
  exact wsCorsOrigins_safe_iff webSockets

end

/-! A deployment that lets any page open a socket. -/

/-- `application/x-www-form-urlencoded`, of ASCII. -/
def formEncode (text : String) : String :=
  String.ofList (text.toList.flatMap fun c =>
    if c.isAlphanum ∨ c ∈ ['*', '-', '.', '_'] then [c]
    else if c = ' ' then ['+']
    else '%' :: (Nat.toDigits 16 c.toNat).map Char.toUpper)

/-- Enough of Node.js for the deployments below: ASCII, decimal digits, and URLs that bring
no parameters. -/
def sampleRuntime : NodeRuntime where
  toLowerCase text := String.ofList (text.toList.map Char.toLower)
  toNumber text := text.toNat?.map fun value => .finite value
  Url := String
  parseUrl text := if includes text "://" then some text else none
  searchParams _ := []
  withSearch url params :=
    url ++ "?" ++ "&".intercalate (params.map fun param =>
      formEncode param.1 ++ "=" ++ formEncode param.2)

def sampleVariables (wsCorsOrigins : String) : List (String × RawValue) :=
  [("NODE_ENV", .string "production"),
    ("DATABASE_URL", .string "postgres://database/tenantos"),
    ("REDIS_URL", .string "redis://cache:6379"),
    ("JWT_ACCESS_SECRET", .string "k3yF0rTheAccessTokens-0123456789ab"),
    ("JWT_REFRESH_SECRET", .string "k3yF0rTheRefreshTokens-0123456789ab"),
    ("AUTH_COOKIE_SECURE", .string "true"),
    ("CORS_ORIGINS", .string "https://app.example"),
    ("WS_CORS_ORIGINS", .string wsCorsOrigins)]

def sampleEnvironment (wsCorsOrigins : String) : RawEnv :=
  fun key => (sampleVariables wsCorsOrigins).lookup key

theorem validateEnv_of_isOk {runtime : NodeRuntime} {raw : RawEnv}
    (h : (validateEnv runtime raw).isOk) : ∃ env, validateEnv runtime raw = .ok env := by
  cases result : validateEnv runtime raw with
  | error message => simp [result, Except.isOk, Except.toBool] at h
  | ok env => exact ⟨env, rfl⟩

theorem browserSafe_iff_https : ∃ env config,
    validateEnv sampleRuntime (sampleEnvironment "https://app.example, ") = .ok env ∧
      AppConfigService.new sampleRuntime env = .ok config ∧ BrowserSafe config := by
  obtain ⟨env, accepted⟩ := validateEnv_of_isOk
    (show (validateEnv sampleRuntime (sampleEnvironment "https://app.example, ")).isOk by decide +kernel)
  obtain ⟨config, built, safe⟩ := browserSafe_iff accepted rfl
  refine ⟨env, config, accepted, built, safe.mpr ?_⟩
  intro text given
  have set : text = "https://app.example, " := by
    cases given
    rfl
  subst set
  have two : parts "https://app.example, " = ["https://app.example", ""] := by decide
  simp only [two, List.forall_mem_cons, SafeOrigin]
  refine ⟨⟨by decide, by decide⟩, ⟨by decide, by decide⟩, by simp⟩

theorem wildcard_boots : ¬ ∀ (raw : RawEnv) (env : Env) (config : AppConfigService),
    validateEnv sampleRuntime raw = .ok env →
      raw "NODE_ENV" = some (.string "production") →
        AppConfigService.new sampleRuntime env = .ok config → BrowserSafe config := by
  intro claim
  obtain ⟨env, accepted⟩ := validateEnv_of_isOk
    (show (validateEnv sampleRuntime (sampleEnvironment "*")).isOk by decide +kernel)
  obtain ⟨read, refined⟩ := validateEnv_ok_iff.mp accepted
  obtain ⟨application, database, webSockets⟩ := sections_of_accepted read
  obtain ⟨url, built⟩ := new_of_accepted database
  have production := (nodeEnv_of_accepted application).mpr rfl
  have safe := claim _ env _ accepted rfl built
  rw [browserSafe_assemble_iff refined production, wsCorsOrigins_safe_iff webSockets] at safe
  have wildcard := safe "*" rfl "*" (by decide)
  exact wildcard.1 rfl

end TenantOS.Configuration
