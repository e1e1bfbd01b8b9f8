import TenantOS.Configuration.BrowserOrigins
import TenantOS.Modules.AuthCookieService
import TenantOS.Modules.Routes
import Mathlib.Data.List.TakeWhile

/-! Where the refresh cookie goes. Its path and the router's are put together apart, from
the same two variables. -/
namespace TenantOS.Configuration
open Schema Infrastructure.Config Http Modules Modules.Response

/-! The paths as segments. -/

section

variable {config : AppConfigService} {controller : Controller} {handler : Handler}

theorem toList_refreshPath :
    (AuthCookieService.refreshPath config).toList =
      rooted [config.app.apiPrefix.toList, 'v' :: config.app.apiVersion.toList] ++
        rooted ["auth".toList] := by
  simp [AuthCookieService.refreshPath, AppConfigService.apiBasePath]

/-- With a prefix the cookie goes to what is mounted below `auth`. -/
theorem matches_mountedAt_iff (served : controller.version = .default)
    (prefixed : config.app.apiPrefix ≠ "") (named : controller.path ≠ "")
    (whole : '/' ∉ controller.path.toList) (path : List String) :
    pathMatches (AuthCookieService.refreshPath config).toList
        (mountedAt config controller handler path).toList = true ↔
      controller.path = "auth" := by
  have base : rooted (servedBase config) =
      rooted [config.app.apiPrefix.toList, 'v' :: config.app.apiVersion.toList] := by
    simp [servedBase, prefixed]
  rw [toList_mountedAt served, toList_refreshPath, base,
    pathMatches_append_left _ (by simp), List.filter_cons_of_pos (by simpa using named),
    List.map_cons, pathMatches_segment_iff (by decide) (by decide) whole, String.toList_inj]

/-- Without one its path starts with two slashes, and what is mounted with one. -/
theorem not_matches_unprefixed (served : controller.version = .default)
    (unprefixed : config.app.apiPrefix = "") (path : List String) :
    pathMatches (AuthCookieService.refreshPath config).toList
      (mountedAt config controller handler path).toList = false := by
  rw [← Bool.not_eq_true]
  intro matched
  obtain ⟨rest, same⟩ := isPrefix_of_pathMatches matched
  rw [toList_mountedAt served, toList_refreshPath] at same
  simp [servedBase, unprefixed] at same

/-- The service root is above `auth`. -/
theorem not_matches_root (served : controller.version = .default)
    (unnamed : controller.path = "") :
    pathMatches (AuthCookieService.refreshPath config).toList
      (mountedAt config controller handler []).toList = false := by
  rw [← Bool.not_eq_true]
  intro matched
  have shorter := (isPrefix_of_pathMatches matched).length_le
  have root : (("" :: ([] : List String)).filter fun part => part ≠ "") = [] := rfl
  rw [toList_mountedAt served, toList_refreshPath, unnamed, root, servedBase] at shorter
  split at shorter
  all_goals
    simp only [rooted_cons, rooted_nil, List.map_nil, List.nil_append, List.cons_append,
      List.append_nil, List.length_append, List.length_cons] at shorter
    omega

/-- Three slashes at least, and in what stays out of the prefix two at most. -/
theorem not_matches_excluded {method : RequestMethod} {path : String}
    (mem : (method, path) ∈ excluded) :
    pathMatches (AuthCookieService.refreshPath config).toList path.toList = false := by
  rw [← Bool.not_eq_true]
  intro matched
  have fewer := (isPrefix_of_pathMatches matched).sublist.count_le '/'
  have few : ∀ route ∈ excluded, route.2.toList.count '/' ≤ 2 := by decide
  have two : path.toList.count '/' ≤ 2 := few _ mem
  rw [toList_refreshPath] at fewer
  simp at fewer
  omega

/-- A path without parameters is the same in every request. -/
theorem fill_eq {params : String → String} {path : List String}
    (fixed : ∀ segment ∈ path, startsWith segment ":" = false) : fill params path = path := by
  unfold fill
  conv => rhs; rw [← List.map_id path]
  apply List.map_congr_left
  intro segment mem
  simp [fixed segment mem]

end

/-! The table of the routes. -/

theorem versioned_controllers : ∀ controller ∈ otherControllers, controller.version = .default →
    (controller.path = "" ∧ ∀ handler ∈ controller.handlers, handler.path = []) ∨
      (controller.path ≠ "" ∧ controller.path ≠ "auth" ∧ '/' ∉ controller.path.toList) := by
  decide +kernel

theorem neutral_controllers : ∀ controller ∈ otherControllers, controller.version = .neutral →
    ∀ handler ∈ controller.handlers,
      (handler.method, joinParts ("" :: controller.path :: handler.path)) ∈ excluded ∧
        ∀ segment ∈ handler.path, startsWith segment ":" = false := by
  decide +kernel

section

variable {config : AppConfigService}

/-- Whatever the prefix, the cookie stays within the controller of authentication. -/
theorem not_matches_elsewhere {controller : Controller} {handler : Handler}
    (other : controller ∈ otherControllers) (mem : handler ∈ controller.handlers)
    (params : String → String) :
    pathMatches (AuthCookieService.refreshPath config).toList
      (requestPath config controller handler params).toList = false := by
  unfold requestPath
  cases version : controller.version with
  | default =>
    by_cases unprefixed : config.app.apiPrefix = ""
    · exact not_matches_unprefixed version unprefixed _
    rcases versioned_controllers controller other version with
      ⟨unnamed, root⟩ | ⟨named, apart, whole⟩
    · rw [root handler mem]
      exact not_matches_root version unnamed
    · rw [← Bool.not_eq_true, matches_mountedAt_iff version unprefixed named whole]
      exact apart
  | neutral =>
    obtain ⟨out, fixed⟩ := neutral_controllers controller other version handler mem
    have free : versioned config controller handler.path =
        "" :: controller.path :: handler.path := by
      simp [versioned, versionSegment, version]
    have left : isExcluded config controller handler := by
      unfold isExcluded
      rwa [free]
    rw [fill_eq fixed, mountedAt, if_pos left, free]
    exact not_matches_excluded out

end

/-! What the narrow path is for. -/

def refreshHandler : Handler := ⟨"refresh", .post, ["refresh"]⟩

def logoutHandler : Handler := ⟨"logout", .post, ["logout"]⟩

example : refreshHandler ∈ authController.handlers ∧ logoutHandler ∈ authController.handlers := by
  decide

/-- The cookie is sent where it is needed, and nowhere outside authentication. -/
structure KeptToAuth (config : AppConfigService) (path : String) : Prop where
  needed : ∀ handler ∈ [refreshHandler, logoutHandler],
    pathMatches path.toList (mountedPath config authController handler).toList = true
  elsewhere : ∀ controller ∈ otherControllers, ∀ handler ∈ controller.handlers,
    ∀ params : String → String,
      pathMatches path.toList (requestPath config controller handler params).toList = false

section

variable {config : AppConfigService}

theorem keptToAuth_iff :
    KeptToAuth config (AuthCookieService.refreshPath config) ↔ config.app.apiPrefix ≠ "" := by
  constructor
  · intro kept unprefixed
    have reached := kept.needed refreshHandler (by simp)
    rw [mountedPath, not_matches_unprefixed rfl unprefixed] at reached
    cases reached
  · intro prefixed
    refine ⟨?_, fun controller other handler mem params => not_matches_elsewhere other mem params⟩
    intro handler _
    exact (matches_mountedAt_iff rfl prefixed (by decide) (by decide) _).mpr rfl

theorem refresh_cookies_kept_iff :
    (∀ tokens, ∀ cookie ∈ Response.AuthCookieService.setAuthCookies config tokens,
        cookie.name = COOKIE.refreshToken → KeptToAuth config cookie.options.path) ↔
      (config.cookies.enabled = true → config.app.apiPrefix ≠ "") := by
  constructor
  · intro kept enabled
    obtain ⟨cookie, mem, name⟩ := AuthCookieService.refresh_cookie_set enabled ⟨"", ""⟩
    have sent := kept _ cookie mem name
    rw [AuthCookieService.path_of_refresh_cookie mem name] at sent
    exact keptToAuth_iff.mp sent
  · intro prefixed tokens cookie mem name
    rw [AuthCookieService.path_of_refresh_cookie mem name, keptToAuth_iff]
    exact prefixed (AuthCookieService.enabled_of_mem mem)

end

/-! The prefix that was set. -/

theorem stripSlashes_eq_empty_iff {text : String} :
    stripSlashes text = "" ↔ ∀ c ∈ text.toList, c = '/' := by
  have stripped : stripSlashes text = "" ↔ ∀ c ∈ text.toList.dropWhile (· = '/'), c = '/' := by
    simp [stripSlashes, ← String.toList_inj, List.dropWhile_eq_nil_iff]
  rw [stripped]
  constructor
  · intro slashes c mem
    rw [← List.takeWhile_append_dropWhile (p := (· = '/')) (l := text.toList),
      List.mem_append] at mem
    rcases mem with before | after
    · simpa using List.mem_takeWhile_imp before
    · exact slashes c after
  · intro slashes c mem
    exact slashes c (List.dropWhile_subset _ mem)

section

variable {runtime : NodeRuntime} {raw : RawEnv} {env : Env}

theorem apiPrefix_of_accepted {application : ApplicationEnv}
    (h : (applicationEnv runtime raw).Accepts application) :
    (raw "API_PREFIX" = none ∧ application.apiPrefix = "api") ∨
      ∃ text, raw "API_PREFIX" = some (.string text) ∧
        application.apiPrefix = stripSlashes text := by
  simp only [applicationEnv, Outcome.accepts_seq, Outcome.accepts_valid] at h
  obtain ⟨_, ⟨_, ⟨_, ⟨_, ⟨_, ⟨_, ⟨_, rfl, -, -, rfl⟩, -, -, rfl⟩, -, -, rfl⟩, -, -, rfl⟩,
    apiPrefix, read, rfl⟩, -, -, rfl⟩, -, -, rfl⟩ := h
  simp only [field, Outcome.accepts_relabel, rewritten, withDefault,
    Outcome.accepts_transform] at read
  obtain ⟨text, read, rfl⟩ := read
  cases given : raw "API_PREFIX" with
  | none =>
    left
    have usual : text = "api" := by simpa [given, string] using read
    subst usual
    exact ⟨rfl, show stripSlashes "api" = "api" by decide⟩
  | some value =>
    right
    cases value with
    | string given' =>
      have same : text = given' := by simpa [given, string] using read
      exact ⟨text, by rw [same], rfl⟩
    | _ => simp [given, string] at read

theorem apiPrefix_eq_empty_iff {application : ApplicationEnv}
    (h : (applicationEnv runtime raw).Accepts application) :
    application.apiPrefix ≠ "" ↔
      ∀ text, raw "API_PREFIX" = some (.string text) → ∃ c ∈ text.toList, c ≠ '/' := by
  rcases apiPrefix_of_accepted h with ⟨unset, read⟩ | ⟨text, given, read⟩
  · simp [unset, read]
  · rw [read, Ne, stripSlashes_eq_empty_iff]
    simp [given]

/-- The refresh cookie is kept to authentication, and reaches it, exactly if there are no
cookies or the prefix is left with something once its slashes are stripped. -/
theorem refresh_cookie_reaches_iff (accepted : validateEnv runtime raw = .ok env) :
    ∃ config, AppConfigService.new runtime env = .ok config ∧
      ((∀ tokens, ∀ cookie ∈ Response.AuthCookieService.setAuthCookies config tokens,
          cookie.name = COOKIE.refreshToken → KeptToAuth config cookie.options.path) ↔
        (env.authCookieEnabled = true →
          ∀ text, raw "API_PREFIX" = some (.string text) → ∃ c ∈ text.toList, c ≠ '/')) := by
  obtain ⟨read, -⟩ := validateEnv_ok_iff.mp accepted
  obtain ⟨application, database, -⟩ := sections_of_accepted read
  obtain ⟨url, built⟩ := new_of_accepted database
  refine ⟨_, built, ?_⟩
  rw [refresh_cookies_kept_iff, ← apiPrefix_eq_empty_iff application]
  rfl

end

/-! A deployment that serves its API at the root. -/

def prefixedEnvironment (apiPrefix : String) : RawEnv :=
  fun key => (("API_PREFIX", RawValue.string apiPrefix) ::
    sampleVariables "https://app.example").lookup key

theorem refresh_cookie_reaches_iff_nested : ∃ env config,
    validateEnv sampleRuntime (prefixedEnvironment "/tenants/api/") = .ok env ∧
      AppConfigService.new sampleRuntime env = .ok config ∧
        ∀ tokens, ∀ cookie ∈ Response.AuthCookieService.setAuthCookies config tokens,
          cookie.name = COOKIE.refreshToken → KeptToAuth config cookie.options.path := by
  obtain ⟨env, accepted⟩ := validateEnv_of_isOk
    (show (validateEnv sampleRuntime (prefixedEnvironment "/tenants/api/")).isOk by decide +kernel)
  obtain ⟨config, built, kept⟩ := refresh_cookie_reaches_iff accepted
  refine ⟨env, config, accepted, built, kept.mpr ?_⟩
  intro _ text given
  cases given
  exact ⟨'t', by decide, by decide⟩

theorem validateEnv_of_any {runtime : NodeRuntime} {raw : RawEnv} {p : Env → Bool}
    (h : (validateEnv runtime raw).toOption.any p) :
    ∃ env, validateEnv runtime raw = .ok env ∧ p env := by
  cases result : validateEnv runtime raw with
  | error message => simp [result, Except.toOption] at h
  | ok env => exact ⟨env, rfl, by simpa [result, Except.toOption] using h⟩

theorem root_prefix_unreached : ¬ ∀ (raw : RawEnv) (env : Env) (config : AppConfigService),
    validateEnv sampleRuntime raw = .ok env → AppConfigService.new sampleRuntime env = .ok config →
      ∀ tokens, ∀ cookie ∈ Response.AuthCookieService.setAuthCookies config tokens,
        cookie.name = COOKIE.refreshToken → KeptToAuth config cookie.options.path := by
  intro claim
  have boots : (validateEnv sampleRuntime (prefixedEnvironment "/")).toOption.any
      fun env => env.authCookieEnabled && decide (env.apiPrefix = "") := by
    decide +kernel
  obtain ⟨env, accepted, set⟩ := validateEnv_of_any boots
  simp only [Bool.and_eq_true, decide_eq_true_eq] at set
  obtain ⟨_, database, _⟩ := sections_of_accepted (validateEnv_ok_iff.mp accepted).1
  obtain ⟨url, built⟩ := new_of_accepted database
  have prefixed := refresh_cookies_kept_iff.mp (claim _ env _ accepted built) set.1
  exact prefixed set.2

end TenantOS.Configuration
