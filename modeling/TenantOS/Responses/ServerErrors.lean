import TenantOS.Shared.GlobalExceptionFilter

/-! What a client learns of an error of the server: two runs of the filter on values that
differ in what only the log may see. -/
namespace TenantOS.Responses
open Domain (ErrorCode ErrorKind Failure Json JsonObject asJsonObject)
open Shared Shared.GlobalExceptionFilter

/-! What may be known of a thrown value. -/

/-- The `instanceof`s of the filter tell these apart; the name is the class's own. -/
inductive RuntimeClass where
  | domain (name : String) (kind : Option ErrorKind)
  | throttler (name : String)
  | http (name : String)
  | zod (name : String)
  | infrastructure (name : String)
  | prisma (name : String)
  | timeout (name : String)
  | error (name : String)
  | value (type : String)

def runtimeClass : Thrown → RuntimeClass
  | .domain error kind _ _ _ => .domain error.name kind
  | .throttler error => .throttler error.name
  | .http error _ _ => .http error.name
  | .zod error _ => .zod error.name
  | .infrastructure error _ _ => .infrastructure error.name
  | .prisma error _ => .prisma error.name
  | .timeout error => .timeout error.name
  | .error error => .error error.name
  | .value type _ => .value type

def ownStatus : Thrown → Option Int
  | .throttler _ => some 429
  | .http _ status _ => some status
  | _ => none

/-- One of the catalogue, or one of the driver's. -/
def ownCode : Thrown → Option (ErrorCode ⊕ String)
  | .domain _ _ code _ _ => some (.inl code)
  | .infrastructure _ code _ => some (.inl code)
  | .prisma _ code => some (.inr code)
  | _ => none

/-- They differ only in message, cause, context, stack or payload. -/
structure Similar (first second : Thrown) : Prop where
  sameClass : runtimeClass first = runtimeClass second
  sameStatus : ownStatus first = ownStatus second
  sameCode : ownCode first = ownCode second

theorem Similar.symm {first second : Thrown} (similar : Similar first second) :
    Similar second first where
  sameClass := similar.sameClass.symm
  sameStatus := similar.sameStatus.symm
  sameCode := similar.sameCode.symm

/-- A body without what every reply has of its own. -/
def upToTrace (body : Json) : JsonObject :=
  (asJsonObject body).filter fun entry => entry.1 ≠ "traceId" && entry.1 ≠ "timestamp"

/-- Another value like this one is answered alike, where either answer is a server error. -/
def RevealsNothing (exception : Thrown) : Prop :=
  ∀ (other : Thrown) (host host' : HttpHost) (log log' : LogLine) (status status' : Int)
    (retryAfter retryAfter' : Option String) (body body' : Json), Similar exception other →
      «catch» exception (.http host) = .answered log status retryAfter body →
      «catch» other (.http host') = .answered log' status' retryAfter' body' →
        500 ≤ status ∨ 500 ≤ status' → upToTrace body = upToTrace body'

/-- The shape of `ApiErrorResponse`, its code one of the catalogue. -/
def IsApiErrorResponse (body : Json) : Prop :=
  ∃ (message : String) (code : ErrorCode) (details : JsonObject) (traceId timestamp : String),
    (details = [] ∨ ∃ fields, details = [("details", .object fields)]) ∧
      body = .object ([("success", .bool false), ("message", .string message),
        ("errorCode", .string code.text)] ++ details ++
        [("traceId", .string traceId), ("timestamp", .string timestamp)])

/-- Where there is a reply to write, it has this shape. -/
def AnsweredInShape (exception : Thrown) : Prop :=
  ∀ host : HttpHost, host.headersSent = false →
    ∃ log status retryAfter body,
      «catch» exception (.http host) = .answered log status retryAfter body ∧
        IsApiErrorResponse body

/-! What the filter does, said once. -/

section

variable {response : ApiErrorResponse} {exception : Thrown} {host : HttpHost}
  {normalized : NormalizedError} {log' : LogLine} {status : Int} {retryAfter : Option String}
  {body : Json}

theorem stringify_eq_some_iff : response.stringify = some body ↔
    ∃ details, stringifyDetails response.details = some details ∧
      body = .object ([("success", .bool false), ("message", .string response.message),
        ("errorCode", .string response.errorCode.text)] ++ details ++
        [("traceId", .string response.traceId), ("timestamp", .string response.timestamp)]) := by
  unfold ApiErrorResponse.stringify
  cases stringifyDetails response.details with
  | none => simp
  | some details =>
    simp only [Option.some.injEq, exists_eq_left']
    constructor
    · intro written
      exact (Option.some.inj written).symm
    · rintro rfl
      rfl

theorem shape_of_stringifyDetails {record : Option Record} {details : JsonObject}
    (written : stringifyDetails record = some details) :
    details = [] ∨ ∃ fields, details = [("details", .object fields)] := by
  cases record with
  | none =>
    cases written
    exact .inl rfl
  | some record =>
    obtain ⟨fields, -, rfl⟩ := Option.map_eq_some_iff.mp written
    exact .inr ⟨fields, rfl⟩

theorem isApiErrorResponse_of_stringify (h : response.stringify = some body) :
    IsApiErrorResponse body := by
  obtain ⟨details, written, rfl⟩ := stringify_eq_some_iff.mp h
  exact ⟨_, _, details, _, _, shape_of_stringifyDetails written, rfl⟩

theorem reply_eq_answered_iff {logged : LogLine} :
    reply normalized logged host = .answered log' status retryAfter body ↔
      host.headersSent = false ∧ validStatus normalized.status = true ∧
        (responseOf normalized host).stringify = some body ∧ logged = log' ∧
          normalized.status = status ∧ retryAfterOf normalized host = retryAfter := by
  unfold reply
  cases host.headersSent with
  | true => simp
  | false =>
    cases validStatus normalized.status with
    | false => simp
    | true =>
      cases (responseOf normalized host).stringify with
      | none => simp
      | some json =>
        simp only [Bool.false_eq_true, if_false, if_true, Caught.answered.injEq, true_and,
          Option.some.injEq]
        tauto

theorem catch_eq_answered_iff :
    «catch» exception (.http host) = .answered log' status retryAfter body ↔
      ∃ normalized, GlobalExceptionFilter.normalize exception = some normalized ∧
        ∃ logged, log normalized exception host = some logged ∧
          reply normalized logged host = .answered log' status retryAfter body := by
  unfold GlobalExceptionFilter.catch
  cases GlobalExceptionFilter.normalize exception with
  | none => simp
  | some normalized =>
    cases logged : log normalized exception host with
    | none => simp [logged]
    | some line => simp [logged]

theorem retryAfter_of_tooManyRequests
    (answered : «catch» exception (.http host) = .answered log' 429 retryAfter body) :
    ∃ seconds, retryAfter = some seconds ∧ seconds ≠ "" := by
  obtain ⟨normalized, -, logged, -, replied⟩ := catch_eq_answered_iff.mp answered
  obtain ⟨-, -, -, -, status, rfl⟩ := reply_eq_answered_iff.mp replied
  unfold retryAfterOf
  split
  · exact ⟨"60", rfl, by decide⟩
  · rename_i present
    simp only [status, decide_true, Bool.true_and, Option.isNone_iff_eq_none] at present
    obtain ⟨seconds, given⟩ := Option.ne_none_iff_exists'.mp present
    obtain ⟨set, some⟩ := Option.filter_eq_some_iff.mp given
    exact ⟨seconds, set, by simpa using some⟩

/-- What a body says is the normalized error's, whatever the request. -/
theorem upToTrace_of_stringify (h : (responseOf normalized host).stringify = some body) :
    ∃ details, stringifyDetails normalized.details = some details ∧
      upToTrace body = [("success", .bool false), ("message", .string normalized.message),
        ("errorCode", .string normalized.errorCode.text)] ++ details := by
  obtain ⟨details, written, rfl⟩ := stringify_eq_some_iff.mp h
  refine ⟨details, written, ?_⟩
  rcases shape_of_stringifyDetails written with rfl | ⟨fields, rfl⟩
  all_goals simp [upToTrace, responseOf]

end

/-! When there is a reply. -/

/-- Nothing the filter does with the value throws, and its status is one a reply can have. -/
def Presentable : Thrown → Prop
  | .domain _ _ _ details _ =>
      ∀ record, details = some record → ∀ entry ∈ record, entry.2.json ≠ .throws
  | .http _ status response =>
      match response with
      | .messages raw => ∀ item ∈ raw, item.text.isSome
      | .message raw => raw.text.isSome ∧ validStatus status = true
      | _ => validStatus status = true
  | .zod _ issues => ∀ issue ∈ issues, issueKey issue ∉ inheritedNames
  | .value _ value => value.text.isSome
  | _ => True

theorem stringifyRecord_isSome_iff {record : Record} :
    (stringifyRecord record).isSome ↔ ∀ entry ∈ record, entry.2.json ≠ .throws := by
  induction record with
  | nil => simp [stringifyRecord]
  | cons entry record ih =>
    rw [List.forall_mem_cons, ← ih, stringifyRecord]
    cases stringifyRecord record with
    | none => simp
    | some rest => cases json : entry.2.json <;> simp

theorem mapM_text_isSome_iff {items : List Value} :
    (items.mapM Value.text).isSome ↔ ∀ item ∈ items, item.text.isSome := by
  induction items with
  | nil => simp
  | cons item items ih =>
    rw [List.forall_mem_cons, ← ih, List.mapM_cons]
    cases item.text with
    | none => simp
    | some text => cases items.mapM Value.text <;> simp

section

variable {fields fields' : List (String × List String)} {issue : ZodIssue}

theorem pushIssue_isSome_iff (own : ∀ key ∈ fields.map Prod.fst, key ∉ inheritedNames) :
    (pushIssue fields issue).isSome ↔ issueKey issue ∉ inheritedNames := by
  unfold pushIssue
  by_cases present : issueKey issue ∈ fields.map Prod.fst
  · rw [if_pos present]
    simpa using own _ present
  · rw [if_neg present]
    split <;> simp_all

theorem own_of_pushIssue (own : ∀ key ∈ fields.map Prod.fst, key ∉ inheritedNames)
    (pushed : pushIssue fields issue = some fields') :
    ∀ key ∈ fields'.map Prod.fst, key ∉ inheritedNames := by
  dsimp only [pushIssue] at pushed
  split at pushed
  · cases pushed
    have same : (fields.map fun entry => if entry.1 = issueKey issue then
        (entry.1, entry.2 ++ [issue.message]) else entry).map Prod.fst = fields.map Prod.fst := by
      rw [List.map_map]
      apply List.map_congr_left
      intro entry _
      dsimp only [Function.comp]
      split <;> rfl
    rwa [same]
  · split at pushed
    · cases pushed
    · rename_i free
      cases pushed
      intro key mem
      rw [List.map_append, List.mem_append] at mem
      rcases mem with before | new
      · exact own key before
      · cases List.mem_singleton.mp new
        exact free

/-- An object takes in every issue, unless one is under a name it inherits. -/
theorem foldlM_pushIssue_isSome_iff {issues : List ZodIssue}
    (own : ∀ key ∈ fields.map Prod.fst, key ∉ inheritedNames) :
    (issues.foldlM pushIssue fields).isSome ↔
      ∀ issue ∈ issues, issueKey issue ∉ inheritedNames := by
  induction issues generalizing fields with
  | nil => simp
  | cons issue issues ih =>
    rw [List.foldlM_cons, List.forall_mem_cons, ← pushIssue_isSome_iff own]
    cases pushed : pushIssue fields issue with
    | none => simp
    | some fields' => simpa using ih (own_of_pushIssue own pushed)

theorem collected_isSome_iff {issues : List ZodIssue} :
    (issues.foldlM pushIssue []).isSome ↔ ∀ issue ∈ issues, issueKey issue ∉ inheritedNames :=
  foldlM_pushIssue_isSome_iff (by simp)

end

theorem status_fromDomainError (error : ErrorObject) (kind : Option ErrorKind) (code : ErrorCode)
    (details : Option Record) (isExpected : Bool) :
    400 ≤ (fromDomainError error kind code details isExpected).status ∧
      (fromDomainError error kind code details isExpected).status ≤ 422 := by
  cases kind with
  | none => simp [fromDomainError, DOMAIN_ERROR_STATUS]
  | some kind => cases kind <;> simp [fromDomainError, DOMAIN_ERROR_STATUS]

theorem validStatus_iff {status : Int} :
    validStatus status = true ↔ 100 ≤ status ∧ status ≤ 999 := by
  simp [validStatus]

structure Renders (normalized : NormalizedError) : Prop where
  status : validStatus normalized.status = true
  details : ∀ record, normalized.details = some record → (stringifyRecord record).isSome

theorem stringify_isSome_iff {normalized : NormalizedError} (host : HttpHost) :
    (responseOf normalized host).stringify.isSome ↔
      ∀ record, normalized.details = some record → (stringifyRecord record).isSome := by
  unfold ApiErrorResponse.stringify
  cases given : normalized.details with
  | none => simp [responseOf, given, stringifyDetails]
  | some record =>
    cases written : stringifyRecord record with
    | none => simp [responseOf, given, stringifyDetails, written]
    | some fields => simp [responseOf, given, stringifyDetails, written]

theorem log_isSome_iff {normalized : NormalizedError} {exception : Thrown} {host : HttpHost} :
    (log normalized exception host).isSome ↔ (loggedError exception).isSome := by
  unfold GlobalExceptionFilter.log
  cases loggedError exception <;> simp

/-- A request nothing has been replied to. -/
def freshHost : HttpHost where
  method := "GET"
  originalUrl := "/"
  requestId := none
  headersSent := false
  retryAfter := none
  now := "2026-08-03T12:34:56.789Z"

theorem answeredInShape_iff {exception : Thrown} :
    AnsweredInShape exception ↔
      ∃ normalized, GlobalExceptionFilter.normalize exception = some normalized ∧
        (loggedError exception).isSome ∧ Renders normalized := by
  constructor
  · intro answered
    obtain ⟨line, status, retryAfter, body, answer, -⟩ := answered freshHost rfl
    obtain ⟨normalized, known, logged, ok, replied⟩ := catch_eq_answered_iff.mp answer
    obtain ⟨-, valid, written, -, -, -⟩ := reply_eq_answered_iff.mp replied
    refine ⟨normalized, known, ?_, valid, (stringify_isSome_iff freshHost).mp ?_⟩
    · exact log_isSome_iff.mp (Option.isSome_of_mem ok)
    · exact Option.isSome_of_mem written
  · rintro ⟨normalized, known, shown, renders⟩ host fresh
    have logs : (log normalized exception host).isSome := log_isSome_iff.mpr shown
    obtain ⟨line, logged⟩ := Option.isSome_iff_exists.mp logs
    obtain ⟨body, written⟩ :=
      Option.isSome_iff_exists.mp ((stringify_isSome_iff host).mpr renders.details)
    refine ⟨line, normalized.status, retryAfterOf normalized host, body, ?_,
      isApiErrorResponse_of_stringify written⟩
    rw [catch_eq_answered_iff]
    refine ⟨normalized, known, line, logged, ?_⟩
    rw [reply_eq_answered_iff]
    exact ⟨fresh, renders.status, written, rfl, rfl, rfl⟩

theorem renders_answer_iff {status : Int} {message : String} :
    Renders (fromHttpException.answer status message) ↔ validStatus status = true := by
  constructor
  · intro renders
    exact renders.status
  · intro valid
    exact ⟨valid, by simp [fromHttpException.answer]⟩

theorem renders_fromPrismaError (code : String) : Renders (fromPrismaError code) := by
  unfold fromPrismaError
  refine ⟨?_, ?_⟩
  · split_ifs <;> decide
  · split_ifs <;> simp

theorem presentable_http_iff {error : ErrorObject} {status : Int} {response : HttpResponseBody} :
    (∃ normalized, fromHttpException error status response = some normalized ∧
        Renders normalized) ↔
      Presentable (.http error status response) := by
  cases response with
  | text body =>
    simpa [fromHttpException, Presentable] using renders_answer_iff
  | other =>
    simpa [fromHttpException, Presentable] using renders_answer_iff
  | message raw =>
    cases shown : raw.text with
    | none => simp [fromHttpException, Presentable, shown]
    | some message => simpa [fromHttpException, Presentable, shown] using renders_answer_iff
  | messages raw =>
    rw [Presentable, ← mapM_text_isSome_iff]
    cases shown : raw.mapM Value.text with
    | none => simp [fromHttpException, shown]
    | some violations =>
      simp only [fromHttpException, shown, Option.isSome_some, iff_true]
      refine ⟨_, rfl, rfl, ?_⟩
      intro record given
      cases given
      rfl

theorem presentable_zod_iff {error : ErrorObject} {issues : List ZodIssue} :
    (∃ normalized, fromZodError issues = some normalized ∧ Renders normalized) ↔
      Presentable (.zod error issues) := by
  rw [Presentable, ← collected_isSome_iff]
  cases collected : issues.foldlM pushIssue [] with
  | none => simp [fromZodError, collected]
  | some fields =>
    simp only [fromZodError, collected, Option.isSome_some, iff_true]
    refine ⟨_, rfl, rfl, ?_⟩
    intro record given
    cases given
    rfl

theorem answeredInShape_iff_presentable {exception : Thrown} :
    AnsweredInShape exception ↔ Presentable exception := by
  rw [answeredInShape_iff]
  cases exception with
  | domain error kind code details isExpected =>
    have status := status_fromDomainError error kind code details isExpected
    simp only [GlobalExceptionFilter.normalize, loggedError, Presentable, Option.some.injEq,
      exists_eq_left', Option.isSome_some, true_and]
    constructor
    · intro renders record given
      exact stringifyRecord_isSome_iff.mp (renders.details record given)
    · intro details
      refine ⟨validStatus_iff.mpr (by omega), ?_⟩
      intro record given
      exact stringifyRecord_isSome_iff.mpr (details record given)
  | throttler error =>
    exact iff_of_true ⟨_, rfl, rfl, by decide, by simp⟩ trivial
  | http error status response =>
    rw [← presentable_http_iff]
    simp only [GlobalExceptionFilter.normalize, loggedError, Option.isSome_some, true_and]
  | zod error issues =>
    rw [← presentable_zod_iff]
    simp only [GlobalExceptionFilter.normalize, loggedError, Option.isSome_some, true_and]
  | infrastructure error code context =>
    exact iff_of_true ⟨_, rfl, rfl, rfl, by simp⟩ trivial
  | prisma error code =>
    exact iff_of_true ⟨_, rfl, rfl, renders_fromPrismaError code⟩ trivial
  | timeout | error =>
    exact iff_of_true ⟨_, rfl, rfl, by decide, by simp [unexpected]⟩ trivial
  | value type value =>
    have generic : Renders unexpected := ⟨by decide, by simp [unexpected]⟩
    simp [GlobalExceptionFilter.normalize, loggedError, Presentable, generic]

/-! What a server error says. -/

/-- An error of the framework with a status of its own that is a server's. -/
def CopiesServerError : Thrown → Prop
  | .http _ status _ => 500 ≤ status ∧ status ≤ 999
  | _ => False

theorem Similar.copies {first second : Thrown} (similar : Similar first second)
    (copies : CopiesServerError first) : CopiesServerError second := by
  obtain ⟨sameClass, sameStatus, -⟩ := similar
  cases first with
  | http error status response =>
    cases second <;> simp [runtimeClass] at sameClass
    cases sameStatus
    exact copies
  | _ => cases copies

theorem status_fromHttpException {error : ErrorObject} {status : Int} {response : HttpResponseBody}
    {normalized : NormalizedError}
    (known : fromHttpException error status response = some normalized) :
    normalized.status = status ∨ normalized.status = 422 := by
  cases response with
  | text body =>
    cases known
    exact .inl rfl
  | other =>
    cases known
    exact .inl rfl
  | message raw =>
    cases shown : raw.text with
    | none => simp [fromHttpException, shown] at known
    | some message =>
      simp only [fromHttpException, shown] at known
      cases known
      exact .inl rfl
  | messages raw =>
    cases shown : raw.mapM Value.text with
    | none => simp [fromHttpException, shown] at known
    | some violations =>
      simp only [fromHttpException, shown] at known
      cases known
      exact .inr rfl

theorem status_fromZodError {issues : List ZodIssue} {normalized : NormalizedError}
    (known : fromZodError issues = some normalized) : normalized.status = 422 := by
  unfold fromZodError at known
  cases collected : issues.foldlM pushIssue [] with
  | none => simp [collected] at known
  | some fields =>
    simp only [collected] at known
    cases known
    rfl

/-- Apart from those, a server error is normalized by class and code alone. -/
theorem normalize_similar {first second : Thrown} {normalized : NormalizedError}
    (similar : Similar first second)
    (known : GlobalExceptionFilter.normalize first = some normalized)
    (server : 500 ≤ normalized.status) (valid : validStatus normalized.status = true)
    (generic : ¬ CopiesServerError first) :
    GlobalExceptionFilter.normalize second = some normalized := by
  obtain ⟨sameClass, sameStatus, sameCode⟩ := similar
  cases first with
  | domain error kind code details isExpected =>
    have status := status_fromDomainError error kind code details isExpected
    cases known
    omega
  | throttler error =>
    cases known
    simp at server
  | http error status response =>
    have bound := (validStatus_iff.mp valid).2
    rcases status_fromHttpException known with own | replaced
    · rw [own] at server bound
      exact absurd ⟨server, bound⟩ generic
    · omega
  | zod error issues =>
    have := status_fromZodError known
    omega
  | infrastructure error code context =>
    cases second <;> simp [runtimeClass] at sameClass
    cases sameCode
    exact known
  | prisma error code =>
    cases second <;> simp [runtimeClass] at sameClass
    cases sameCode
    exact known
  | timeout | error =>
    cases second <;> simp [runtimeClass] at sameClass
    exact known
  | value type value =>
    cases second <;> simp [runtimeClass] at sameClass
    exact known

theorem upToTrace_eq {normalized : NormalizedError} {host host' : HttpHost} {body body' : Json}
    (written : (responseOf normalized host).stringify = some body)
    (written' : (responseOf normalized host').stringify = some body') :
    upToTrace body = upToTrace body' := by
  obtain ⟨details, same, reads⟩ := upToTrace_of_stringify written
  obtain ⟨details', same', reads'⟩ := upToTrace_of_stringify written'
  cases same.symm.trans same'
  rw [reads, reads']

theorem revealsNothing_of_generic {exception : Thrown} (generic : ¬ CopiesServerError exception) :
    RevealsNothing exception := by
  intro other host host' log log' status status' retryAfter retryAfter' body body' similar
    answered answered' server
  obtain ⟨normalized, known, _, _, replied⟩ := catch_eq_answered_iff.mp answered
  obtain ⟨normalized', known', _, _, replied'⟩ := catch_eq_answered_iff.mp answered'
  obtain ⟨-, valid, written, -, rfl, -⟩ := reply_eq_answered_iff.mp replied
  obtain ⟨-, valid', written', -, rfl, -⟩ := reply_eq_answered_iff.mp replied'
  have same : normalized = normalized' := by
    rcases server with first | second
    · have := normalize_similar similar known first valid generic
      exact Option.some.inj (this.symm.trans known')
    · have generic' : ¬ CopiesServerError other := fun copies =>
        generic (similar.symm.copies copies)
      have := normalize_similar similar.symm known' second valid' generic'
      exact Option.some.inj (known.symm.trans this)
  subst same
  exact upToTrace_eq written written'

/-- Whatever one of those is answered with, another says something else. -/
theorem not_revealsNothing {error : ErrorObject} {status : Int} {response : HttpResponseBody}
    (server : 500 ≤ status ∧ status ≤ 999)
    (answered : AnsweredInShape (.http error status response)) :
    ¬ RevealsNothing (.http error status response) := by
  intro nothing
  obtain ⟨line, answerStatus, retryAfter, body, answer, -⟩ := answered freshHost rfl
  obtain ⟨normalized, known, _, _, replied⟩ := catch_eq_answered_iff.mp answer
  obtain ⟨-, -, written, -, -, -⟩ := reply_eq_answered_iff.mp replied
  -- the same error with a longer message
  have presentable : Presentable (.http error status (.text (normalized.message ++ "!"))) :=
    validStatus_iff.mpr ⟨by omega, server.2⟩
  obtain ⟨line', status', retryAfter', body', answer', -⟩ :=
    answeredInShape_iff_presentable.mpr presentable freshHost rfl
  obtain ⟨normalized', known', _, _, replied'⟩ := catch_eq_answered_iff.mp answer'
  obtain ⟨-, -, written', -, sent, -⟩ := reply_eq_answered_iff.mp replied'
  cases known'
  have similar : Similar (.http error status response)
      (.http error status (.text (normalized.message ++ "!"))) := ⟨rfl, rfl, rfl⟩
  have high : 500 ≤ status' := by
    rw [← sent]
    exact server.1
  have same := nothing _ _ _ _ _ _ _ _ _ _ _ similar answer answer' (.inr high)
  obtain ⟨_, _, reads⟩ := upToTrace_of_stringify written
  obtain ⟨_, _, reads'⟩ := upToTrace_of_stringify written'
  rw [reads, reads'] at same
  have longer : normalized.message = normalized.message ++ "!" := by
    simp [fromHttpException.answer] at same
    exact same.1
  have := congrArg String.length longer
  simp at this

/-- Server errors reveal nothing, and every reply has its shape, for whatever the filter can
put into words, but the errors of the framework that have a server's status: those are
answered with their own message. -/
theorem server_error_reveals_nothing_iff (exception : Thrown) :
    (RevealsNothing exception ∧ AnsweredInShape exception) ↔
      (Presentable exception ∧ ¬ CopiesServerError exception) := by
  rw [answeredInShape_iff_presentable, and_comm, and_congr_right_iff]
  intro presentable
  constructor
  · intro nothing copies
    cases exception with
    | http error status response =>
      exact not_revealsNothing copies (answeredInShape_iff_presentable.mpr presentable) nothing
    | _ => exact copies
  · exact revealsNothing_of_generic

/-- A connection that was refused, as an error of the framework. -/
def refusedConnection (address : String) : Thrown :=
  .http { name := "HttpException", message := "connect ECONNREFUSED " ++ address } 500
    (.text ("connect ECONNREFUSED " ++ address))

theorem refused_connection_shown :
    ¬ ∀ exception, RevealsNothing exception ∧ AnsweredInShape exception := by
  intro claim
  have similar : Similar (refusedConnection "10.0.0.5:5432") (refusedConnection "10.0.0.7:6379") :=
    ⟨rfl, rfl, rfl⟩
  have same := (claim _).1 _ freshHost freshHost _ _ _ _ _ _ _ _ similar rfl rfl (.inl (by decide))
  simp [upToTrace, responseOf, fromHttpException.answer] at same

/-! What the application's own calls throw. -/

theorem ofDetail_written (detail : Domain.Detail) : (ofDetail detail).json ≠ .throws := by
  cases detail <;> simp [ofDetail, Value.ofString, Value.ofStrings]

/-- No failure of a call is shown to the client, and none is without its reply. -/
theorem failure_reveals_nothing (failure : Failure) :
    RevealsNothing (ofFailure failure) ∧ AnsweredInShape (ofFailure failure) := by
  have generic : ¬ CopiesServerError (ofFailure failure) := by
    cases failure <;> exact not_false
  refine ⟨revealsNothing_of_generic generic, answeredInShape_iff_presentable.mpr ?_⟩
  cases failure with
  | domain error =>
    intro record given entry mem
    obtain ⟨details, -, rfl⟩ := Option.map_eq_some_iff.mp given
    obtain ⟨detail, -, rfl⟩ := List.mem_map.mp mem
    exact ofDetail_written detail.2
  | _ => trivial

end TenantOS.Responses
