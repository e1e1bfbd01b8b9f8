import Mathlib.Data.Int.Notation
import Mathlib.Logic.Function.Basic
import Mathlib.Tactic.Common

/-! The series that are kept for every request, and the interceptor that moves them:
one half before the handler, the other when its result, its error or the loss of its
caller ends the call. -/
namespace TenantOS.Observability

/-- One time series of the counter and of the histogram. -/
structure Series where
  method : String
  route : String
  status : String
deriving DecidableEq, Repr

/-- The registry, as far as requests move it. -/
structure MetricsService where
  httpRequestsInFlight : String → Int
  httpRequestsTotal : Series → Nat
  /-- The observations of each series, in nanoseconds, oldest first. -/
  httpRequestDuration : Series → List Nat

def MetricsService.empty : MetricsService where
  httpRequestsInFlight _ := 0
  httpRequestsTotal _ := 0
  httpRequestDuration _ := []

/-- `request.route`: the layer Express matched, whose path may be no text. -/
inductive MatchedRoute where
  | none
  | layer (path : Option String)

structure MetricsRequest where
  method : String
  baseUrl : String
  route : MatchedRoute

namespace MetricsInterceptor

def routeOf (request : MetricsRequest) : String :=
  match request.route with
  | .layer (some path) => request.baseUrl ++ path
  | .layer none | .none => "unmatched"

/-- What the interceptor remembers of a call it let through. -/
structure Timer where
  method : String
  route : String
  startedAt : Nat

def intercept (metrics : MetricsService) (request : MetricsRequest) (now : Nat) :
    MetricsService × Timer :=
  ({ metrics with
      httpRequestsInFlight := Function.update metrics.httpRequestsInFlight request.method
        (metrics.httpRequestsInFlight request.method + 1) },
    ⟨request.method, routeOf request, now⟩)

def Timer.series (timer : Timer) (statusCode : Nat) : Series :=
  ⟨timer.method, timer.route, toString statusCode⟩

/-- The callback of `finalize`. -/
def finalize (metrics : MetricsService) (timer : Timer) (statusCode now : Nat) :
    MetricsService where
  httpRequestDuration := Function.update metrics.httpRequestDuration (timer.series statusCode)
    (metrics.httpRequestDuration (timer.series statusCode) ++ [now - timer.startedAt])
  httpRequestsTotal := Function.update metrics.httpRequestsTotal (timer.series statusCode)
    (metrics.httpRequestsTotal (timer.series statusCode) + 1)
  httpRequestsInFlight := Function.update metrics.httpRequestsInFlight timer.method
    (metrics.httpRequestsInFlight timer.method - 1)

section

variable {metrics : MetricsService} {request : MetricsRequest} {timer : Timer}
  {statusCode now : Nat}

@[simp] theorem intercept_httpRequestsTotal :
    (intercept metrics request now).1.httpRequestsTotal = metrics.httpRequestsTotal := rfl

@[simp] theorem intercept_httpRequestDuration :
    (intercept metrics request now).1.httpRequestDuration = metrics.httpRequestDuration := rfl

@[simp] theorem intercept_method : (intercept metrics request now).2.method = request.method := rfl

theorem intercept_httpRequestsInFlight (method : String) :
    (intercept metrics request now).1.httpRequestsInFlight method =
      metrics.httpRequestsInFlight method + if request.method = method then 1 else 0 := by
  simp only [intercept, Function.update_apply, eq_comm (a := method)]
  split
  · rename_i same
    rw [same]
  · simp

theorem finalize_httpRequestsInFlight (method : String) :
    (finalize metrics timer statusCode now).httpRequestsInFlight method =
      metrics.httpRequestsInFlight method - if timer.method = method then 1 else 0 := by
  simp only [finalize, Function.update_apply, eq_comm (a := method)]
  split
  · rename_i same
    rw [same]
  · simp

theorem finalize_httpRequestsTotal (series : Series) :
    (finalize metrics timer statusCode now).httpRequestsTotal series =
      metrics.httpRequestsTotal series + if timer.series statusCode = series then 1 else 0 := by
  simp only [finalize, Function.update_apply, eq_comm (a := series)]
  split
  · rename_i same
    rw [same]
  · simp

theorem finalize_httpRequestDuration_length (series : Series) :
    ((finalize metrics timer statusCode now).httpRequestDuration series).length =
      (metrics.httpRequestDuration series).length +
        if timer.series statusCode = series then 1 else 0 := by
  simp only [finalize, Function.update_apply, eq_comm (a := series)]
  split
  · rename_i same
    rw [same]
    simp
  · simp

end

end MetricsInterceptor

end TenantOS.Observability
