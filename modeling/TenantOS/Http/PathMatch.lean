import Mathlib.Data.List.Infix
import Mathlib.Tactic.Common

/-! Which requests a browser attaches a cookie to, by the two paths alone. -/
namespace TenantOS.Http

abbrev Path := List Char

/-- A query is not part of it. -/
def pathOf (url : String) : Path :=
  url.toList.takeWhile (· ≠ '?')

/-- The paths are the same, or the cookie's is the start of the request's and a slash ends
it or comes next. -/
def pathMatches (cookiePath requestPath : Path) : Bool :=
  decide (requestPath = cookiePath) ||
    (cookiePath.isPrefixOf requestPath &&
      (decide (cookiePath.getLast? = some '/') ||
        decide (requestPath[cookiePath.length]? = some '/')))

section

variable {cookiePath requestPath : Path}

theorem pathMatches_iff :
    pathMatches cookiePath requestPath = true ↔
      ∃ rest, requestPath = cookiePath ++ rest ∧
        (rest = [] ∨ cookiePath.getLast? = some '/' ∨ rest.head? = some '/') := by
  simp only [pathMatches, Bool.or_eq_true, Bool.and_eq_true, decide_eq_true_eq,
    List.isPrefixOf_iff_prefix]
  constructor
  · rintro (same | ⟨⟨rest, rfl⟩, slash⟩)
    · exact ⟨[], by simp [same], .inl rfl⟩
    · refine ⟨rest, rfl, .inr ?_⟩
      simpa [List.getElem?_append_right, List.head?_eq_getElem?] using slash
  · rintro ⟨rest, rfl, ended | slash⟩
    · left
      simp [ended]
    · right
      refine ⟨List.prefix_append _ _, ?_⟩
      simpa [List.getElem?_append_right, List.head?_eq_getElem?] using slash

theorem isPrefix_of_pathMatches (matched : pathMatches cookiePath requestPath = true) :
    cookiePath <+: requestPath := by
  obtain ⟨rest, rfl, -⟩ := pathMatches_iff.mp matched
  exact List.prefix_append _ _

/-- What both paths start with decides nothing. -/
theorem pathMatches_append_left (common : Path) (some : cookiePath ≠ []) :
    pathMatches (common ++ cookiePath) (common ++ requestPath) =
      pathMatches cookiePath requestPath := by
  have last : (common ++ cookiePath).getLast? = cookiePath.getLast? := by
    rw [List.getLast?_append_of_ne_nil _ some]
  rw [Bool.eq_iff_iff, pathMatches_iff, pathMatches_iff, last]
  simp [List.append_assoc]

end

/-! Paths made of segments. -/

/-- A slash in front of every segment. -/
def rooted (segments : List Path) : Path :=
  segments.flatMap fun segment => '/' :: segment

@[simp] theorem rooted_nil : rooted [] = [] := rfl

@[simp] theorem rooted_cons (segment : Path) (segments : List Path) :
    rooted (segment :: segments) = '/' :: segment ++ rooted segments := rfl

theorem rooted_append (first second : List Path) :
    rooted (first ++ second) = rooted first ++ rooted second :=
  List.flatMap_append

theorem cons_intercalate (segment : Path) (segments : List Path) :
    '/' :: ['/'].intercalate (segment :: segments) = rooted (segment :: segments) := by
  induction segments generalizing segment with
  | nil => simp
  | cons next segments ih => simpa using ih next

/-- Where the first segment of a path ends. -/
theorem takeWhile_rooted {segment : Path} (whole : '/' ∉ segment) (rest : Path)
    (slash : rest = [] ∨ rest.head? = some '/') :
    (segment ++ rest).takeWhile (· ≠ '/') = segment := by
  have free : ∀ c ∈ segment, decide (c ≠ '/') = true := by
    intro c mem
    simpa using fun same : c = '/' => whole (same ▸ mem)
  rw [List.takeWhile_append_of_pos free]
  cases rest with
  | nil => simp
  | cons c rest =>
    have : c = '/' := by simpa using slash
    simp [this]

theorem head?_rooted (segments : List Path) :
    rooted segments = [] ∨ (rooted segments).head? = some '/' := by
  cases segments <;> simp

/-- A cookie for one segment goes to the paths that start with this segment. -/
theorem pathMatches_segment_iff {segment first : Path} {rest : List Path} (some : segment ≠ [])
    (whole : '/' ∉ segment) (wholeFirst : '/' ∉ first) :
    pathMatches (rooted [segment]) (rooted (first :: rest)) = true ↔ first = segment := by
  have start : pathMatches (rooted [segment]) (rooted (first :: rest)) =
      pathMatches segment (first ++ rooted rest) := by
    simpa using pathMatches_append_left ['/'] some
  have last : segment.getLast? ≠ Option.some '/' := by
    intro ends
    exact whole (List.mem_of_getLast? ends)
  rw [start, pathMatches_iff]
  constructor
  · rintro ⟨tail, same, slash⟩
    have := congrArg (List.takeWhile (· ≠ '/')) same
    rwa [takeWhile_rooted wholeFirst _ (head?_rooted rest),
      takeWhile_rooted whole tail (by simpa [last] using slash)] at this
  · rintro rfl
    refine ⟨_, rfl, ?_⟩
    simpa [last] using head?_rooted rest

end TenantOS.Http
