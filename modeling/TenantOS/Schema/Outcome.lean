import Mathlib.Tactic.TypeStar

/-! Schemas that report every issue at once. A value that fails a check is kept, so that
the checks after it are made too; where nothing can be read there is no value. -/
namespace TenantOS.Schema

/-- What a schema makes of its input. An input that gives no value has an issue that
says so, so that a refusal is never silent. -/
@[ext] structure Outcome (ι α : Type*) where
  issues : List ι
  value : Option α
  explained : value = none → issues ≠ []

namespace Outcome

variable {ι κ α β : Type*}

def valid (a : α) : Outcome ι α :=
  ⟨[], some a, by simp⟩

def invalid (issue : ι) : Outcome ι α :=
  ⟨[issue], none, by simp⟩

/-- Both sides are read, whatever the other one gives. -/
def seq (f : Outcome ι (α → β)) (x : Outcome ι α) : Outcome ι β where
  issues := f.issues ++ x.issues
  value := f.value.bind fun g => x.value.map g
  explained := by
    intro absent
    cases read : f.value with
    | none =>
      apply List.append_ne_nil_of_left_ne_nil
      exact f.explained read
    | some g =>
      apply List.append_ne_nil_of_right_ne_nil
      apply x.explained
      simpa [read] using absent

def map (f : α → β) (x : Outcome ι α) : Outcome ι β :=
  (valid f).seq x

/-- A check is made on whatever value there is, one that failed others included. -/
def refine (x : Outcome ι α) (check : α → List ι) : Outcome ι α where
  issues := x.issues ++ x.value.elim [] check
  value := x.value
  explained := by
    intro absent
    apply List.append_ne_nil_of_left_ne_nil
    exact x.explained absent

/-- A transformation is run on a value that passed, and on no other. -/
def transform (x : Outcome ι α) (f : α → β) : Outcome ι β where
  issues := x.issues
  value := if x.issues.isEmpty then x.value.map f else none
  explained := by
    intro absent
    cases empty : x.issues.isEmpty with
    | false => simpa using empty
    | true =>
      apply x.explained
      simpa [empty] using absent

def relabel (f : ι → κ) (x : Outcome ι α) : Outcome κ α where
  issues := x.issues.map f
  value := x.value
  explained := by
    intro absent
    simpa using x.explained absent

def safeParse (x : Outcome ι α) : Except (List ι) α :=
  match x.value with
  | some a => if x.issues.isEmpty then .ok a else .error x.issues
  | none => .error x.issues

/-- A value and nothing to say against it. -/
def Accepts (x : Outcome ι α) (a : α) : Prop :=
  x.issues = [] ∧ x.value = some a

theorem safeParse_ok_iff {x : Outcome ι α} {a : α} : x.safeParse = .ok a ↔ x.Accepts a := by
  unfold safeParse Accepts
  cases x.value with
  | none => simp
  | some b => by_cases empty : x.issues = [] <;> simp [empty]

/-- What is reported is every issue, and there is one. -/
theorem safeParse_error {x : Outcome ι α} {issues : List ι} (h : x.safeParse = .error issues) :
    issues = x.issues ∧ issues ≠ [] := by
  unfold safeParse at h
  cases read : x.value with
  | none =>
    simp only [read, Except.error.injEq] at h
    exact ⟨h.symm, h ▸ x.explained read⟩
  | some b =>
    by_cases empty : x.issues = []
    · simp [read, empty] at h
    · simp only [read, List.isEmpty_iff, empty, if_false, Except.error.injEq] at h
      exact ⟨h.symm, h ▸ empty⟩

@[simp] theorem accepts_valid {a b : α} : (valid a : Outcome ι α).Accepts b ↔ b = a := by
  simp [Accepts, valid, eq_comm]

@[simp] theorem not_accepts_invalid {issue : ι} {a : α} : ¬ (invalid issue).Accepts a := by
  simp [Accepts, invalid]

theorem accepts_seq {f : Outcome ι (α → β)} {x : Outcome ι α} {b : β} :
    (f.seq x).Accepts b ↔ ∃ g, f.Accepts g ∧ ∃ a, x.Accepts a ∧ b = g a := by
  simp only [Accepts, seq, List.append_eq_nil_iff, Option.bind_eq_some_iff, Option.map_eq_some_iff]
  constructor
  · rintro ⟨⟨left, right⟩, g, has, a, read, rfl⟩
    exact ⟨g, ⟨left, has⟩, a, ⟨right, read⟩, rfl⟩
  · rintro ⟨g, ⟨left, has⟩, a, ⟨right, read⟩, rfl⟩
    exact ⟨⟨left, right⟩, g, has, a, read, rfl⟩

@[simp] theorem accepts_map {f : α → β} {x : Outcome ι α} {b : β} :
    (x.map f).Accepts b ↔ ∃ a, x.Accepts a ∧ b = f a := by
  simp [map, accepts_seq]

@[simp] theorem accepts_refine {x : Outcome ι α} {check : α → List ι} {a : α} :
    (x.refine check).Accepts a ↔ x.Accepts a ∧ check a = [] := by
  simp only [Accepts, refine, List.append_eq_nil_iff]
  constructor
  · rintro ⟨⟨empty, passed⟩, read⟩
    exact ⟨⟨empty, read⟩, by simpa [read] using passed⟩
  · rintro ⟨⟨empty, read⟩, passed⟩
    exact ⟨⟨empty, by simpa [read] using passed⟩, read⟩

@[simp] theorem accepts_transform {x : Outcome ι α} {f : α → β} {b : β} :
    (x.transform f).Accepts b ↔ ∃ a, x.Accepts a ∧ b = f a := by
  by_cases empty : x.issues = []
  · simp only [Accepts, transform, empty, List.isEmpty_nil, if_true, true_and,
      Option.map_eq_some_iff]
    exact exists_congr fun a => and_congr_right fun _ => eq_comm
  · simp [Accepts, transform, empty]

@[simp] theorem accepts_relabel {f : ι → κ} {x : Outcome ι α} {a : α} :
    (x.relabel f).Accepts a ↔ x.Accepts a := by
  simp [Accepts, relabel]

end Outcome

/-- A property of every issue a schema can report. -/
def Reports {ι α : Type*} (P : ι → Prop) (x : Outcome ι α) : Prop :=
  ∀ issue ∈ x.issues, P issue

namespace Reports

variable {ι κ α β : Type*} {P Q : ι → Prop}

@[simp] theorem valid {a : α} : Reports P (Outcome.valid a) := by
  simp [Reports, Outcome.valid]

@[simp] theorem seq_iff {f : Outcome ι (α → β)} {x : Outcome ι α} :
    Reports P (f.seq x) ↔ Reports P f ∧ Reports P x := by
  simp only [Reports, Outcome.seq, List.forall_mem_append]

theorem refine {x : Outcome ι α} {check : α → List ι} (read : Reports P x)
    (checked : ∀ a, ∀ issue ∈ check a, P issue) : Reports P (x.refine check) := by
  intro issue reported
  apply (List.mem_append.mp reported).elim
  · exact read issue
  · cases x.value with
    | none => simp
    | some a => exact checked a issue

theorem relabel {f : κ → ι} {x : Outcome κ α} (labelled : ∀ issue, P (f issue)) :
    Reports P (x.relabel f) := by
  intro issue reported
  obtain ⟨original, -, rfl⟩ := List.mem_map.mp reported
  exact labelled original

end Reports

end TenantOS.Schema
