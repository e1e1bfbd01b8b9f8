import TenantOS.Workspaces.DerivedSlugs

/-! What the service hands to the repositories of a body that a DTO let through, and the
columns it goes to. A body may hold a null wherever a property is optional, which the types
of the service do not tell: the updates pass it on, the creations put a default there. -/
namespace TenantOS.Workspaces

open TenantOS.Domain TenantOS.Modules

inductive ColumnType where
  | uuid
  | varchar (width : Nat)
  | text
  | json
deriving DecidableEq

structure Column where
  type : ColumnType
  nullable : Bool
deriving DecidableEq

/-- An undefined value is not written. PostgreSQL counts the characters of a VARCHAR. -/
def Column.holds (column : Column) : Option Json → Bool
  | none | some .null => column.nullable
  | some (.string text) =>
      match column.type with
      | .varchar width => text.length ≤ width
      | _ => true
  | some _ => column.type = .json

inductive Endpoint where
  | createWorkspace
  | createFolder
  | createWorkflow
  | updateWorkflow
  | updateCredential
deriving DecidableEq, Repr

namespace Endpoint

def dto : Endpoint → Dto
  | createWorkspace => createWorkspaceDto
  | createFolder => createFolderDto
  | createWorkflow => createWorkflowDto
  | updateWorkflow => updateWorkflowDto
  | updateCredential => updateCredentialDto

/-- The columns that what is handed on goes to; an id minted for another row goes to the
key of that row. -/
def columns : Endpoint → List (String × Column)
  | createWorkspace =>
      [("id", ⟨.uuid, false⟩), ("userId", ⟨.uuid, false⟩), ("name", ⟨.varchar 200, false⟩),
        ("slug", ⟨.varchar 100, false⟩), ("description", ⟨.text, true⟩),
        ("settings", ⟨.json, false⟩), ("defaultFolderId", ⟨.uuid, false⟩)]
  | createFolder =>
      [("id", ⟨.uuid, false⟩), ("workspaceId", ⟨.uuid, false⟩), ("name", ⟨.varchar 200, false⟩),
        ("slug", ⟨.varchar 200, false⟩), ("description", ⟨.text, true⟩)]
  | createWorkflow | updateWorkflow =>
      [("id", ⟨.uuid, false⟩), ("initialVersionId", ⟨.uuid, false⟩),
        ("workspaceId", ⟨.uuid, false⟩), ("folderId", ⟨.uuid, true⟩),
        ("name", ⟨.varchar 250, false⟩), ("slug", ⟨.varchar 150, false⟩),
        ("description", ⟨.text, true⟩), ("createdBy", ⟨.uuid, true⟩),
        ("settings", ⟨.json, false⟩), ("metadata", ⟨.json, false⟩)]
  | updateCredential =>
      [("name", ⟨.varchar 200, false⟩), ("type", ⟨.varchar 100, false⟩),
        ("provider", ⟨.varchar 100, false⟩), ("credentials", ⟨.json, false⟩),
        ("metadata", ⟨.json, false⟩)]

/-- The updates take every property as it is. -/
def isUpdate : Endpoint → Bool
  | updateWorkflow | updateCredential => true
  | _ => false

end Endpoint

/-- What is not the body's: the ids of the path and of the token, and those minted here. -/
structure Ids where
  id : Uuid
  second : Uuid
  workspaceId : Uuid
  folderId : Uuid
  userId : Uuid

/-- The instance of a DTO, by property. -/
abbrev Input := String → Option Json

/-- `value ?? fallback` -/
def orElse (value : Option Json) (fallback : Json) : Json :=
  match value with
  | none | some .null => fallback
  | some value => value

/-- The DTOs let nothing but strings through where a string is read. -/
def textOf : Option Json → String
  | some (.string text) => text
  | _ => ""

/-- `...(input[name] !== undefined ? { [name]: input[name] } : {})` -/
def spread (input : Input) (name : String) : List (String × Option Json) :=
  match input name with
  | some value => [(name, some value)]
  | none => []

section

variable (nfkd : String → String) (ids : Ids) (input : Input)

def slugOrDerived : Json :=
  orElse (input "slug") (.string (slugify nfkd (textOf (input "name"))))

/-- The object an endpoint's method hands to its repository. -/
def handed : Endpoint → List (String × Option Json)
  | .createWorkspace =>
      [("id", some (.string ids.id)),
        ("userId", some (.string ids.userId)),
        ("name", input "name"),
        ("slug", some (slugOrDerived nfkd input)),
        ("description", some (orElse (input "description") .null)),
        ("settings", some (orElse (input "settings") (.object []))),
        ("defaultFolderId", some (.string ids.second))]
  | .createFolder =>
      [("id", some (.string ids.id)),
        ("workspaceId", some (.string ids.workspaceId)),
        ("name", input "name"),
        ("slug", some (slugOrDerived nfkd input)),
        ("description", some (orElse (input "description") .null))]
  | .createWorkflow =>
      [("id", some (.string ids.id)),
        ("initialVersionId", some (.string ids.second)),
        ("workspaceId", some (.string ids.workspaceId)),
        ("folderId", some (.string ids.folderId)),
        ("name", input "name"),
        ("slug", some (slugOrDerived nfkd input)),
        ("description", some (orElse (input "description") .null)),
        ("createdBy", some (.string ids.userId)),
        ("settings", some (orElse (input "settings") (.object []))),
        ("metadata", some (orElse (input "metadata") (.object [])))]
  | .updateWorkflow =>
      spread input "name" ++ spread input "slug" ++ spread input "description" ++
        spread input "settings" ++ spread input "metadata"
  | .updateCredential =>
      spread input "name" ++ spread input "type" ++ spread input "provider" ++
        spread input "credentials" ++ spread input "metadata"

/-- The slug of a creation whose body brings none. -/
def derivedSlug (endpoint : Endpoint) : Option String :=
  if !endpoint.isUpdate && Property.isNil (input "slug") then
    some (slugify nfkd (textOf (input "name")))
  else none

def FitsColumn (endpoint : Endpoint) (entry : String × Option Json) : Prop :=
  ∃ column, endpoint.columns.lookup entry.1 = some column ∧ column.holds entry.2 = true

/-- Every value handed on has a column that holds it, and a slug that was derived is one
that the body could have brought. -/
structure Fits (validator : Validator) (endpoint : Endpoint) : Prop where
  columns : ∀ entry ∈ handed nfkd ids input endpoint, FitsColumn endpoint entry
  slug : ∀ slug ∈ derivedSlug nfkd input endpoint, ∀ property ∈ endpoint.dto,
    property.name = "slug" → property.accepts validator (some (.string slug)) = true

/-! What a DTO lets through and a column does not hold. -/

/-- A workspace without a slug of its own, named at such length that the derived one is
too long: it is cut for another table. -/
def LongSlug (endpoint : Endpoint) : Prop :=
  endpoint = .createWorkspace ∧ Property.isNil (input "slug") = true ∧
    100 < (slugify nfkd (textOf (input "name"))).length

/-- An update to null of a column that is never null. -/
def NullForRequired (endpoint : Endpoint) : Prop :=
  endpoint.isUpdate = true ∧ ∃ name column, endpoint.columns.lookup name = some column ∧
    column.nullable = false ∧ input name = some .null

/-- A text that `MaxLength` measures shorter than the column it fills. -/
def UnderMeasured (validator : Validator) (endpoint : Endpoint) : Prop :=
  ∃ name width text nullable,
    endpoint.columns.lookup name = some ⟨.varchar width, nullable⟩ ∧
      input name = some (.string text) ∧ validator.length text ≤ width ∧ width < text.length

end

/-! What a property that was let through can be. -/

section

variable {validator : Validator} {property : Property} {value : Option Json}

theorem accepts_cases (h : property.accepts validator value = true) :
    (property.isOptional = true ∧ Property.isNil value = true) ∨
      ∀ check ∈ property.checks, check.passes validator value = true := by
  simpa [Property.accepts] using h

theorem text_of_isString (h : Check.isString.passes validator value = true) :
    ∃ text, value = some (.string text) := by
  rcases value with _ | (_ | _ | _ | text | _ | _) <;>
    first
    | exact ⟨text, rfl⟩
    | simp [Check.passes] at h

theorem fields_of_isObject (h : Check.isObject.passes validator value = true) :
    ∃ fields, value = some (.object fields) := by
  rcases value with _ | (_ | _ | _ | _ | _ | fields) <;>
    first
    | exact ⟨fields, rfl⟩
    | simp [Check.passes] at h

theorem isNil_some {value : Json} (h : Property.isNil (some value) = true) : value = .null := by
  cases value <;> simp [Property.isNil] at h
  rfl

/-- The decorators of a property are the ones its column asks for. -/
def Guards (property : Property) (column : Column) : Bool :=
  match column.type with
  | .uuid => false
  | .varchar width => property.checks.contains .isString && property.checks.contains (.maxLength width)
  | .text => property.checks.contains .isString
  | .json => property.checks.contains .isObject

/-- A value let through fits the column but for a null and a text measured too short. -/
theorem holds_iff {column : Column} {value : Json} (guards : Guards property column = true)
    (h : property.accepts validator (some value) = true) :
    column.holds (some value) = true ↔
      ¬ (column.nullable = false ∧ value = .null) ∧
        ¬ ∃ width text, column.type = .varchar width ∧ value = .string text ∧
          validator.length text ≤ width ∧ width < text.length := by
  rcases accepts_cases h with ⟨-, nil⟩ | passed
  · cases isNil_some nil
    simp [Column.holds]
  · obtain ⟨type, nullable⟩ := column
    cases type with
    | uuid => simp [Guards] at guards
    | varchar width =>
      simp only [Guards, Bool.and_eq_true, List.contains_iff_mem] at guards
      obtain ⟨text, shape⟩ := text_of_isString (passed _ guards.1)
      cases shape
      have short : validator.length text ≤ width := by
        simpa [Check.passes] using passed _ guards.2
      simp [Column.holds, short]
    | text =>
      obtain ⟨text, shape⟩ := text_of_isString (passed .isString (by simpa [Guards] using guards))
      cases shape
      simp [Column.holds]
    | json =>
      obtain ⟨fields, shape⟩ := fields_of_isObject (passed .isObject (by simpa [Guards] using guards))
      cases shape
      simp [Column.holds]

theorem accepts_property {dto : Dto} {body : JsonObject} (accepted : dto.accepts validator body = true)
    (mem : property ∈ dto) :
    property.accepts validator (dto.toInstance body property.name) = true := by
  simp only [Dto.accepts, Bool.and_eq_true, List.all_eq_true] at accepted
  exact accepted.2 property mem

theorem declared_of_some {dto : Dto} {body : JsonObject} {name : String} {value : Json}
    (h : dto.toInstance body name = some value) : ∃ property ∈ dto, property.name = name := by
  obtain ⟨property, found, -⟩ := Option.bind_eq_some_iff.mp h
  exact ⟨property, List.mem_of_find?_eq_some found, by simpa using List.find?_some found⟩

/-- Every property of a DTO goes to a column that its decorators are made for. -/
theorem guarded (endpoint : Endpoint) : ∀ property ∈ endpoint.dto,
    (endpoint.columns.lookup property.name).any (Guards property) = true := by
  cases endpoint <;> decide

end

/-! The updates: each property goes to its column as it is. -/

section

variable {validator : Validator} {nfkd : String → String} {ids : Ids} {input : Input}
  {endpoint : Endpoint} {body : JsonObject}

theorem mem_spread {name : String} {entry : String × Option Json} :
    entry ∈ spread input name ↔ ∃ value, input name = some value ∧ entry = (name, some value) := by
  unfold spread
  split <;> simp_all

theorem mem_handed_update (update : endpoint.isUpdate = true) {entry : String × Option Json} :
    entry ∈ handed nfkd ids input endpoint ↔ ∃ property ∈ endpoint.dto, ∃ value,
      input property.name = some value ∧ entry = (property.name, some value) := by
  cases endpoint with
  | updateWorkflow =>
    simp only [handed, List.mem_append, mem_spread, Endpoint.dto, updateWorkflowDto,
      List.exists_mem_cons_iff, optionalText, optionalDescription, optionalSlug, optionalObject,
      List.not_mem_nil, false_and, exists_false, or_false,
      or_assoc]
    exact or_congr_right or_left_comm
  | updateCredential =>
    simp only [handed, List.mem_append, mem_spread, Endpoint.dto, updateCredentialDto,
      List.exists_mem_cons_iff, optionalText, optionalObject, List.not_mem_nil, false_and,
      exists_false, or_false, or_assoc]
  | _ => simp [Endpoint.isUpdate] at update

theorem update_fits_iff (update : endpoint.isUpdate = true)
    (accepted : endpoint.dto.accepts validator body = true) :
    (∀ entry ∈ handed nfkd ids (endpoint.dto.toInstance body) endpoint,
        FitsColumn endpoint entry) ↔
      ¬ NullForRequired (endpoint.dto.toInstance body) endpoint ∧
        ¬ UnderMeasured (endpoint.dto.toInstance body) validator endpoint := by
  -- a value of the body fits its column or is one of the two
  have each : ∀ property ∈ endpoint.dto, ∀ value,
      endpoint.dto.toInstance body property.name = some value → ∀ column,
        endpoint.columns.lookup property.name = some column →
          (column.holds (some value) = true ↔
            ¬ (column.nullable = false ∧ value = .null) ∧
              ¬ ∃ width text, column.type = .varchar width ∧ value = .string text ∧
                validator.length text ≤ width ∧ width < text.length) := by
    intro property mem value given column found
    have guards := guarded endpoint property mem
    rw [found] at guards
    apply holds_iff guards
    rw [← given]
    exact accepts_property accepted mem
  constructor
  · intro fits
    constructor
    · rintro ⟨-, name, column, found, required, given⟩
      obtain ⟨property, mem, rfl⟩ := declared_of_some given
      obtain ⟨column', found', held⟩ :=
        fits _ ((mem_handed_update update).mpr ⟨property, mem, .null, given, rfl⟩)
      cases found.symm.trans found'
      exact ((each property mem _ given column found).mp held).1 ⟨required, rfl⟩
    · rintro ⟨name, width, text, nullable, found, given, measured, longer⟩
      obtain ⟨property, mem, rfl⟩ := declared_of_some given
      obtain ⟨column', found', held⟩ :=
        fits _ ((mem_handed_update update).mpr ⟨property, mem, _, given, rfl⟩)
      cases found.symm.trans found'
      exact ((each property mem _ given _ found).mp held).2 ⟨width, text, rfl, rfl, measured, longer⟩
  · rintro ⟨notNull, notLonger⟩ entry written
    obtain ⟨property, mem, value, given, rfl⟩ := (mem_handed_update update).mp written
    obtain ⟨column, found, -⟩ := (Option.any_eq_true _ _).mp (guarded endpoint property mem)
    refine ⟨column, found, (each property mem value given column found).mpr ⟨?_, ?_⟩⟩
    · rintro ⟨required, rfl⟩
      exact notNull ⟨update, property.name, column, found, required, given⟩
    · rintro ⟨width, text, shape, rfl, measured, longer⟩
      obtain ⟨type, nullable⟩ := column
      cases shape
      exact notLonger ⟨property.name, width, text, nullable, found, given, measured, longer⟩

end

/-! The creations: the slug is the body's or the one derived from the name, and what a body
leaves out has a default. -/

section

variable {validator : Validator} {nfkd : String → String} {ids : Ids} {input : Input}
  {endpoint : Endpoint} {body : JsonObject} {nameWidth slugWidth : Nat}

/-- What the creations have in common: a name and a slug are their only texts of bounded
width, and the DTO bounds them by that width. -/
structure Creation (endpoint : Endpoint) (nameWidth slugWidth : Nat) : Prop where
  notUpdate : endpoint.isUpdate = false
  name : requiredText "name" nameWidth ∈ endpoint.dto
  slug : optionalSlug slugWidth ∈ endpoint.dto
  oneSlug : ∀ property ∈ endpoint.dto, property.name = "slug" → property = optionalSlug slugWidth
  nameColumn : endpoint.columns.lookup "name" = some ⟨.varchar nameWidth, false⟩
  slugColumn : endpoint.columns.lookup "slug" = some ⟨.varchar slugWidth, false⟩
  texts : ∀ entry ∈ endpoint.columns, ∀ width, entry.2.type = .varchar width →
    entry.1 = "name" ∨ entry.1 = "slug"
  handsName : ∀ nfkd ids input, ("name", input "name") ∈ handed nfkd ids input endpoint
  handsSlug : ∀ nfkd ids input,
    ("slug", some (slugOrDerived nfkd input)) ∈ handed nfkd ids input endpoint
  others : ∀ validator nfkd ids body, endpoint.dto.accepts validator body = true →
    ∀ entry ∈ handed nfkd ids (endpoint.dto.toInstance body) endpoint,
      entry = ("name", endpoint.dto.toInstance body "name") ∨
        entry = ("slug", some (slugOrDerived nfkd (endpoint.dto.toInstance body))) ∨
          FitsColumn endpoint entry

theorem fits_id {name : String} {id : Uuid} {nullable : Bool}
    (found : endpoint.columns.lookup name = some ⟨.uuid, nullable⟩) :
    FitsColumn endpoint (name, some (.string id)) :=
  ⟨_, found, rfl⟩

theorem orElse_cases (value : Option Json) (fallback : Json) :
    (Property.isNil value = true ∧ orElse value fallback = fallback) ∨
      ∃ given, value = some given ∧ given ≠ .null ∧ orElse value fallback = given := by
  rcases value with _ | (_ | _ | _ | _ | _ | _)
  · exact .inl ⟨rfl, rfl⟩
  · exact .inl ⟨rfl, rfl⟩
  all_goals exact .inr ⟨_, rfl, by simp, rfl⟩

/-- A column without a width holds what the body brings and the default alike. -/
theorem fits_orElse (property : Property) (fallback : Json) {column : Column}
    (accepted : endpoint.dto.accepts validator body = true) (mem : property ∈ endpoint.dto)
    (found : endpoint.columns.lookup property.name = some column)
    (unbounded : ∀ width, column.type ≠ .varchar width)
    (held : column.holds (some fallback) = true) :
    FitsColumn endpoint
      (property.name, some (orElse (endpoint.dto.toInstance body property.name) fallback)) := by
  refine ⟨column, found, ?_⟩
  rcases orElse_cases (endpoint.dto.toInstance body property.name) fallback with
    ⟨-, default⟩ | ⟨given, present, notNull, kept⟩
  · rw [default]
    exact held
  · have guards := guarded endpoint property mem
    have passed := accepts_property accepted mem
    rw [found] at guards
    rw [present] at passed
    rw [kept, holds_iff guards passed]
    refine ⟨fun null => notNull null.2, ?_⟩
    rintro ⟨width, -, bounded, -⟩
    exact unbounded width bounded

theorem creation_createWorkspace : Creation .createWorkspace 200 100 where
  notUpdate := rfl
  name := by simp [Endpoint.dto, createWorkspaceDto]
  slug := by simp [Endpoint.dto, createWorkspaceDto]
  oneSlug := by
    simp [Endpoint.dto, createWorkspaceDto, requiredText, optionalDescription, optionalObject]
  nameColumn := by decide
  slugColumn := by decide
  texts := by simp [Endpoint.columns]
  handsName := by simp [handed]
  handsSlug := by simp [handed]
  others := by
    intro validator nfkd ids body accepted
    have description := fits_orElse optionalDescription .null accepted
      (by simp [Endpoint.dto, createWorkspaceDto]) rfl (by simp) rfl
    have settings := fits_orElse (optionalObject "settings") (.object []) accepted
      (by simp [Endpoint.dto, createWorkspaceDto]) rfl (by simp) rfl
    simp only [handed, List.forall_mem_cons]
    exact ⟨.inr (.inr (fits_id rfl)), .inr (.inr (fits_id rfl)), .inl trivial,
      .inr (.inl trivial), .inr (.inr description), .inr (.inr settings),
      .inr (.inr (fits_id rfl)), by simp⟩

theorem creation_createFolder : Creation .createFolder 200 200 where
  notUpdate := rfl
  name := by simp [Endpoint.dto, createFolderDto]
  slug := by simp [Endpoint.dto, createFolderDto]
  oneSlug := by simp [Endpoint.dto, createFolderDto, requiredText, optionalDescription]
  nameColumn := by decide
  slugColumn := by decide
  texts := by simp [Endpoint.columns]
  handsName := by simp [handed]
  handsSlug := by simp [handed]
  others := by
    intro validator nfkd ids body accepted
    have description := fits_orElse optionalDescription .null accepted
      (by simp [Endpoint.dto, createFolderDto]) rfl (by simp) rfl
    simp only [handed, List.forall_mem_cons]
    exact ⟨.inr (.inr (fits_id rfl)), .inr (.inr (fits_id rfl)), .inl trivial,
      .inr (.inl trivial), .inr (.inr description), by simp⟩

theorem creation_createWorkflow : Creation .createWorkflow 250 150 where
  notUpdate := rfl
  name := by simp [Endpoint.dto, createWorkflowDto]
  slug := by simp [Endpoint.dto, createWorkflowDto]
  oneSlug := by
    simp [Endpoint.dto, createWorkflowDto, requiredText, optionalDescription, optionalObject]
  nameColumn := by decide
  slugColumn := by decide
  texts := by simp [Endpoint.columns]
  handsName := by simp [handed]
  handsSlug := by simp [handed]
  others := by
    intro validator nfkd ids body accepted
    have description := fits_orElse optionalDescription .null accepted
      (by simp [Endpoint.dto, createWorkflowDto]) rfl (by simp) rfl
    have settings := fits_orElse (optionalObject "settings") (.object []) accepted
      (by simp [Endpoint.dto, createWorkflowDto]) rfl (by simp) rfl
    have metadata := fits_orElse (optionalObject "metadata") (.object []) accepted
      (by simp [Endpoint.dto, createWorkflowDto]) rfl (by simp) rfl
    simp only [handed, List.forall_mem_cons]
    exact ⟨.inr (.inr (fits_id rfl)), .inr (.inr (fits_id rfl)), .inr (.inr (fits_id rfl)),
      .inr (.inr (fits_id rfl)), .inl trivial, .inr (.inl trivial), .inr (.inr description),
      .inr (.inr (fits_id rfl)), .inr (.inr settings), .inr (.inr metadata), by simp⟩

namespace Creation

theorem named (creation : Creation endpoint nameWidth slugWidth)
    (accepted : endpoint.dto.accepts validator body = true) :
    ∃ text, endpoint.dto.toInstance body "name" = some (.string text) ∧
      validator.length text ≤ nameWidth := by
  rcases accepts_cases (accepts_property accepted creation.name) with ⟨optional, -⟩ | passed
  · cases optional
  · obtain ⟨text, shape⟩ := text_of_isString (passed .isString (by simp [requiredText]))
    have shape : endpoint.dto.toInstance body "name" = some (.string text) := shape
    refine ⟨text, shape, ?_⟩
    have short := passed (.maxLength nameWidth) (by simp [requiredText])
    simpa [requiredText, shape, Check.passes] using short

theorem slugged (creation : Creation endpoint nameWidth slugWidth)
    (accepted : endpoint.dto.accepts validator body = true) :
    Property.isNil (endpoint.dto.toInstance body "slug") = true ∨
      ∃ text, endpoint.dto.toInstance body "slug" = some (.string text) ∧
        text.length ≤ slugWidth := by
  rcases accepts_cases (accepts_property accepted creation.slug) with ⟨-, nil⟩ | passed
  · exact .inl nil
  · right
    obtain ⟨text, shape⟩ := text_of_isString (passed .isString (by simp [optionalSlug]))
    have shape : endpoint.dto.toInstance body "slug" = some (.string text) := shape
    refine ⟨text, shape, ?_⟩
    have short := passed (.maxLength slugWidth) (by simp [optionalSlug])
    have pattern := passed .matchesSlug (by simp [optionalSlug])
    simp only [optionalSlug, shape, Check.passes, decide_eq_true_eq] at short pattern
    exact length_of_matchesSlug pattern ▸ short

theorem underMeasured_iff (creation : Creation endpoint nameWidth slugWidth)
    (accepted : endpoint.dto.accepts validator body = true) {text : String}
    (name : endpoint.dto.toInstance body "name" = some (.string text))
    (measured : validator.length text ≤ nameWidth) :
    UnderMeasured (endpoint.dto.toInstance body) validator endpoint ↔ nameWidth < text.length := by
  constructor
  · rintro ⟨key, width, given, nullable, found, present, -, longer⟩
    obtain ⟨_, _, split, -⟩ := List.lookup_eq_some_iff.mp found
    have mem : (key, (⟨.varchar width, nullable⟩ : Column)) ∈ endpoint.columns := by simp [split]
    rcases creation.texts _ mem width rfl with rfl | rfl
    · cases found.symm.trans creation.nameColumn
      cases present.symm.trans name
      exact longer
    · cases found.symm.trans creation.slugColumn
      rcases creation.slugged accepted with nil | ⟨slug, supplied, short⟩
      · rw [present] at nil
        cases nil
      · cases present.symm.trans supplied
        omega
  · intro longer
    exact ⟨"name", nameWidth, text, false, creation.nameColumn, name, measured, longer⟩

theorem columns_iff (creation : Creation endpoint nameWidth slugWidth)
    (accepted : endpoint.dto.accepts validator body = true) :
    (∀ entry ∈ handed nfkd ids (endpoint.dto.toInstance body) endpoint,
        FitsColumn endpoint entry) ↔
      FitsColumn endpoint ("name", endpoint.dto.toInstance body "name") ∧
        FitsColumn endpoint
          ("slug", some (slugOrDerived nfkd (endpoint.dto.toInstance body))) := by
  constructor
  · intro fits
    exact ⟨fits _ (creation.handsName _ _ _), fits _ (creation.handsSlug _ _ _)⟩
  · rintro ⟨name, slug⟩ entry mem
    rcases creation.others _ _ _ _ accepted entry mem with rfl | rfl | fits
    · exact name
    · exact slug
    · exact fits

/-- A derived slug satisfies the rule for slugs exactly if it is short enough. -/
theorem accepts_derived_iff (creation : Creation endpoint nameWidth slugWidth) :
    (∀ slug ∈ derivedSlug nfkd input endpoint, ∀ property ∈ endpoint.dto,
        property.name = "slug" → property.accepts validator (some (.string slug)) = true) ↔
      (Property.isNil (input "slug") = true →
        (slugify nfkd (textOf (input "name"))).length ≤ slugWidth) := by
  have rule (slug : String) (pattern : matchesSlug slug = true) :
      (optionalSlug slugWidth).accepts validator (some (.string slug)) = true ↔
        slug.length ≤ slugWidth := by
    simp [Property.accepts, optionalSlug, Property.isNil, Check.passes, pattern,
      length_of_matchesSlug pattern]
  simp only [derivedSlug, creation.notUpdate, Bool.not_false, Bool.true_and, Option.mem_def]
  constructor
  · intro accepted nil
    rw [← rule _ slugify_matches]
    exact accepted _ (if_pos nil) _ creation.slug rfl
  · intro short slug derived property mem named
    rw [creation.oneSlug property mem named]
    split at derived
    · rename_i nil
      rw [← Option.some.inj derived]
      exact (rule _ slugify_matches).mpr (short nil)
    · cases derived

theorem fits_iff (creation : Creation endpoint nameWidth slugWidth)
    (accepted : endpoint.dto.accepts validator body = true) :
    Fits nfkd ids (endpoint.dto.toInstance body) validator endpoint ↔
      ¬ UnderMeasured (endpoint.dto.toInstance body) validator endpoint ∧
        (Property.isNil (endpoint.dto.toInstance body "slug") = true →
          (slugify nfkd (textOf (endpoint.dto.toInstance body "name"))).length ≤ slugWidth) := by
  obtain ⟨name, supplied, measured⟩ := creation.named accepted
  have fitsName : FitsColumn endpoint ("name", endpoint.dto.toInstance body "name") ↔
      ¬ UnderMeasured (endpoint.dto.toInstance body) validator endpoint := by
    rw [creation.underMeasured_iff accepted supplied measured, Nat.not_lt]
    simp [FitsColumn, creation.nameColumn, supplied, Column.holds]
  have fitsSlug : FitsColumn endpoint
        ("slug", some (slugOrDerived nfkd (endpoint.dto.toInstance body))) ↔
      (Property.isNil (endpoint.dto.toInstance body "slug") = true →
        (slugify nfkd (textOf (endpoint.dto.toInstance body "name"))).length ≤ slugWidth) := by
    rcases creation.slugged accepted with nil | ⟨slug, given, short⟩
    · rcases orElse_cases (endpoint.dto.toInstance body "slug") (.string
          (slugify nfkd (textOf (endpoint.dto.toInstance body "name")))) with
        ⟨-, derived⟩ | ⟨given, present, notNull, -⟩
      · simp [FitsColumn, creation.slugColumn, slugOrDerived, derived, Column.holds, nil]
      · rw [present] at nil
        exact absurd (isNil_some nil) notNull
    · simp [FitsColumn, creation.slugColumn, slugOrDerived, given, orElse, Column.holds, short,
        Property.isNil]
  constructor
  · rintro ⟨columns, slug⟩
    have both := (creation.columns_iff accepted).mp columns
    exact ⟨fitsName.mp both.1, fitsSlug.mp both.2⟩
  · rintro ⟨measuredWell, short⟩
    refine ⟨(creation.columns_iff accepted).mpr ⟨?_, ?_⟩, creation.accepts_derived_iff.mpr short⟩
    · exact fitsName.mpr measuredWell
    · exact fitsSlug.mpr short

end Creation

/-- What is handed on of a body that was let through fits its columns, and its slug the
rule, except in three cases. -/
theorem fits_columns_iff (accepted : endpoint.dto.accepts validator body = true) :
    Fits nfkd ids (endpoint.dto.toInstance body) validator endpoint ↔
      ¬ (LongSlug nfkd (endpoint.dto.toInstance body) endpoint ∨
        NullForRequired (endpoint.dto.toInstance body) endpoint ∨
          UnderMeasured (endpoint.dto.toInstance body) validator endpoint) := by
  have short (max : Nat) (enough : 150 ≤ max) :
      (slugify nfkd (textOf (endpoint.dto.toInstance body "name"))).length ≤ max :=
    slugify_length.trans enough
  have update (h : endpoint.isUpdate = true) :
      Fits nfkd ids (endpoint.dto.toInstance body) validator endpoint ↔
        ¬ NullForRequired (endpoint.dto.toInstance body) endpoint ∧
          ¬ UnderMeasured (endpoint.dto.toInstance body) validator endpoint := by
    constructor
    · intro fits
      exact (update_fits_iff h accepted).mp fits.columns
    · intro neither
      exact ⟨(update_fits_iff h accepted).mpr neither, by simp [derivedSlug, h]⟩
  cases endpoint with
  | createWorkspace =>
    rw [creation_createWorkspace.fits_iff accepted]
    simp only [LongSlug, NullForRequired, Endpoint.isUpdate]
    grind
  | createFolder =>
    rw [creation_createFolder.fits_iff accepted]
    simp [LongSlug, NullForRequired, Endpoint.isUpdate, short]
  | createWorkflow =>
    rw [creation_createWorkflow.fits_iff accepted]
    simp [LongSlug, NullForRequired, Endpoint.isUpdate, short]
  | updateWorkflow =>
    rw [update rfl]
    simp [LongSlug]
  | updateCredential =>
    rw [update rfl]
    simp [LongSlug]

end

/-! Bodies that are let through, and what becomes of them. -/

def countingValidator : Validator where
  length := String.length
  length_ascii _ _ := rfl

def sampleIds : Ids :=
  { id := "7f3a", second := "b210", workspaceId := "", folderId := "", userId := "c9d4" }

theorem fits_columns_iff_acme :
    Fits id sampleIds (createWorkspaceDto.toInstance [("name", .string " Acme Corp ")])
      countingValidator .createWorkspace := by
  have accepted : Endpoint.createWorkspace.dto.accepts countingValidator
      [("name", .string " Acme Corp ")] = true := by decide
  apply (fits_columns_iff accepted).mpr
  rintro (⟨-, -, long⟩ | ⟨update, -⟩ | ⟨-, width, text, -, -, -, measured, longer⟩)
  · exact absurd long (by decide)
  · cases update
  · exact absurd longer (Nat.not_lt.mpr measured)

/-- A name of 101 letters. -/
def longName : JsonObject :=
  [("name", .string (String.ofList (List.replicate 101 'a')))]

theorem accepted_not_fitting :
    (createWorkspaceDto.accepts countingValidator longName = true ∧
        ¬ Fits id sampleIds (createWorkspaceDto.toInstance longName) countingValidator
          .createWorkspace) ∧
      updateWorkflowDto.accepts countingValidator [("name", .null)] = true ∧
        ¬ Fits id sampleIds (updateWorkflowDto.toInstance [("name", .null)]) countingValidator
          .updateWorkflow := by
  have accepted : createWorkspaceDto.accepts countingValidator longName = true := by decide +kernel
  refine ⟨⟨accepted, ?_⟩, by decide, ?_⟩
  · intro fits
    have rule := ((creation_createWorkspace.fits_iff accepted).mp fits).2 rfl
    exact absurd rule (by decide +kernel)
  · intro fits
    obtain ⟨column, found, held⟩ := fits.columns ("name", some .null) List.mem_cons_self
    cases found
    exact absurd held (by decide)

end TenantOS.Workspaces
