import TenantOS.Domain.User
import TenantOS.Domain.Workspace
import TenantOS.Domain.Slug

/-! The bodies the endpoints of a workspace take: what a DTO declares, trims and checks. -/
namespace TenantOS.Modules

open TenantOS.Domain

/-- What the decorators take from the package they are written with. -/
structure Validator where
  /-- What `MinLength` and `MaxLength` compare. -/
  length : String → Nat
  length_ascii : ∀ text, (∀ c ∈ text.toList, c.val < 128) → length text = text.length

/-- `/^[a-z0-9]+(?:-[a-z0-9]+)*$/` as an automaton. The flag is set inside a word. -/
def slugFrom : Bool → List Char → Bool
  | inWord, [] => inWord
  | inWord, c :: cs =>
      if isSlugChar c then slugFrom true cs else isDash c && inWord && slugFrom false cs

def matchesSlug (text : String) : Bool :=
  slugFrom false text.toList

inductive Check where
  | isString
  | minLength (min : Nat)
  | maxLength (max : Nat)
  | matchesSlug
  | isObject
  | isNotEmptyObject
deriving DecidableEq

/-- A property that is not there is `none`. -/
def Check.passes (validator : Validator) : Check → Option Json → Bool
  | isString, some (.string _) => true
  | minLength min, some (.string text) => min ≤ validator.length text
  | maxLength max, some (.string text) => validator.length text ≤ max
  | matchesSlug, some (.string text) => Modules.matchesSlug text
  | isObject, some (.object _) => true
  | isNotEmptyObject, some (.object (_ :: _)) => true
  | _, _ => false

structure Property where
  name : String
  isOptional : Bool
  trimmed : Bool
  checks : List Check

namespace Property

/-- `@Transform(trim)` -/
def transform (property : Property) : Json → Json
  | .string text => .string (if property.trimmed then jsTrim text else text)
  | value => value

/-- `null` and `undefined` -/
def isNil : Option Json → Bool
  | none => true
  | some .null => true
  | some _ => false

/-- `@IsOptional` skips the other decorators of a property without a value. -/
def accepts (validator : Validator) (property : Property) (value : Option Json) : Bool :=
  (property.isOptional && isNil value) || property.checks.all (·.passes validator value)

end Property

abbrev Dto := List Property

namespace Dto

/-- The instance that the decorators see, and the handler after them. -/
def toInstance (dto : Dto) (body : JsonObject) (name : String) : Option Json :=
  (dto.find? fun property => property.name = name).bind fun property =>
    (body.lookup name).map property.transform

/-- A property that is not declared is refused as well. -/
def accepts (validator : Validator) (dto : Dto) (body : JsonObject) : Bool :=
  (body.all fun entry => dto.any fun property => property.name = entry.1) &&
    dto.all fun property => property.accepts validator (dto.toInstance body property.name)

end Dto

/-! The properties that DTOs share, with the bounds of their own. -/

def requiredText (name : String) (max : Nat) : Property :=
  { name, isOptional := false, trimmed := true, checks := [.isString, .minLength 1, .maxLength max] }

def optionalText (name : String) (max : Nat) : Property :=
  { name, isOptional := true, trimmed := true, checks := [.isString, .minLength 1, .maxLength max] }

/-- The column is unbounded `text`; the cap is a payload-size guard. -/
def optionalDescription : Property :=
  { name := "description", isOptional := true, trimmed := true
    checks := [.isString, .maxLength 2000] }

/-- Validated, not slugified: a caller that asked for a slug is told it is unusable. -/
def optionalSlug (max : Nat) : Property :=
  { name := "slug", isOptional := true, trimmed := true
    checks := [.isString, .maxLength max, .matchesSlug] }

def optionalObject (name : String) : Property :=
  { name, isOptional := true, trimmed := false, checks := [.isObject] }

def createWorkspaceDto : Dto :=
  [requiredText "name" 200, optionalDescription, optionalSlug 100, optionalObject "settings"]

def createFolderDto : Dto :=
  [requiredText "name" 200, optionalDescription, optionalSlug 200]

def createWorkflowDto : Dto :=
  [requiredText "name" 250, optionalDescription, optionalSlug 150, optionalObject "settings",
    optionalObject "metadata"]

def updateWorkflowDto : Dto :=
  [optionalText "name" 250, optionalDescription, optionalSlug 150, optionalObject "settings",
    optionalObject "metadata"]

def updateCredentialDto : Dto :=
  [optionalText "name" 200, optionalText "type" 100, optionalText "provider" 100,
    optionalObject "credentials",
    { name := "metadata", isOptional := true, trimmed := false
      checks := [.isObject, .isNotEmptyObject] }]

end TenantOS.Modules
