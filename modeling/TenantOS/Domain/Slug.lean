import Mathlib.Data.List.DropRight

/-! Slugs. The host's `normalize('NFKD')` is a parameter; the rest is ASCII. -/
namespace TenantOS.Domain

def isSlugChar (c : Char) : Bool :=
  ('a' ≤ c && c ≤ 'z') || ('0' ≤ c && c ≤ '9')

/-- `[\u0300-\u036f]` -/
def isCombiningMark (c : Char) : Bool :=
  '\u0300' ≤ c && c ≤ '\u036f'

def isDash (c : Char) : Bool :=
  c = '-'

/-- `replace(/[^a-z0-9]+/g, '-')` -/
def dashRuns : List Char → List Char
  | [] => []
  | c :: cs =>
      if isSlugChar c then c :: dashRuns cs
      else
        match dashRuns cs with
        | '-' :: rest => '-' :: rest
        | rest => '-' :: rest

/-- The letters of a slug: trimmed, cut to length, and trimmed at the end again. -/
def cutSlug (maxLength : Nat) (letters : List Char) : List Char :=
  ((((dashRuns letters).dropWhile isDash).rdropWhile isDash).take maxLength).rdropWhile isDash

/-- The host's `toLowerCase` is a parameter as well. -/
def slugifyWith (nfkd toLowerCase : String → String) (value : String) (maxLength : Nat := 150) :
    String :=
  let stripped := String.ofList ((nfkd value).toList.filter fun c => !isCombiningMark c)
  let slug := cutSlug maxLength (toLowerCase stripped).toList
  if slug.isEmpty then "workflow" else String.ofList slug

def asciiLowerCase (text : String) : String :=
  String.ofList (text.toList.map Char.toLower)

/-- Only ASCII letters have a lower case in `[a-z]`, of what NFKD leaves. -/
def slugify (nfkd : String → String) (value : String) (maxLength : Nat := 150) : String :=
  slugifyWith nfkd asciiLowerCase value maxLength

example : slugify id "  My Flow -- 2! " = "my-flow-2" := by decide

end TenantOS.Domain
