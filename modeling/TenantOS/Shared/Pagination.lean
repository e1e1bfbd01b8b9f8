import TenantOS.Domain.Errors
import TenantOS.Encoding.Base64Url
import TenantOS.Encoding.IsoDate
import TenantOS.Pagination.Offset

/-! The pagination primitives: requests, pages, and the keyset cursor. -/
namespace TenantOS.Shared

open TenantOS.Domain

inductive SortDirection where
  | asc | desc
deriving DecidableEq, Repr

structure PageLimit where
  value : Nat
  least : 1 ≤ value
  most : value ≤ 100

structure OffsetPageRequest where
  page : Nat
  limit : PageLimit
  sortBy : Option String
  sortDirection : SortDirection
  search : Option String

structure CursorPageRequest where
  cursor : Option String
  limit : PageLimit
  sortDirection : SortDirection
  search : Option String

structure OffsetPage (α : Type) where
  items : List α
  total : Nat
  page : Nat
  limit : Nat

structure CursorPage (α : Type) where
  items : List α
  nextCursor : Option String
  limit : Nat

def offsetToSkip (page limit : Nat) : Nat :=
  (max 1 page - 1) * limit

structure PaginationMeta where
  limit : Nat
  page : Option Nat
  total : Option Nat
  totalPages : Option Nat
  hasNext : Bool
  hasPrevious : Bool
  nextCursor : Option String

structure PaginatedResponse (α : Type) where
  items : List α
  pageMeta : PaginationMeta

def PaginatedResponse.fromOffset {α β : Type} (page : OffsetPage α) (map : α → β) :
    PaginatedResponse β :=
  let totalPages := if 0 < page.limit then Offset.pageCount page.limit page.total else 0
  { items := page.items.map map
    pageMeta :=
      { limit := page.limit
        page := some page.page
        total := some page.total
        totalPages := some totalPages
        hasNext := decide (page.page < totalPages)
        hasPrevious := decide (1 < page.page)
        nextCursor := none } }

/-- What the language leaves to the host: reading a date that is not in the
format it writes, and text from bytes that are not UTF-8. -/
structure Platform where
  parseDate : String → Option Date
  replaceInvalid : List UInt8 → String

namespace Platform

/-- `new Date(text)`; `none` is the invalid date. -/
def newDate (platform : Platform) (text : String) : Option Date :=
  (IsoDate.parse text.toList).or (platform.parseDate text)

def utf8 (platform : Platform) (bytes : List UInt8) : String :=
  (String.fromUTF8? ⟨bytes.toArray⟩).getD (platform.replaceInvalid bytes)

theorem newDate_toISOString (platform : Platform) {date : Date} (h : IsoDate.Representable date) :
    platform.newDate (String.ofList (IsoDate.toISOString date)) = some date := by
  rw [newDate, String.toList_ofList, IsoDate.parse_toISOString h]
  rfl

theorem utf8_toUTF8 (platform : Platform) (text : String) :
    platform.utf8 text.toUTF8.data.toList = text := by
  have valid : (⟨text.toUTF8.data.toList.toArray⟩ : ByteArray).IsValidUTF8 := text.isValidUTF8
  rw [utf8, String.fromUTF8?, dif_pos valid]
  rfl

end Platform

/-- `/^[0-9a-f-]{36}$/i` -/
def isUuidText (text : List Char) : Bool :=
  text.length = 36 && text.all fun c =>
    ('0' ≤ c && c ≤ '9') || ('a' ≤ c && c ≤ 'f') || ('A' ≤ c && c ≤ 'F') || c = '-'

/-- Base64url of `<iso timestamp>|<uuid>`: the full sort key. -/
structure Cursor where
  createdAt : Date
  id : Uuid
deriving DecidableEq, Repr

namespace Cursor

def text (createdAt : Date) (id : Uuid) : String :=
  String.ofList (IsoDate.toISOString createdAt) ++ "|" ++ id

def encode (createdAt : Date) (id : Uuid) : String :=
  String.ofList (Base64Url.encode (text createdAt id).toUTF8.data.toList)

/-- Not encrypted, so it is validated on the way back in. -/
def decode (platform : Platform) (cursor : String) : Option Cursor :=
  match (platform.utf8 (Base64Url.decode cursor.toList)).toList.splitOn '|' with
  | timestamp :: id :: _ =>
      if timestamp = [] || id = [] then none
      else
        match platform.newDate (String.ofList timestamp) with
        | none => none
        | some createdAt => if isUuidText id then some ⟨createdAt, String.ofList id⟩ else none
  | _ => none

theorem bar_notMem_toISOString (createdAt : Date) : '|' ∉ IsoDate.toISOString createdAt := by
  intro h
  rcases IsoDate.mem_toISOString h with digit | mark
  · exact absurd digit (by decide)
  · exact absurd mark (by decide)

theorem bar_notMem_uuid {id : List Char} (h : isUuidText id) : '|' ∉ id := by
  intro bar
  simp only [isUuidText, Bool.and_eq_true, List.all_eq_true] at h
  exact absurd (h.2 _ bar) (by decide)

theorem decode_encode (platform : Platform) {createdAt : Date} {id : Uuid}
    (date : IsoDate.Representable createdAt) (uuid : isUuidText id.toList) :
    decode platform (encode createdAt id) = some ⟨createdAt, id⟩ := by
  have split : (text createdAt id).toList.splitOn '|' =
      [IsoDate.toISOString createdAt, id.toList] := by
    have parts : (text createdAt id).toList =
        IsoDate.toISOString createdAt ++ '|' :: id.toList := by
      simp [text]
    rw [parts, List.splitOn_append_cons_self_of_not_mem (bar_notMem_toISOString createdAt),
      List.splitOn_eq_singleton (bar_notMem_uuid uuid)]
  have present : id.toList ≠ [] := by
    intro empty
    simp [isUuidText, empty] at uuid
  rw [decode, encode, String.toList_ofList, Base64Url.decode_encode, platform.utf8_toUTF8, split]
  simp [IsoDate.toISOString_ne_nil, present, platform.newDate_toISOString date, uuid]

theorem encode_ne_empty (createdAt : Date) (id : Uuid) : encode createdAt id ≠ "" := by
  intro empty
  have bytes : (text createdAt id).toUTF8.data.toList ≠ [] := by
    intro none
    have nothing : (text createdAt id).toUTF8 = "".toUTF8 := ByteArray.ext (Array.toList_inj.mp none)
    have blank := String.toByteArray_inj.mp nothing
    have parts := congrArg String.toList blank
    simp [text] at parts
  apply Base64Url.encode_ne_nil bytes
  rw [← String.toList_ofList (l := Base64Url.encode _)]
  exact congrArg String.toList empty

end Cursor

end TenantOS.Shared
