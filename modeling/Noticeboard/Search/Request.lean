import Noticeboard.Failure
import Noticeboard.Json.Record
import Noticeboard.Text.Blank
import Noticeboard.Text.WordFinal

/-!
# Search requests

A request comes with a query and a page that may be of any kind.  The query has to be a text, if it
is there; the page a whole number, or a text that spells one.
-/

namespace Noticeboard

/-- What is asked for, before it is checked. -/
structure SearchRequest where
  query : Option Json
  pageNo : Option Json

/-- What is asked for, once it is known to make sense. -/
structure SearchParams where
  query : Option String
  page : UInt32
  deriving DecidableEq

/-- Asks for a page of everything. -/
def SearchParams.browse (page : UInt32) : SearchParams :=
  ⟨none, page⟩

/-- Trims and lower-cases a query; a blank one asks for everything. -/
def normalizeQuery (raw : String) : Option String :=
  let trimmed := Text.trim raw
  if trimmed.isEmpty then none else some (Text.lower trimmed)

/-- Pages count from one. -/
def checkPage (page : Int) : Except Failure UInt32 :=
  if page < 1 then .error (.badPage (toString page))
  else if page < 0x100000000 then .ok (UInt32.ofNat page.toNat)
  else .error (.pageOutOfRange page)

namespace SearchRequest

def ofQuery (query : String) : SearchRequest :=
  ⟨some (.str query), none⟩

def withPage (request : SearchRequest) (page : UInt32) : SearchRequest :=
  { request with pageNo := some (Json.whole page.toNat) }

def checkQuery : Option Json → Except Failure (Option String)
  | none => .ok none
  | some .null => .ok none
  | some (.str raw) => .ok (normalizeQuery raw)
  | some _ => .error .queryNotText

/-- A number is a page if it is whole and has 64 signed bits; so is the number a text spells. -/
def checkPageNo : Option Json → Except Failure UInt32
  | none => .ok 1
  | some .null => .ok 1
  | some (.num (.whole n)) =>
    if Decimal.isInt64 n then checkPage n else .error (.badPage (toString n))
  | some (.str raw) =>
    match Decimal.readInt64? (Text.trim raw).toList with
    | some n => checkPage n
    | none => .error (.badPage raw)
  | some value => .error (.badPage value.compact)

/-- Checks the query before the page. -/
def check (request : SearchRequest) : Except Failure SearchParams := do
  let query ← checkQuery request.query
  let page ← checkPageNo request.pageNo
  return ⟨query, page⟩

def toJson (request : SearchRequest) : Json :=
  Json.object
    [("query", request.query.getD .null), ("page_no", request.pageNo.getD .null)]

def reader : Json.RecordReader SearchRequest :=
  Json.RecordReader.value SearchRequest.mk
    |>.defaulted "query" none Json.readAny?
    |>.defaulted "page_no" none Json.readAny?

def ofJson : Json → Except Json.Problem SearchRequest :=
  reader.read "struct SearchRequest"

end SearchRequest
end Noticeboard
