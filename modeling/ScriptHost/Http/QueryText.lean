import ScriptHost.Http.Reply
import ScriptHost.Archive.Basic
import ScriptHost.Text.Percent
import ScriptHost.Text.Numeral

/-!
Reading the query of a request into the parameters of an endpoint, and the listing that parameters
ask for. Fields are read in order and the first one that cannot be used is reported; fields that
nobody asks for are not looked at.
-/
namespace ScriptHost.Http

structure ListingParams where
  lang : Option String := none
  active : Option Bool := none
  nameStart : Option String := none
  orderBy : Option String := none
  desc : Bool := false
  limit : Option Int := none
  offset : Option Int := none
  deriving DecidableEq, Repr

namespace ListingParams

def language (p : ListingParams) : Except RequestError (Option Language) :=
  match p.lang with
  | none => .ok none
  | some tag =>
    match Language.named? tag with
    | some l => .ok (some l)
    | none => .error (.badRequest ("Unknown language '" ++ tag ++ "'"))

def sortKey (p : ListingParams) : Except RequestError SortKey :=
  match p.orderBy with
  | none | some "name" => .ok .name
  | some "lang" => .ok .language
  | some "updated_at" => .ok .updatedAt
  | some "version" => .ok .version
  | some other => .error (.badRequest
      ("Cannot order by '" ++ other ++ "'; expected name, lang, updated_at or version"))

/-- An empty start of the names asks for nothing. -/
def listing (p : ListingParams) : Except RequestError Listing := do
  let language ← p.language
  let orderBy ← p.sortKey
  return {
    language := language, active := p.active, nameStart := p.nameStart.filter fun s => !s.isEmpty,
    orderBy := orderBy, descending := p.desc, limit := p.limit, offset := p.offset }

end ListingParams

end ScriptHost.Http

namespace ScriptHost.Http.QueryText

open Text (NumeralError)

inductive QueryError where
  | duplicate (field : String)
  | value (field reason : String)
  deriving DecidableEq, Repr

def QueryError.message (e : QueryError) : String :=
  "Failed to deserialize query string: " ++
  match e with
  | .duplicate field => "duplicate field `" ++ field ++ "`"
  | .value field reason => field ++ ": " ++ reason

def integer (s : String) : Except String Int :=
  match Text.signed64? s with
  | .ok n => .ok n
  | .error e => .error e.message

abbrev Fields (α : Type) := List (String × (String → α → Except String α))

def readFields {α : Type} (fields : Fields α) : List String → α → List (String × String) →
    Except QueryError α
  | _, a, [] => .ok a
  | seen, a, (key, value) :: rest =>
    match fields.find? fun f => f.1 = key with
    | none => readFields fields seen a rest
    | some (_, put) =>
      if key ∈ seen then .error (.duplicate key)
      else match put value a with
        | .ok a => readFields fields (key :: seen) a rest
        | .error reason => .error (.value key reason)

def read {α : Type} (fields : Fields α) (start : α) (query : Option String) :
    Except QueryError α :=
  readFields fields [] start (Text.Percent.formFields (query.getD ""))

def listingFields : Fields ListingParams := [
  ("lang", fun s p => .ok { p with lang := some s }),
  ("active", fun s p => (Text.boolean? s).map fun b => { p with active := some b }),
  ("name_prefix", fun s p => .ok { p with nameStart := some s }),
  ("order_by", fun s p => .ok { p with orderBy := some s }),
  ("desc", fun s p => (Text.boolean? s).map fun b => { p with desc := b }),
  ("limit", fun s p => (integer s).map fun n => { p with limit := some n }),
  ("offset", fun s p => (integer s).map fun n => { p with offset := some n })]

def listing (query : Option String) : Except QueryError ListingParams :=
  read listingFields {} query

def force (query : Option String) : Except QueryError Bool :=
  read [("force", fun s (_ : Bool) => Text.boolean? s)] false query

end ScriptHost.Http.QueryText
