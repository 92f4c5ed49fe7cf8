/-! The part of SwiftyJSON that the completion handlers use. An error inside a `JSON` is read by
none of them and is left out; so is `Data`, which none of them passes. -/
namespace SocialService

/-- What Swift's `Any` can hold here; `object` is an instance of a class that is not a JSON
value. -/
inductive AnyValue where
  | string (value : String)
  | number (value : Int)
  | bool (value : Bool)
  | null
  | array (items : List AnyValue)
  | dictionary (entries : List (String × AnyValue))
  | object (className : String)

inductive JSON where
  | rawString (value : String)
  | rawNumber (value : Int)
  | rawBool (value : Bool)
  | null
  | rawArray (items : List AnyValue)
  | rawDictionary (entries : List (String × AnyValue))
  | unknown

namespace JSON

def init : AnyValue → JSON
  | .string value => rawString value
  | .number value => rawNumber value
  | .bool value => rawBool value
  | .null => null
  | .array items => rawArray items
  | .dictionary entries => rawDictionary entries
  | .object _ => unknown

/-- `subscript(key:)`: only a dictionary has keys. -/
def key (self : JSON) (key : String) : JSON :=
  match self with
  | rawDictionary entries =>
    match entries.lookup key with
    | some value => init value
    | none => null
  | _ => null

def string : JSON → Option String
  | rawString value => some value
  | _ => none

end JSON

end SocialService
