import SitePreview.Text.Basic

namespace SitePreview

inductive IssueCause where
  | missing
  | notText
  | notList
  | notInteger
  | unreadableInteger
  | fractional
  | notBoolean
  | unreadableBoolean
  | notAmong (names : List Text)
  | below (least : Int)
  | above (most : Int)
  | emptyText
  | emptyList
  | rejected (why : Text)
  deriving DecidableEq, Repr

structure Issue where
  path : List Text
  cause : IssueCause
  deriving DecidableEq, Repr

namespace IssueCause

/-- Names in single quotes with commas between them, and "or" before the last. -/
def alternatives : List Text → Text
  | [] => []
  | [name] => '\'' :: name ++ ['\'']
  | [name, last] => '\'' :: name ++ "' or '".toList ++ last ++ ['\'']
  | name :: names => '\'' :: name ++ "', ".toList ++ alternatives names

def code : IssueCause → Text
  | missing => "missing".toList
  | notText => "string_type".toList
  | notList => "list_type".toList
  | notInteger => "int_type".toList
  | unreadableInteger => "int_parsing".toList
  | fractional => "int_from_float".toList
  | notBoolean => "bool_type".toList
  | unreadableBoolean => "bool_parsing".toList
  | notAmong _ => "enum".toList
  | below _ => "greater_than_equal".toList
  | above _ => "less_than_equal".toList
  | emptyText => "string_too_short".toList
  | emptyList => "too_short".toList
  | rejected _ => "value_error".toList

def message : IssueCause → Text
  | missing => "Field required".toList
  | notText => "Input should be a valid string".toList
  | notList => "Input should be a valid list".toList
  | notInteger => "Input should be a valid integer".toList
  | unreadableInteger =>
    "Input should be a valid integer, unable to parse string as an integer".toList
  | fractional => "Input should be a valid integer, got a number with a fractional part".toList
  | notBoolean => "Input should be a valid boolean".toList
  | unreadableBoolean => "Input should be a valid boolean, unable to interpret input".toList
  | notAmong names => "Input should be ".toList ++ alternatives names
  | below least => "Input should be greater than or equal to ".toList ++ Text.ofInt least
  | above most => "Input should be less than or equal to ".toList ++ Text.ofInt most
  | emptyText => "String should have at least 1 character".toList
  | emptyList => "List should have at least 1 item after validation, not 0".toList
  | rejected why => "Value error, ".toList ++ why

end IssueCause

end SitePreview
