import TimingBoard.Json.Numeral
import TimingBoard.Json.Text

namespace TimingBoard.Json

/-! Writing a value: no blanks, members in their order. -/

def commaSeparated : List (List Char) → List Char
  | [] => []
  | [item] => item
  | item :: rest => item ++ ',' :: commaSeparated rest

mutual

/-- The text of a value.  What breaks off has none. -/
def Value.render : Value → List Char
  | .null => ['n', 'u', 'l', 'l']
  | .bool true => ['t', 'r', 'u', 'e']
  | .bool false => ['f', 'a', 'l', 's', 'e']
  | .number numeral => numeral.render
  | .text content => Text.quote (content.getD "")
  | .array elements _ => '[' :: commaSeparated (renderElements elements) ++ [']']
  | .object members _ => '\x7b' :: commaSeparated (renderMembers members) ++ ['\x7d']
  | .broken _ => []

def renderElements : List Value → List (List Char)
  | [] => []
  | element :: rest => element.render :: renderElements rest

def renderMembers : List Member → List (List Char)
  | [] => []
  | (key, value) :: rest =>
      (Text.quote (key.getD "") ++ ':' :: value.render) :: renderMembers rest

end

def Value.toText (value : Value) : String := String.ofList value.render

end TimingBoard.Json
