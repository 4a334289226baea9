import TraitCatalog.Double.Shortest
import TraitCatalog.Json.Basic
import TraitCatalog.Text.Quoted

namespace TraitCatalog
namespace Json

-- A value as messages show it: on one line, with a blank behind each comma and colon, and with capital words for
-- the constants.
mutual

def display : Json → Text
  | null => "None"
  | bool true => "True"
  | bool false => "False"
  | int n => Text.ofInt n
  | float x => x.text .plain
  | string t => t.quoted
  | array items => "[" ++ Text.join ", " (displayItems items) ++ "]"
  | object fields => "\x7b" ++ Text.join ", " (displayFields fields) ++ "\x7d"

def displayItems : List Json → List Text
  | [] => []
  | v :: items => display v :: displayItems items

def displayFields : List (Text × Json) → List Text
  | [] => []
  | (key, v) :: fields => (key.quoted ++ ": " ++ display v) :: displayFields fields

end

end Json
end TraitCatalog
