import DiagramMarkup.Json.Value
import DiagramMarkup.Number.Decimal

/-! # Printing JSON

A value is printed on one line without blanks, or indented by two blanks for every level.
-/

namespace DiagramMarkup.Json

def hexDigit (n : Nat) : Char :=
  (Nat.digitChar n)

/-- How a character stands in a string: quotes, backslashes and control characters are escaped. -/
def escapeChar (c : Char) : List Char :=
  match c with
  | '"' => ['\\', '"']
  | '\\' => ['\\', '\\']
  | '\x08' => ['\\', 'b']
  | '\x0c' => ['\\', 'f']
  | '\n' => ['\\', 'n']
  | '\r' => ['\\', 'r']
  | '\t' => ['\\', 't']
  | c =>
    if c.toNat < 0x20 then ['\\', 'u', '0', '0', hexDigit (c.toNat / 16), hexDigit (c.toNat % 16)]
    else [c]

def quote (s : String) : List Char :=
  '"' :: s.toList.flatMap escapeChar ++ ['"']

def printScalar : Json → List Char
  | null => "null".toList
  | bool true => "true".toList
  | bool false => "false".toList
  | integer n => if n < 0 then '-' :: Number.digitText n.natAbs else Number.digitText n.toNat
  | real x => ((Number.text? x).getD "null").toList
  | string s => quote s
  | array _ => []
  | object _ => []

mutual

/-- A value on one line, without blanks. -/
def printCompact : Json → List Char
  | array items => '[' :: printItems items ++ [']']
  | object fields => '{' :: printFields fields ++ ['}']
  | scalar => printScalar scalar

def printItems : List Json → List Char
  | [] => []
  | [item] => printCompact item
  | item :: items => printCompact item ++ ',' :: printItems items

def printFields : List (String × Json) → List Char
  | [] => []
  | [(key, value)] => quote key ++ ':' :: printCompact value
  | (key, value) :: fields => quote key ++ ':' :: printCompact value ++ ',' :: printFields fields

end

/-- A line break and the blanks in front of a level. -/
def newLine (level : Nat) : List Char :=
  '\n' :: List.replicate (2 * level) ' '

mutual

/-- A value over several lines; what is inside it stands one level deeper. -/
def printPretty (level : Nat) : Json → List Char
  | array [] => ['[', ']']
  | object [] => ['{', '}']
  | array items => '[' :: printPrettyItems (level + 1) items ++ newLine level ++ [']']
  | object fields => '{' :: printPrettyFields (level + 1) fields ++ newLine level ++ ['}']
  | scalar => printScalar scalar

def printPrettyItems (level : Nat) : List Json → List Char
  | [] => []
  | [item] => newLine level ++ printPretty level item
  | item :: items => newLine level ++ printPretty level item ++ ',' :: printPrettyItems level items

def printPrettyFields (level : Nat) : List (String × Json) → List Char
  | [] => []
  | [(key, value)] => newLine level ++ quote key ++ ':' :: ' ' :: printPretty level value
  | (key, value) :: fields =>
    newLine level ++ quote key ++ ':' :: ' ' :: printPretty level value ++
      ',' :: printPrettyFields level fields

end

def compact (j : Json) : String :=
  String.ofList (printCompact j)

def pretty (j : Json) : String :=
  String.ofList (printPretty 0 j)

end DiagramMarkup.Json
