import DiagramMarkup.Json.Number

/-! # Reading JSON texts

A text is one value with blanks around it. Values nest at most 127 deep.
-/

namespace DiagramMarkup.Json

/-- What follows the blanks that may stand between the parts of a value. -/
def skipBlanks (s : List Char) : List Char :=
  s.dropWhile fun c => c = ' ' || c = '\n' || c = '\t' || c = '\r'

def hexValue? (c : Char) : Option Nat :=
  if c.isDigit then some (c.toNat - '0'.toNat)
  else if 'a' ≤ c ∧ c ≤ 'f' then some (c.toNat - 'a'.toNat + 10)
  else if 'A' ≤ c ∧ c ≤ 'F' then some (c.toNat - 'A'.toNat + 10)
  else none

/-- Four hexadecimal digits and the rest. -/
def hexUnit? : List Char → Option (Nat × List Char)
  | a :: b :: c :: d :: rest => do
    let a ← hexValue? a
    let b ← hexValue? b
    let c ← hexValue? c
    let d ← hexValue? d
    return (((a * 16 + b) * 16 + c) * 16 + d, rest)
  | _ => none

/-- The character of a `\u` escape, of two if the first is the first half of a pair. -/
def unicodeEscape? (s : List Char) : Option (Char × List Char) := do
  let (first, rest) ← hexUnit? s
  if 0xDC00 ≤ first ∧ first ≤ 0xDFFF then none
  else if 0xD800 ≤ first ∧ first ≤ 0xDBFF then
    match rest with
    | '\\' :: 'u' :: rest =>
      let (second, rest) ← hexUnit? rest
      if 0xDC00 ≤ second ∧ second ≤ 0xDFFF then
        return (Char.ofNat ((first - 0xD800) * 0x400 + (second - 0xDC00) + 0x10000), rest)
      else none
    | _ => none
  else return (Char.ofNat first, rest)

/-- The character of an escape, behind the backslash. -/
def escape? : List Char → Option (Char × List Char)
  | '"' :: rest => some ('"', rest)
  | '\\' :: rest => some ('\\', rest)
  | '/' :: rest => some ('/', rest)
  | 'b' :: rest => some ('\x08', rest)
  | 'f' :: rest => some ('\x0c', rest)
  | 'n' :: rest => some ('\n', rest)
  | 'r' :: rest => some ('\r', rest)
  | 't' :: rest => some ('\t', rest)
  | 'u' :: rest => unicodeEscape? rest
  | _ => none

/-- Reads the rest of a text behind its opening quote. -/
def stringBody? (s : List Char) : Option (List Char × List Char) :=
  match s with
  | [] => none
  | '"' :: rest => some ([], rest)
  | '\\' :: rest =>
    match escape? rest with
    | none => none
    | some (c, after) =>
      if _h : after.length ≤ rest.length then (stringBody? after).map fun r => (c :: r.1, r.2)
      else none
  | c :: rest =>
    if c.toNat < 0x20 then none else (stringBody? rest).map fun r => (c :: r.1, r.2)
termination_by s.length
decreasing_by all_goals simp only [List.length_cons]; omega

/-- Reads parts with commas between them up to a closing mark. The first part has been announced by
the text; there is no comma after the last one. -/
def parts? {α : Type} (part : List Char → Option (α × List Char)) (closing : Char)
    (s : List Char) : Option (List α × List Char) :=
  match part s with
  | none => none
  | some (a, rest) =>
    match skipBlanks rest with
    | ',' :: after =>
      if _h : after.length < s.length then
        (parts? part closing after).map fun r => (a :: r.1, r.2)
      else none
    | c :: after => if c = closing then some ([a], after) else none
    | [] => none
termination_by s.length

/-- Reads parts up to a closing mark, of which there may be none. -/
def sequence? {α : Type} (part : List Char → Option (α × List Char)) (closing : Char)
    (s : List Char) : Option (List α × List Char) :=
  match skipBlanks s with
  | [] => none
  | c :: rest => if c = closing then some ([], rest) else parts? part closing (c :: rest)

/-- Reads a field, its key and its value. -/
def fieldOf? (value : List Char → Option (Json × List Char)) (s : List Char) :
    Option ((String × Json) × List Char) :=
  match skipBlanks s with
  | '"' :: rest =>
    match stringBody? rest with
    | none => none
    | some (key, rest) =>
      match skipBlanks rest with
      | ':' :: rest => (value rest).map fun r => ((String.ofList key, r.1), r.2)
      | _ => none
  | _ => none

def word? (word : String) (j : Json) (s : List Char) : Option (Json × List Char) :=
  let letters := word.toList
  if s.take letters.length = letters then some (j, s.drop letters.length) else none

/-- Reads a value inside which others may nest up to a depth. -/
def value? : (depth : Nat) → List Char → Option (Json × List Char)
  | depth, s =>
    match skipBlanks s with
    | 'n' :: rest => word? "ull" null rest
    | 't' :: rest => word? "rue" (bool true) rest
    | 'f' :: rest => word? "alse" (bool false) rest
    | '"' :: rest => (stringBody? rest).map fun r => (string (String.ofList r.1), r.2)
    | '-' :: rest => number? true rest
    | '[' :: rest =>
      match depth with
      | 0 => none
      | depth + 1 => (sequence? (value? depth) ']' rest).map fun r => (array r.1, r.2)
    | '{' :: rest =>
      match depth with
      | 0 => none
      | depth + 1 => (sequence? (fieldOf? (value? depth)) '}' rest).map fun r => (object r.1, r.2)
    | rest => number? false rest

/-- Reads a value with nothing but blanks around it. Values may be 127 levels deep. -/
def read? (s : List Char) : Option Json :=
  match value? 127 s with
  | some (j, rest) => if (skipBlanks rest).isEmpty then some j else none
  | none => none

def ofText? (s : String) : Option Json :=
  read? s.toList

end DiagramMarkup.Json
