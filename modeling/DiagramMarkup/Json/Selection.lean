import DiagramMarkup.Json.Reader

/-! # Reading some fields of an object

What the other fields hold only has to be written like a value: a number may be of any size, a
string may hold halves of pairs, and values may nest to any depth.
-/

namespace DiagramMarkup.Json

/-- What follows a text in quotes whose opening quote has been read. -/
def skipString? (s : List Char) : Option (List Char) :=
  match s with
  | [] => none
  | '"' :: rest => some rest
  | '\\' :: 'u' :: a :: b :: c :: d :: rest => do
    let _ ← hexUnit? [a, b, c, d]
    skipString? rest
  | '\\' :: c :: rest => if c ∈ "\"\\/bfnrt".toList then skipString? rest else none
  | c :: rest => if c = '\\' ∨ c.toNat < 0x20 then none else skipString? rest
termination_by s.length

def skipDigits? (s : List Char) : Option (List Char) :=
  let (digits, rest) := takeDigits s
  if digits.isEmpty then none else some rest

/-- Skips an exponent, if there is one. -/
def skipExponent? (s : List Char) : Option (List Char) :=
  let read (s : List Char) : Option (List Char) :=
    let (_, digits, rest) := exponentParts s
    if digits.isEmpty then none else some rest
  match s with
  | 'e' :: s => read s
  | 'E' :: s => read s
  | s => some s

/-- Skips a number without its sign. -/
def skipNumber? (s : List Char) : Option (List Char) :=
  let (digits, rest) := takeDigits s
  if digits.isEmpty ∨ (digits.length > 1 ∧ digits.head? = some '0') then none
  else
    match rest with
    | '.' :: rest => (skipDigits? rest).bind skipExponent?
    | rest => skipExponent? rest

def skipWord? (word : String) (s : List Char) : Option (List Char) :=
  (word? word null s).map Prod.snd

/-- What follows the key of a field and its colon. -/
def skipKey? (s : List Char) : Option (List Char) :=
  match skipBlanks s with
  | '"' :: rest =>
    match (skipString? rest).map skipBlanks with
    | some (':' :: rest) => some rest
    | _ => none
  | _ => none

/-- Skips a value. The fuel bounds the depth, as each level takes a character. -/
def skip? : (fuel : Nat) → List Char → Option (List Char)
  | fuel, s =>
    match skipBlanks s with
    | 'n' :: rest => skipWord? "ull" rest
    | 't' :: rest => skipWord? "rue" rest
    | 'f' :: rest => skipWord? "alse" rest
    | '"' :: rest => skipString? rest
    | '-' :: rest => skipNumber? rest
    | '[' :: rest =>
      match fuel with
      | 0 => none
      | fuel + 1 =>
        (sequence? (fun s => (skip? fuel s).map ((), ·)) ']' rest).map Prod.snd
    | '{' :: rest =>
      match fuel with
      | 0 => none
      | fuel + 1 =>
        let field (s : List Char) : Option (Unit × List Char) :=
          ((skipKey? s).bind (skip? fuel)).map ((), ·)
        (sequence? field '}' rest).map Prod.snd
    | rest => skipNumber? rest

/-- Reads a field whose key is among some, and skips the value of any other. -/
def chosenField? (keys : List String) (depth : Nat) (s : List Char) :
    Option (Option (String × Json) × List Char) :=
  match skipBlanks s with
  | '"' :: rest => do
    let (key, rest) ← stringBody? rest
    let key := String.ofList key
    match skipBlanks rest with
    | ':' :: rest =>
      if key ∈ keys then (value? depth rest).map fun r => (some (key, r.1), r.2)
      else (skip? rest.length rest).map (none, ·)
    | _ => none
  | _ => none

/-- Reads a whole text; if it is an object, then only the fields with the given keys. -/
def chosenOfText? (keys : List String) (text : String) : Option Json :=
  let s := text.toList
  match skipBlanks s with
  | '{' :: rest =>
    match sequence? (chosenField? keys 126) '}' rest with
    | some (fields, rest) =>
      if (skipBlanks rest).isEmpty then some (object (fields.filterMap id)) else none
    | none => none
  | _ => read? s

end DiagramMarkup.Json
