import DiagramMarkup.Codec.Base64
import DiagramMarkup.Codec.Inflate
import DiagramMarkup.Codec.Percent
import DiagramMarkup.Text.Cut

/-! # Packed graphs

draw.io packs the text of a graph: it is percent-encoded, deflated and written in Base64.
-/

namespace DiagramMarkup

/-! ## Bytes of texts -/

namespace Codec

def bytes (s : String) : List UInt8 :=
  s.toUTF8.data.toList

/-- The text that bytes stand for, if they stand for one. -/
def text? (b : List UInt8) : Option String :=
  String.fromUTF8? ⟨b.toArray⟩

end Codec

/-! ## Packing -/

namespace Drawio

open Codec

/-- Why a packed text cannot be unpacked. -/
inductive PayloadFault
  /-- It is no Base64. -/
  | alphabet
  /-- It is no deflated stream. -/
  | stream
  /-- It is no text. -/
  | encoding
deriving Repr, DecidableEq

/-- Packs a text: percent-encoded, deflated and written in Base64. -/
def pack (text : String) : String :=
  String.ofList (Base64.encode (deflate (Percent.encode (bytes text))))

/-- The percent-encoded bytes of a packed text, in which blanks do not matter. -/
def unpackBytes (packed : String) : Except PayloadFault (List UInt8) :=
  match Base64.decode? (packed.toList.filter fun c => !Text.isBlank c) with
  | none => .error .alphabet
  | some deflated =>
    match inflate? deflated with
    | none => .error .stream
    | some encoded => .ok encoded

/-- Unpacks a text. Both what is unpacked and what it encodes must be texts. -/
def unpack (packed : String) : Except PayloadFault String :=
  match unpackBytes packed with
  | .error fault => .error fault
  | .ok encoded =>
    match text? encoded, text? (Percent.decode encoded) with
    | some _, some text => .ok text
    | _, _ => .error .encoding

end Drawio

end DiagramMarkup
