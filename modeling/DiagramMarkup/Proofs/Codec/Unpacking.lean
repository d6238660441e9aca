import DiagramMarkup.Drawio.Payload
import DiagramMarkup.Proofs.Codec.Inflating

/-! # What is packed can be unpacked

Each of the steps of packing a text has its own inverse: the bytes of a text, percent encoding,
deflating and Base64. Base64 has no blanks, so that blanks may be put in anywhere.
-/

namespace DiagramMarkup

open Codec

namespace Codec

/-! ## Bytes of texts -/

theorem text?_bytes (s : String) : text? (bytes s) = some s := by
  have whole : (⟨(bytes s).toArray⟩ : ByteArray) = s.toByteArray := rfl
  have valid := s.isValidUTF8
  simp only [text?, whole, String.fromUTF8?, valid, dif_pos]
  rfl

theorem bytes_ofList (s : List Char) : bytes (String.ofList s) = s.flatMap String.utf8EncodeChar := by
  simp [bytes, List.utf8Encode]

theorem exists_text? {b : List UInt8} (ascii : ∀ x ∈ b, x < 128) : ∃ s, text? b = some s := by
  have each : ∀ n < 128, String.utf8EncodeChar (Char.ofNat n) = [UInt8.ofNat n] := by decide
  have same : bytes (String.ofList (b.map fun x => Char.ofNat x.toNat)) = b := by
    rw [bytes_ofList]
    induction b with
    | nil => rfl
    | cons x b ih =>
        obtain ⟨here, behind⟩ := List.forall_mem_cons.mp ascii
        rw [List.map_cons, List.flatMap_cons, ih behind, each x.toNat here, UInt8.ofNat_toNat]
        rfl
  exact ⟨_, same ▸ text?_bytes _⟩

/-! ## Percent encoding -/

namespace Percent

theorem hexByte?_digits (b : UInt8) : hexByte? (hexDigit (b / 16)) (hexDigit (b % 16)) = some b := by
  have each : ∀ n < 256, hexByte? (hexDigit (UInt8.ofNat n / 16)) (hexDigit (UInt8.ofNat n % 16)) =
      some (UInt8.ofNat n) := by decide +kernel
  simpa using each b.toNat b.toNat_lt

theorem ne_sign_of_isPlain {b : UInt8} (plain : isPlain b = true) : b ≠ sign := by
  rintro rfl
  exact absurd plain (by decide)

theorem decode_cons {b : UInt8} (plain : b ≠ sign) (rest : List UInt8) :
    decode (b :: rest) = b :: decode rest := by
  match rest with
  | [] => rfl
  | [_] => rfl
  | _ :: _ :: _ => rw [decode, if_neg plain]

theorem decode_encodeByte (b : UInt8) (rest : List UInt8) :
    decode (encodeByte b ++ rest) = b :: decode rest := by
  by_cases plain : isPlain b = true
  · rw [encodeByte, if_pos plain]
    exact decode_cons (ne_sign_of_isPlain plain) rest
  · simp [encodeByte, plain, decode, hexByte?_digits]

theorem decode_encode (b : List UInt8) : decode (encode b) = b := by
  induction b with
  | nil => rfl
  | cons x b ih => rw [encode, List.flatMap_cons, decode_encodeByte, ← encode, ih]

theorem encodeByte_lt (b : UInt8) : ∀ x ∈ encodeByte b, x < 128 := by
  have each : ∀ n < 256, (encodeByte (UInt8.ofNat n)).all (· < 128) = true := by decide +kernel
  have here := each b.toNat b.toNat_lt
  rw [UInt8.ofNat_toNat] at here
  exact fun x member => of_decide_eq_true (List.all_eq_true.mp here x member)

theorem encode_lt (b : List UInt8) : ∀ x ∈ encode b, x < 128 := by
  intro x member
  obtain ⟨y, _, here⟩ := List.mem_flatMap.mp member
  exact encodeByte_lt y x here

end Percent

/-! ## Base64 -/

namespace Base64

theorem value?_digit {n : Nat} (bound : n < 64) : value? (digit n) = some n := by
  have each : ∀ n < 64, value? (digit n) = some n := by decide
  exact each n bound

theorem digit_ne_padding {n : Nat} (bound : n < 64) : digit n ≠ '=' := by
  have each : ∀ n < 64, digit n ≠ '=' := by decide
  exact each n bound

theorem group?_digits (a b c : UInt8) {n : Nat}
    (whole : n = (a.toNat * 256 + b.toNat) * 256 + c.toNat) :
    group? (digit (n / 262144)) (digit (n / 4096 % 64)) (digit (n / 64 % 64)) (digit (n % 64)) =
      some [a, b, c] := by
  have boundA := a.toNat_lt
  have boundB := b.toNat_lt
  have boundC := c.toNat_lt
  have first : n / 262144 * 4 + n / 4096 % 64 / 16 = a.toNat := by omega
  have second : n / 4096 % 64 % 16 * 16 + n / 64 % 64 / 4 = b.toNat := by omega
  have third : n / 64 % 64 % 4 * 64 + n % 64 = c.toNat := by omega
  simp only [group?, value?_digit (show n / 262144 < 64 by omega),
    value?_digit (show n / 4096 % 64 < 64 by omega), value?_digit (show n / 64 % 64 < 64 by omega),
    value?_digit (show n % 64 < 64 by omega), Option.bind_eq_bind, Option.bind_some,
    Option.pure_def, first, second, third, UInt8.ofNat_toNat]

theorem lastGroup?_eq_group? {c d : Char} (full : c ≠ '=') (full' : d ≠ '=') (a b : Char) :
    lastGroup? a b c d = group? a b c d := by
  simp [lastGroup?, group?, full, full']

theorem exists_encode_cons (b : UInt8) (bytes : List UInt8) :
    ∃ c s, encode (b :: bytes) = c :: s := by
  match bytes with
  | [] | [_] | _ :: _ :: _ => exact ⟨_, _, rfl⟩

theorem decode?_encode (bytes : List UInt8) : decode? (encode bytes) = some bytes := by
  fun_induction encode bytes with
  | case1 => rfl
  | case2 a n =>
      have bound := a.toNat_lt
      have whole : n / 64 * 4 + n % 64 / 16 = a.toNat := by omega
      have rest : n % 64 % 16 = 0 := by omega
      simp only [decode?, lastGroup?, value?_digit (show n / 64 < 64 by omega),
        value?_digit (show n % 64 < 64 by omega), Option.bind_eq_bind, Option.bind_some, rest,
        and_self, if_true, whole, UInt8.ofNat_toNat]
  | case3 a b n =>
      have boundA := a.toNat_lt
      have boundB := b.toNat_lt
      have first : n / 4096 * 4 + n / 64 % 64 / 16 = a.toNat := by omega
      have second : n / 64 % 64 % 16 * 16 + n % 64 / 4 = b.toNat := by omega
      have rest : n % 64 % 4 = 0 := by omega
      simp only [decode?, lastGroup?, value?_digit (show n / 4096 < 64 by omega),
        value?_digit (show n / 64 % 64 < 64 by omega), value?_digit (show n % 64 < 64 by omega),
        digit_ne_padding (show n % 64 < 64 by omega), Option.bind_eq_bind, Option.bind_some, rest,
        if_false, if_true, first, second, UInt8.ofNat_toNat]
  | case4 a b c rest n ih =>
      have group := group?_digits a b c (n := n) rfl
      cases rest with
      | nil =>
          simp only [encode, decode?]
          rw [lastGroup?_eq_group? (digit_ne_padding (by omega)) (digit_ne_padding (by omega)), group]
      | cons x rest =>
          obtain ⟨first, others, encoded⟩ := exists_encode_cons x rest
          rw [encoded] at ih ⊢
          simp only [decode?, group, ih, Option.bind_eq_bind, Option.bind_some, Option.pure_def,
            List.cons_append, List.nil_append]

theorem isBlank_digit (n : Nat) : Text.isBlank (digit n) = false := by
  by_cases small : n < 64
  · have each : ∀ n < 64, Text.isBlank (digit n) = false := by decide
    exact each n small
  · unfold digit
    rw [if_neg (by omega), if_neg (by omega), if_neg (by omega), if_neg (by omega)]
    decide

theorem not_isBlank_of_mem_encode (bytes : List UInt8) :
    ∀ c ∈ encode bytes, Text.isBlank c = false := by
  have padding : Text.isBlank '=' = false := by decide
  fun_induction encode bytes with
  | case1 => simp
  | case2 a n => simp [isBlank_digit, padding]
  | case3 a b n => simp [isBlank_digit, padding]
  | case4 a b c rest n ih =>
      simp only [List.forall_mem_cons, isBlank_digit, true_and]
      exact ih

end Base64

end Codec

/-! ## Packed texts -/

namespace Drawio

/-- A text with blanks put in at any places. -/
inductive Spaced : List Char → List Char → Prop
  | nil : Spaced [] []
  | keep {s t : List Char} (c : Char) : Spaced s t → Spaced (c :: s) (c :: t)
  | blank {s t : List Char} {c : Char} : Text.isBlank c = true → Spaced s t → Spaced s (c :: t)

theorem Spaced.refl (s : List Char) : Spaced s s := by
  induction s with
  | nil => exact .nil
  | cons c s ih => exact .keep c ih

theorem Spaced.filter_eq {s t : List Char} (spaced : Spaced s t)
    (plain : ∀ c ∈ s, Text.isBlank c = false) : (t.filter fun c => !Text.isBlank c) = s := by
  induction spaced with
  | nil => rfl
  | keep c _ ih =>
      obtain ⟨here, behind⟩ := List.forall_mem_cons.mp plain
      rw [List.filter_cons_of_pos (by rw [here]; rfl), ih behind]
  | blank blank _ ih => rw [List.filter_cons_of_neg (by rw [blank]; decide), ih plain]

/-- A text packed by means of some way to deflate bytes. -/
def packWith (deflater : List UInt8 → List UInt8) (text : String) : String :=
  String.ofList (Base64.encode (deflater (Percent.encode (bytes text))))

/-- What inflating makes of deflated bytes is all that matters. -/
theorem unpack_spaced {deflated : List UInt8} {text packed : String}
    (inflates : inflate? deflated = some (Percent.encode (bytes text)))
    (spaced : Spaced (Base64.encode deflated) packed.toList) : unpack packed = .ok text := by
  have compact := spaced.filter_eq (Base64.not_isBlank_of_mem_encode deflated)
  obtain ⟨encoded, isText⟩ := exists_text? (Percent.encode_lt (bytes text))
  simp only [unpack, unpackBytes, compact, Base64.decode?_encode, inflates, isText,
    Percent.decode_encode, text?_bytes]

theorem unpack_packed (text : String) : unpack (pack text) = .ok text := by
  apply unpack_spaced (inflate?_deflate _)
  rw [pack, String.toList_ofList]
  exact .refl _

/-- Whatever a text holds, and wherever blanks are put into what it is packed as, unpacking gives the
text. So it does however the bytes are deflated, if only inflating undoes it. -/
theorem unpack_pack (text packed : String) :
    (Spaced (pack text).toList packed.toList → unpack packed = .ok text) ∧
      ∀ deflater : List UInt8 → List UInt8, (∀ bytes, inflate? (deflater bytes) = some bytes) →
        Spaced (packWith deflater text).toList packed.toList → unpack packed = .ok text := by
  have any (deflater : List UInt8 → List UInt8)
      (undone : ∀ bytes, inflate? (deflater bytes) = some bytes)
      (spaced : Spaced (packWith deflater text).toList packed.toList) : unpack packed = .ok text := by
    rw [packWith, String.toList_ofList] at spaced
    exact unpack_spaced (undone _) spaced
  exact ⟨any deflate inflate?_deflate, any⟩

theorem unpack_pack_spaced :
    (∀ bytes, inflate? (deflate bytes) = some bytes) ∧
      Spaced (pack "é %").toList " AQwA8/8l\r\nQzMlQTklMjAlMjU=\u2003".toList ∧
        Spaced (packWith deflate "é %").toList " AQwA8/8l\r\nQzMlQTklMjAlMjU=\u2003".toList ∧
          unpack " AQwA8/8l\r\nQzMlQTklMjAlMjU=\u2003" = .ok "é %" := by
  have packed : pack "é %" = "AQwA8/8lQzMlQTklMjAlMjU=" := by decide +kernel
  have spaced : Spaced (pack "é %").toList " AQwA8/8l\r\nQzMlQTklMjAlMjU=\u2003".toList := by
    rw [packed]
    repeat' first | exact .nil | apply Spaced.keep | apply Spaced.blank rfl
  have unpacked := (unpack_pack "é %" _).2 deflate inflate?_deflate spaced
  exact ⟨inflate?_deflate, spaced, spaced, unpacked⟩

end Drawio

end DiagramMarkup
