import DiagramMarkup.Codec.Inflate
import Mathlib.Tactic.Ring

/-! # What is deflated can be inflated

A number of several bits is put together from its bits, so that a byte that starts at a byte is read as
its own number. From this it follows how a stored block is read, and from that how a row of them is.
-/

namespace DiagramMarkup.Codec

/-! ## Numbers in a stream -/

namespace Bits

/-- The number of some bits, the lowest one first. -/
def value (bits : List Bool) : Nat :=
  bits.foldr (fun bit n => bit.toNat + 2 * n) 0

theorem number?_begun (bits more : List Bool) (bytes : List UInt8) :
    number? bits.length ⟨bits ++ more, bytes⟩ = some (value bits, ⟨more, bytes⟩) := by
  induction bits with
  | nil => rfl
  | cons bit bits ih => simp [number?, next?, ih, value]

theorem value_ofByte (b : UInt8) : value (ofByte b) = b.toNat := by
  have each : ∀ n < 256, value ((List.range 8).map n.testBit) = n := by decide +kernel
  exact each b.toNat b.toNat_lt

theorem number?_byte (b : UInt8) (bytes : List UInt8) :
    number? 8 ⟨[], b :: bytes⟩ = some (b.toNat, ⟨[], bytes⟩) := by
  have begun : number? 8 ⟨[], b :: bytes⟩ = number? 8 ⟨ofByte b, bytes⟩ := rfl
  have whole := number?_begun (ofByte b) [] bytes
  rw [List.append_nil] at whole
  rw [begun, ← value_ofByte]
  exact whole

theorem number?_add (low high : Nat) (s : Bits) :
    number? (low + high) s = do
      let (a, s) ← number? low s
      let (b, s) ← number? high s
      return (a + 2 ^ low * b, s) := by
  induction low generalizing s with
  | zero => simp [number?]
  | succ low ih =>
      rw [Nat.succ_add, number?, number?]
      cases s.next? with
      | none => rfl
      | some r =>
          obtain ⟨bit, s⟩ := r
          simp only [Option.bind_eq_bind, Option.bind_some, ih]
          cases number? low s with
          | none => rfl
          | some r =>
              obtain ⟨a, s⟩ := r
              simp only [Option.bind_some, Option.pure_def]
              cases number? high s with
              | none => rfl
              | some r =>
                  simp only [Option.bind_some, Option.some.injEq, Prod.mk.injEq, and_true]
                  ring

theorem number?_pair {n : Nat} (bound : n < 65536) (bytes : List UInt8) :
    number? 16 ⟨[], Deflate.pair n ++ bytes⟩ = some (n, ⟨[], bytes⟩) := by
  have low : (UInt8.ofNat (n % 256)).toNat = n % 256 := by simp
  have high : (UInt8.ofNat (n / 256)).toNat = n / 256 := by
    rw [UInt8.toNat_ofNat']
    omega
  have split := number?_add 8 8 ⟨[], Deflate.pair n ++ bytes⟩
  simp only [Deflate.pair, List.cons_append, List.nil_append, number?_byte, low, high,
    Option.bind_eq_bind, Option.bind_some, Option.pure_def] at split ⊢
  rw [split]
  congr 2
  omega

end Bits

/-! ## Stored blocks -/

namespace Inflate

/-- The bytes of a stored block are added to the output, whatever is left of the byte before it. -/
theorem stored?_block {bytes : List UInt8} (bound : bytes.length ≤ Deflate.blockSize)
    (out : Array UInt8) (begun : List Bool) (rest : List UInt8) :
    stored? out ⟨begun, Deflate.pair bytes.length ++
      (Deflate.pair (Deflate.blockSize - bytes.length) ++ (bytes ++ rest))⟩ =
        some (out ++ bytes, ⟨[], rest⟩) := by
  have limit : Deflate.blockSize = 65535 := rfl
  have size : bytes.length + (Deflate.blockSize - bytes.length) = 65535 := by omega
  simp [stored?, Bits.toByte, Bits.number?_pair (show bytes.length < 65536 by omega),
    Bits.number?_pair (show Deflate.blockSize - bytes.length < 65536 by omega), size, Bits.take?]

/-- Behind a block either everything has been read, or the next one follows. -/
theorem blocks?_block {bytes : List UInt8} (bound : bytes.length ≤ Deflate.blockSize) (last : Bool)
    (fuel : Nat) (out : Array UInt8) (rest : List UInt8) :
    blocks? (fuel + 1) out ⟨[], Deflate.block last bytes ++ rest⟩ =
      if last then some (out ++ bytes) else blocks? fuel (out ++ bytes) ⟨[], rest⟩ := by
  have stored (begun : List Bool) := stored?_block bound out begun rest
  have mark : Bits.next? ⟨[], Deflate.block last bytes ++ rest⟩ =
      some (last, ⟨List.replicate 7 false, Deflate.pair bytes.length ++
        (Deflate.pair (Deflate.blockSize - bytes.length) ++ (bytes ++ rest))⟩) := by
    simp only [Deflate.block, List.cons_append, List.append_assoc]
    cases last <;> rfl
  have kind (bytes : List UInt8) : Bits.number? 2 ⟨List.replicate 7 false, bytes⟩ =
      some (0, ⟨List.replicate 5 false, bytes⟩) := rfl
  simp only [blocks?, mark, block?, kind, stored, Option.bind_eq_bind, Option.bind_some,
    Option.pure_def]

theorem blocks?_blocks (bytes : List UInt8) {fuel : Nat}
    (enough : (Deflate.blocks bytes).length ≤ fuel) (out : Array UInt8) :
    blocks? fuel out ⟨[], Deflate.blocks bytes⟩ = some (out ++ bytes) := by
  induction bytes using Deflate.blocks.induct generalizing fuel out with
  | case1 bytes long ih =>
      have bound : (bytes.take Deflate.blockSize).length ≤ Deflate.blockSize :=
        List.length_take_le _ _
      rw [Deflate.blocks, dif_pos long] at enough ⊢
      simp only [Deflate.block, List.cons_append, List.length_append, List.length_cons] at enough
      -- a block takes one unit of fuel, and it has bytes of its own in the stream
      obtain ⟨fuel, rfl⟩ := Nat.exists_eq_add_of_le' (show 1 ≤ fuel by omega)
      have behind := ih (show (Deflate.blocks (bytes.drop Deflate.blockSize)).length ≤ fuel by omega)
      have whole : out ++ bytes.take Deflate.blockSize ++ bytes.drop Deflate.blockSize =
          out ++ bytes := Array.ext' (by simp)
      rw [blocks?_block bound, if_neg Bool.false_ne_true, behind, whole]
  | case2 bytes short =>
      rw [Deflate.blocks, dif_neg short] at enough ⊢
      obtain ⟨fuel, rfl⟩ := Nat.exists_eq_add_of_le' (show 1 ≤ fuel from Nat.le_trans
        (by simp [Deflate.block]) enough)
      have read := blocks?_block (Nat.le_of_not_lt short) true fuel out []
      rwa [List.append_nil, if_pos rfl] at read

end Inflate

theorem inflate?_deflate (bytes : List UInt8) : inflate? (deflate bytes) = some bytes := by
  have enough : (deflate bytes).length ≤ (Bits.ofBytes (deflate bytes)).size := by
    simp only [Bits.ofBytes, Bits.size, List.length_nil]
    omega
  have read : Inflate.blocks? (Bits.ofBytes (deflate bytes)).size #[] (Bits.ofBytes (deflate bytes)) =
      some (#[] ++ bytes) := Inflate.blocks?_blocks bytes enough #[]
  simp [inflate?, read]

end DiagramMarkup.Codec
