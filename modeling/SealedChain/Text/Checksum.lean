import SealedChain.Bytes.Hex
import SealedChain.Bytes.Keccak

/-!
# Checksummed addresses

The case of the letters of an address carries a checksum: a letter is upper case when the digit at
its place in the hash of the lower-case text is eight or more.
-/
namespace SealedChain.Address

/-- The text of an address with its checksum in the case of its letters. -/
def checksummed (a : Address) : String :=
  let digits := Hex.digits a.toBytes
  let hashed := Hex.digits (keccak256 (digits.map fun c => UInt8.ofNat c.toNat)).toBytes
  let pick := fun (c, h) => if 8 ≤ (Digits.digit? 16 h).getD 0 then c.toUpper else c
  String.ofList ('0' :: 'x' :: (digits.zip hashed).map pick)

end SealedChain.Address
