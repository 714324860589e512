import IdentityCrates.Lib.Outcome
import IdentityCrates.Lib.Octets

/-!
# Elementary files

The error of the file parsers (`ef.rs`), and the readers that they take their fields with.

The readers belong to the `asn1` crate.  Of them a parser relies on nothing but that an element is
taken off the front of what is left to read, so they are a parameter here.
-/

namespace Dmrtd

open Rust Octets

/-- `EfParseError`. -/
structure EfParseError where
  message : String
  deriving DecidableEq, Repr

/-- The readers of the `asn1` crate.  Each takes one element of its kind off the front, and fails on
anything else. -/
structure Asn1 where
  /-- `parse_single::<Set>`: the contents of a SET that is all there is. -/
  parseSet : Bytes → Option Bytes
  /-- `read_element::<Sequence>`: the contents of a SEQUENCE. -/
  readSequence : Bytes → Option (Bytes × Bytes)
  readSequence_shorter : ∀ {data sequence rest},
    readSequence data = some (sequence, rest) → rest.length < data.length
  /-- `read_element::<ObjectIdentifier>`: the arcs of an object identifier. -/
  readObjectIdentifier : Bytes → Option (List Nat × Bytes)
  /-- `read_element::<i64>`. -/
  readInteger : Bytes → Option (Int × Bytes)
  /-- The `Display` text of the error for bytes that are left over. -/
  extraData : String

/-- `ObjectIdentifier::to_string`: the arcs in dotted notation. -/
def dotted (arcs : List Nat) : String := String.intercalate "." (arcs.map toString)

end Dmrtd
