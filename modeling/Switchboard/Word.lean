/-!
# Words

Numbers are unbounded here except where a setting, an argument or a number in a document has to fit
a word of 16 or 64 bits. A number that does not fit is refused and never wraps.
-/

namespace Switchboard

/-- The number fits a signed word of 64 bits. -/
def FitsInt64 (n : Int) : Prop := -9223372036854775808 ≤ n ∧ n ≤ 9223372036854775807

instance (n : Int) : Decidable (FitsInt64 n) := inferInstanceAs (Decidable (_ ∧ _))

/-- The number fits an unsigned word of 64 bits. -/
def FitsUInt64 (n : Int) : Prop := 0 ≤ n ∧ n ≤ 18446744073709551615

instance (n : Int) : Decidable (FitsUInt64 n) := inferInstanceAs (Decidable (_ ∧ _))

/-- The signed word of 64 bits with the value of a number. -/
def int64? (n : Int) : Option Int64 := if FitsInt64 n then some (Int64.ofInt n) else none

/-- The unsigned word of 64 bits with the value of a number. -/
def uint64? (n : Int) : Option UInt64 := if FitsUInt64 n then some (UInt64.ofNat n.toNat) else none

/-- The unsigned word of 16 bits with the value of a number. -/
def uint16? (n : Int) : Option UInt16 :=
  if 0 ≤ n ∧ n ≤ 65535 then some (UInt16.ofNat n.toNat) else none

end Switchboard
