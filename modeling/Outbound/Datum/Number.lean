/-
# Outbound.Datum.Number — data as numbers

Timeouts, offsets and lengths are compared with zero when they are used.  Integers,
truth values and doubles can be compared; any other datum is a misuse, which names
the relation.
-/
import Outbound.Datum.Basic

namespace Outbound

set_option autoImplicit false

/-- The sign of a double: its order relative to zero, unless it is no number. -/
def Binary64.order? (x : Binary64) : Option Ordering :=
  match x.magnitude with
  | .nan => none
  | .finite 0 _ => some .eq
  | _ => some (if x.isNegative then .lt else .gt)

namespace Datum

/-- The order of a datum relative to zero, `none` when it has none; `relation` is what faults
show. -/
def order? (relation : String) : Datum → Except Misuse (Option Ordering)
  | .int n => .ok (some (compare n 0))
  | .bool b => .ok (some (compare b.toInt 0))
  | .double x => .ok x.order?
  | d => .error (.incomparable relation d.typeName "int")

def isPositive (d : Datum) : Except Misuse Bool :=
  (d.order? ">").map fun order => order == some .gt

def isNatural (d : Datum) : Except Misuse Bool :=
  (d.order? ">=").map fun order => order == some .gt || order == some .eq

/-- The thousandth part of a number as a double; an integer is rounded to a double first, and
there is none for one beyond all doubles. -/
def thousandth? : Datum → Option Binary64
  | .int n => (Binary64.ofNat? n.toNat).map (·.divNat 1000)
  | .bool b => (Binary64.ofNat? b.toNat).map (·.divNat 1000)
  | .double x => some (x.divNat 1000)
  | _ => none

end Datum

end Outbound
