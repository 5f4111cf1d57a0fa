import Std.Data.ExtTreeMap

/-!
# Finite maps from names

Sorted by code points; two maps with the same entries are equal.
-/

namespace EventScript

abbrev Names (α : Type) : Type := Std.ExtTreeMap String α

end EventScript
