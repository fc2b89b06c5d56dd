import Curfew.Proofs.Audit.OpenEnd

/-! What a query returns. A field that a record lacks counts as null, and a line may hold a value that is no object at all,
so the answer is what was asked for only if the lines are of objects and no null is asked for where there is no field. -/

namespace Curfew
namespace Audit

open Text

/-! ### What is asked for -/

section
variable {a : Audit} {h : Host} {filters : Entries} {cs : List Char}

section
variable {choice : Value → Except AuditFault Bool} {keep : Value → Bool}

end

/-! ### Queries -/

end

/-! ### Lines and filters that go wrong -/

namespace Foreign

/-- A line that holds a number. -/
def number : List Char := "5\n".toList

end Foreign

end Audit

end Curfew
