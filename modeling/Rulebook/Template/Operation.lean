/-
# Operators on values

An operator applied to operands that have been evaluated. Comparisons, `in` and `~` need
operands that are there; the arithmetic operators find out for themselves.

Operators on literals, and on lists and maps of nothing but literals, have their value before
anything is rendered (`Expr.constant?`), provided that nothing in it fails. There `and` gives
`False` unless both operands are true. A chain of comparisons is decided by the first one
that does not hold.
-/

import Rulebook.Template.Expression
import Rulebook.Template.Arithmetic

namespace Rulebook
namespace Template

namespace Operator

/-- An operator that compares its operands in order. -/
def ordered (p : Ordering → Bool) (a b : Value) : Except Failure Value := do
  return .bool (p ((← a.present).compare (← b.present)))

/-- An operator whose operands have both been evaluated. -/
def apply (op : Operator) (a b : Value) : Except Failure Value :=
  match op with
  | .or | .and => .ok b
  | .equal => do return .bool ((← a.present).same (← b.present))
  | .different => do return .bool !((← a.present).same (← b.present))
  | .less => ordered (·.isLT) a b
  | .lessEqual => ordered (·.isLE) a b
  | .greater => ordered (·.isGT) a b
  | .greaterEqual => ordered (·.isGE) a b
  | .isIn => do return .bool (← (← a.present).isIn (← b.present))
  | .isNotIn => do return .bool !(← (← a.present).isIn (← b.present))
  | .add => a.add b
  | .subtract => a.subtract b
  | .concat => do return .text ((← a.present).display ++ (← b.present).display)
  | .multiply => a.multiply b
  | .divide => a.divide b
  | .floorDivide => a.floorDivide b
  | .remainder => a.remainder b
  | .power => a.power b

end Operator

namespace Expr

/-- The value of a literal. -/
def literal? : Expr → Option Value
  | .const v => some v
  | _ => none

/-- The entry of two literals. -/
def literalEntry? (e : Expr × Expr) : Option (Value × Value) :=
  match e.1.literal?, e.2.literal? with
  | some k, some v => some (k, v)
  | _, _ => none

mutual

/-- The value that an expression has in every rendering. -/
def constant? : Expr → Option Value
  | .const v => some v
  | .list items => (items.mapM literal?).map .ofItems
  | .map entries => (entries.mapM literalEntry?).map fun es => .ofEntries (Value.sortEntries es)
  | .negate e => e.constant?.bind fun v => v.negate.toOption
  | .not e => e.constant?.map fun v => .bool !v.isTrue
  | .binary op a b =>
    match a.constant?, b.constant? with
    | some v, some w =>
      match op with
      | .and => some (if v.isTrue && w.isTrue then w else .bool false)
      | .or => some (if v.isTrue then v else w)
      | op => (op.apply v w).toOption
    | _, _ => none
  | .chain first rest => first.constant?.bind fun v => constantChain? v rest
  | _ => none

/-- The value of the comparisons behind a first operand. -/
def constantChain? (v : Value) : List (Operator × Expr) → Option Value
  | [] => some (.bool true)
  | (op, e) :: rest =>
    e.constant?.bind fun w =>
      match op.apply v w with
      | .ok holds => if holds.isTrue then constantChain? w rest else some (.bool false)
      | .error _ => none

end

end Expr

end Template
end Rulebook
