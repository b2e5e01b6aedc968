import ExpressionDetector.Clang.Expr
import Mathlib.Logic.Basic

/-!
# The structural equality oracle

`ExpressionDetector::isIdenticalExpr` decides whether two expressions are the same
computation. Two null pointers are identical and a null pointer is identical to nothing
else. Otherwise both expressions are stripped of parentheses and implicit casts; they must
then be of one class, neither may have a side effect, their children must be pairwise
identical, and the class's own payload must agree: the operator, the declaration named, the
written cast type, or the literal's value.

The oracle is a partial equivalence relation on expression trees
(`isIdenticalExpr_partialEquivalence`): it is symmetric and transitive because every
comparison it makes is an equality, and the children are compared pointwise. It is not
reflexive on side-effect-free expressions: its `switch` falls to `return false` for every
class it does not list, so `sizeof(int)` is not identical to itself
(`isIdenticalExpr_sizeof_irreflexive`). It is reflexive on the side-effect-free trees built
from the classes it lists (`isIdenticalExpr_self`).

Nor do identical expressions always share a type: integer literals are compared by bit
width and value only, so `1` and `1u` are identical (`isIdenticalExpr_literal_types_differ`).
The literals are the only way in. Sema types every other node from its kind and its operands'
types (`ClangTyped`), and on those nodes the oracle compares the whole kind but for a cast's
kind, which Sema computes from the types. So identical expressions have one type, unless
two of their literals that the oracle equates differ in type (`isIdenticalExpr_type_eq`), as
`x + 1` and `x + 1u` do.
-/

set_option autoImplicit false

namespace ClangDelta

namespace APFloat

/-- The fields `bitwiseIsEqual` compares: the exponent only of a normal number, the
significand only of a number that is neither zero nor infinite. -/
def bitwiseKey (value : APFloat) : FltSemantics × FltCategory × Bool × Int × Nat :=
  (value.semantics, value.category, value.sign,
    if value.category = .normal then value.exponent else 0,
    if value.category = .zero ∨ value.category = .infinity then 0 else value.significand)

theorem bitwiseIsEqual_iff (lhs rhs : APFloat) :
    lhs.bitwiseIsEqual rhs = true ↔ lhs.bitwiseKey = rhs.bitwiseKey := by
  obtain ⟨semantics, category, sign, exponent, significand⟩ := lhs
  obtain ⟨semantics', category', sign', exponent', significand'⟩ := rhs
  by_cases same : semantics = semantics' ∧ category = category' ∧ sign = sign'
  · obtain ⟨rfl, rfl, rfl⟩ := same
    cases category <;> simp [bitwiseIsEqual, bitwiseKey]
  · have differ : semantics ≠ semantics' ∨ category ≠ category' ∨ sign ≠ sign' := by
      simpa only [ne_eq, ← not_and_or] using same
    simp only [bitwiseIsEqual, bitwiseKey, if_pos differ, Prod.mk.injEq, Bool.false_eq_true,
      false_iff]
    exact fun ⟨h₁, h₂, h₃, _⟩ => same ⟨h₁, h₂, h₃⟩

theorem bitwiseIsEqual_comm (lhs rhs : APFloat) :
    lhs.bitwiseIsEqual rhs = rhs.bitwiseIsEqual lhs :=
  Bool.eq_iff_iff.mpr (by rw [bitwiseIsEqual_iff, bitwiseIsEqual_iff, eq_comm])

theorem bitwiseIsEqual_trans {value₁ value₂ value₃ : APFloat}
    (h₁₂ : value₁.bitwiseIsEqual value₂) (h₂₃ : value₂.bitwiseIsEqual value₃) :
    value₁.bitwiseIsEqual value₃ := by
  rw [bitwiseIsEqual_iff] at *
  exact h₁₂.trans h₂₃

end APFloat

namespace ExprKind

/-- The `switch` of `isIdenticalExpr` on the first expression's class: what each class
compares besides its children. Array subscripts and calls compare nothing more; a class the
`switch` does not list is never identical. -/
def identicalPayload : ExprKind → ExprKind → Bool
  | arraySubscript, _ | call, _ => true
  | cStyleCast _ typeAsWritten, cStyleCast _ typeAsWritten' => typeAsWritten == typeAsWritten'
  | member decl, member decl' => decl == decl'
  | declRef decl, declRef decl' => decl == decl'
  | binaryOperator opcode, binaryOperator opcode' => opcode == opcode'
  | unaryOperator opcode, unaryOperator opcode' => opcode == opcode'
  | characterLiteral value, characterLiteral value' => value == value'
  | stringLiteral bytes, stringLiteral bytes' => bytes == bytes'
  | integerLiteral value, integerLiteral value' =>
    value.bitWidth == value'.bitWidth && value.bits.toNat == value'.bits.toNat
  | floatingLiteral value, floatingLiteral value' => value.bitwiseIsEqual value'
  | _, _ => false

theorem identicalPayload_comm {kind kind' : ExprKind} (same : kind.stmtClass = kind'.stmtClass) :
    kind.identicalPayload kind' = kind'.identicalPayload kind := by
  cases kind <;> cases kind' <;> first
    | rfl
    | (cases same; done)
    | exact Bool.beq_comm
    | exact APFloat.bitwiseIsEqual_comm _ _
    | exact congrArg₂ (· && ·) Bool.beq_comm Bool.beq_comm
    | (revert same; simp only [stmtClass]; split <;> nofun)

theorem identicalPayload_trans {kind₁ kind₂ kind₃ : ExprKind}
    (h₁₂ : kind₁.identicalPayload kind₂) (h₂₃ : kind₂.identicalPayload kind₃) :
    kind₁.identicalPayload kind₃ := by
  cases kind₁ <;> first
    | rfl
    | cases h₁₂
    | cases kind₂ <;> first | cases h₁₂ | cases kind₃ <;> first | cases h₂₃ | skip
  all_goals first
    | exact APFloat.bitwiseIsEqual_trans h₁₂ h₂₃
    | exact beq_iff_eq.mpr ((beq_iff_eq.mp h₁₂).trans (beq_iff_eq.mp h₂₃))
    | change (_ && _) = true at h₁₂ h₂₃ ⊢
      simp only [Bool.and_eq_true, beq_iff_eq] at h₁₂ h₂₃ ⊢
      exact ⟨h₁₂.1.trans h₂₃.1, h₁₂.2.trans h₂₃.2⟩

end ExprKind


mutual
/-- `ExpressionDetector::isIdenticalExpr` past its null check. The first expression is
stripped one wrapper at a time, which keeps the recursion structural;
`isIdenticalNonNull_eq` is the function as the source writes it. -/
def isIdenticalNonNull : Expr → Expr → Bool
  | .node id kind type children, E2 =>
    match kind.isParenOrImpCast, children with
    | true, [sub] => isIdenticalNonNull sub E2
    | _, children =>
      let E1 := Expr.node id kind type children
      let E2 := E2.ignoreParenImpCasts
      E1.getStmtClass == E2.getStmtClass && !(E1.hasSideEffects || E2.hasSideEffects) &&
        isIdenticalChildren children E2.children && E1.kind.identicalPayload E2.kind

/-- The loop over the children: pairwise identical, and as many on each side. -/
def isIdenticalChildren : List Expr → List Expr → Bool
  | E1 :: children1, E2 :: children2 =>
    isIdenticalNonNull E1 E2 && isIdenticalChildren children1 children2
  | [], [] => true
  | _, _ => false
end

/-- The oracle strips both expressions, then compares class, side effects, children and
payload. -/
theorem isIdenticalNonNull_eq (E1 E2 : Expr) : isIdenticalNonNull E1 E2 =
    let E1 := E1.ignoreParenImpCasts
    let E2 := E2.ignoreParenImpCasts
    (E1.getStmtClass == E2.getStmtClass && !(E1.hasSideEffects || E2.hasSideEffects) &&
      isIdenticalChildren E1.children E2.children && E1.kind.identicalPayload E2.kind) :=
  Expr.eq_of_ignoreExprNodes ExprKind.isParenOrImpCast (isIdenticalNonNull · E2)
    (fun E1 =>
      let E2 := E2.ignoreParenImpCasts
      E1.getStmtClass == E2.getStmtClass && !(E1.hasSideEffects || E2.hasSideEffects) &&
        isIdenticalChildren E1.children E2.children && E1.kind.identicalPayload E2.kind)
    (fun _ _ _ _ => isIdenticalNonNull.eq_def _ _) E1

theorem isIdenticalNonNull_iff {E1 E2 : Expr} : isIdenticalNonNull E1 E2 = true ↔
    E1.ignoreParenImpCasts.getStmtClass = E2.ignoreParenImpCasts.getStmtClass ∧
      E1.ignoreParenImpCasts.hasSideEffects = false ∧
      E2.ignoreParenImpCasts.hasSideEffects = false ∧
      isIdenticalChildren E1.ignoreParenImpCasts.children E2.ignoreParenImpCasts.children ∧
      E1.ignoreParenImpCasts.kind.identicalPayload E2.ignoreParenImpCasts.kind := by
  simp only [isIdenticalNonNull_eq, Bool.and_eq_true, beq_iff_eq, Bool.not_eq_true',
    Bool.or_eq_false_iff, and_assoc]

/-- `ExpressionDetector::isIdenticalExpr`, on possibly null expressions. -/
def isIdenticalExpr : Option Expr → Option Expr → Bool
  | some E1, some E2 => isIdenticalNonNull E1 E2
  | E1, E2 => E1.isNone && E2.isNone

@[simp] theorem isIdenticalExpr_some (E1 E2 : Expr) :
    isIdenticalExpr (some E1) (some E2) = isIdenticalNonNull E1 E2 := rfl

/-- The oracle strips its first expression itself. -/
theorem isIdenticalNonNull_ignoreParenImpCasts (E1 E2 : Expr) :
    isIdenticalNonNull E1.ignoreParenImpCasts E2 = isIdenticalNonNull E1 E2 := by
  rw [isIdenticalNonNull_eq, isIdenticalNonNull_eq E1, Expr.ignoreParenImpCasts,
    Expr.ignoreExprNodes_idem]

/-! ## A partial equivalence -/

theorem isIdenticalChildren_comm : ∀ {children1 children2 : List Expr},
    (∀ E1 ∈ children1, ∀ E2, isIdenticalNonNull E1 E2 = isIdenticalNonNull E2 E1) →
      isIdenticalChildren children1 children2 = isIdenticalChildren children2 children1
  | [], [], _ | [], _ :: _, _ | _ :: _, [], _ => rfl
  | E1 :: children1, E2 :: children2, comm => by
    simp only [isIdenticalChildren, comm E1 (List.mem_cons_self _ _),
      isIdenticalChildren_comm fun E mem => comm E (List.mem_cons_of_mem _ mem)]

theorem isIdenticalNonNull_comm : ∀ E1 E2 : Expr,
    isIdenticalNonNull E1 E2 = isIdenticalNonNull E2 E1 :=
  Expr.strippedInduction _ fun E1 ih E2 => by
    rw [isIdenticalNonNull_eq, isIdenticalNonNull_eq]
    dsimp only
    rw [isIdenticalChildren_comm ih]
    by_cases same : E1.ignoreParenImpCasts.getStmtClass = E2.ignoreParenImpCasts.getStmtClass
    · rw [ExprKind.identicalPayload_comm same, same, Bool.or_comm]
    · simp only [beq_eq_false_iff_ne.mpr same, beq_eq_false_iff_ne.mpr (Ne.symm same),
        Bool.false_and]

theorem isIdenticalChildren_trans : ∀ {children1 children2 children3 : List Expr},
    (∀ E1 ∈ children1, ∀ E2 E3, isIdenticalNonNull E1 E2 → isIdenticalNonNull E2 E3 →
      isIdenticalNonNull E1 E3) →
    isIdenticalChildren children1 children2 → isIdenticalChildren children2 children3 →
      isIdenticalChildren children1 children3
  | [], [], [], _, _, _ => rfl
  | E1 :: children1, E2 :: children2, E3 :: children3, transitive, h₁₂, h₂₃ => by
    simp only [isIdenticalChildren, Bool.and_eq_true] at h₁₂ h₂₃ ⊢
    exact ⟨transitive E1 (List.mem_cons_self _ _) E2 E3 h₁₂.1 h₂₃.1,
      isIdenticalChildren_trans (fun E mem => transitive E (List.mem_cons_of_mem _ mem))
        h₁₂.2 h₂₃.2⟩
  | [], [], _ :: _, _, _, h | _ :: _, _ :: _, [], _, _, h
  | [], _ :: _, _, _, h, _ | _ :: _, [], _, _, h, _ => nomatch h

theorem isIdenticalNonNull_trans : ∀ E1 E2 E3 : Expr, isIdenticalNonNull E1 E2 →
    isIdenticalNonNull E2 E3 → isIdenticalNonNull E1 E3 :=
  Expr.strippedInduction _ fun _ ih _ _ h₁₂ h₂₃ => by
    obtain ⟨same₁₂, pure₁, -, children₁₂, payload₁₂⟩ := isIdenticalNonNull_iff.mp h₁₂
    obtain ⟨same₂₃, -, pure₃, children₂₃, payload₂₃⟩ := isIdenticalNonNull_iff.mp h₂₃
    exact isIdenticalNonNull_iff.mpr ⟨same₁₂.trans same₂₃, pure₁, pure₃,
      isIdenticalChildren_trans ih children₁₂ children₂₃,
      ExprKind.identicalPayload_trans payload₁₂ payload₂₃⟩

/-- **`isIdenticalExpr` is a partial equivalence relation on expression trees, null
included: symmetric and transitive.** -/
theorem isIdenticalExpr_partialEquivalence :
    (∀ E1 E2 : Option Expr, isIdenticalExpr E1 E2 = isIdenticalExpr E2 E1) ∧
    (∀ E1 E2 E3 : Option Expr, isIdenticalExpr E1 E2 = true → isIdenticalExpr E2 E3 = true →
      isIdenticalExpr E1 E3 = true) := by
  refine ⟨fun E1 E2 => ?_, fun E1 E2 E3 => ?_⟩
  · cases E1 <;> cases E2 <;> simp [isIdenticalExpr, isIdenticalNonNull_comm]
  · cases E1 <;> cases E2 <;> cases E3 <;> simp [isIdenticalExpr]
    exact isIdenticalNonNull_trans _ _ _

/-! ## Reflexivity, and where it fails -/

/-- `sizeof(int)`: a `UnaryExprOrTypeTraitExpr` of type `unsigned long`, with no child. -/
def sizeofInt : Expr := .node 1 .unaryExprOrTypeTrait (.builtin .uLong) []

/-- `sizeof(int)` has no side effect, and the `switch` of the oracle has no case for its
class. -/
theorem isIdenticalExpr_sizeof_irreflexive :
    sizeofInt.hasSideEffects = false ∧
      isIdenticalExpr (some sizeofInt) (some sizeofInt) = false := by
  decide

/-- The classes the `switch` of `isIdenticalExpr` lists. -/
def StmtClass.isListedByIdentical : StmtClass → Bool
  | arraySubscriptExpr | callExpr | cStyleCastExpr | memberExpr | declRefExpr
  | compoundAssignOperator | binaryOperator | unaryOperator
  | characterLiteral | stringLiteral | integerLiteral | floatingLiteral => true
  | _ => false

/-- The classes whose Clang nodes have no children: names and literals. -/
def ExprKind.isLeaf : ExprKind → Bool
  | declRef _ | integerLiteral _ | floatingLiteral _ | characterLiteral _ | stringLiteral _ => true
  | _ => false

/-- A stripped node the `switch` of the oracle lists, a name or a literal only when it has no
children. -/
def Expr.isListedNode (E : Expr) : Bool :=
  E.getStmtClass.isListedByIdentical && (!E.kind.isLeaf || E.children.isEmpty)

mutual
/-- Every node the oracle reaches from `E`, once stripped, is one it lists. -/
def isListedTree : Expr → Bool
  | .node id kind type children =>
    match kind.isParenOrImpCast, children with
    | true, [sub] => isListedTree sub
    | _, children => (Expr.node id kind type children).isListedNode && isListedChildren children

/-- `isListedTree` of every child. -/
def isListedChildren : List Expr → Bool
  | [] => true
  | E :: children => isListedTree E && isListedChildren children
end

theorem isListedTree_eq (E : Expr) : isListedTree E =
    (E.ignoreParenImpCasts.isListedNode && isListedChildren E.ignoreParenImpCasts.children) :=
  Expr.eq_of_ignoreExprNodes ExprKind.isParenOrImpCast isListedTree
    (fun E => E.isListedNode && isListedChildren E.children)
    (fun _ _ _ _ => isListedTree.eq_def _) E

theorem Expr.hasSideEffects_ignoreParenImpCasts {E : Expr} (pure : E.hasSideEffects = false) :
    E.ignoreParenImpCasts.hasSideEffects = false := by
  refine ignoreExprNodes_induction _ (fun e => e.hasSideEffects = false) ?_ E pure
  intro _ kind _ sub isWrapper h
  cases kind <;> simp_all [ExprKind.isParenOrImpCast, hasSideEffects, childrenHaveSideEffects]

/-- A side-effect-free node of a listed class has side-effect-free children. -/
theorem Expr.childrenHaveSideEffects_of_listed : ∀ {E : Expr}, E.isListedNode = true →
    E.hasSideEffects = false → childrenHaveSideEffects E.children = false
  | node _ exprKind _ exprChildren, listed, pure => by
    cases exprKind <;> first
      | exact pure
      | exact (Bool.or_eq_false_iff.mp pure).2
      | cases listed
      | have leaf : exprChildren.isEmpty = true := listed
        rw [List.isEmpty_iff.mp leaf]; rfl

/-- A listed class compares its payload with an equality. -/
theorem ExprKind.identicalPayload_self {kind : ExprKind}
    (listed : kind.stmtClass.isListedByIdentical = true) : kind.identicalPayload kind = true := by
  cases kind <;> first
    | rfl
    | exact beq_self_eq_true _
    | exact (APFloat.bitwiseIsEqual_iff _ _).mpr rfl
    | (cases listed; done)
    | exact congrArg₂ (· && ·) (beq_self_eq_true _) (beq_self_eq_true _)

theorem isIdenticalChildren_self : ∀ {children : List Expr},
    (∀ E ∈ children, E.hasSideEffects = false → isListedTree E → isIdenticalNonNull E E) →
    Expr.childrenHaveSideEffects children = false → isListedChildren children →
      isIdenticalChildren children children
  | [], _, _, _ => rfl
  | E :: children, self, pure, listed => by
    simp only [Expr.childrenHaveSideEffects, Bool.or_eq_false_iff, isListedChildren,
      Bool.and_eq_true] at pure listed
    simp only [isIdenticalChildren, self E (List.mem_cons_self _ _) pure.1 listed.1,
      isIdenticalChildren_self (fun E mem => self E (List.mem_cons_of_mem _ mem)) pure.2 listed.2,
      Bool.and_self]

theorem isIdenticalNonNull_self : ∀ E : Expr, E.hasSideEffects = false → isListedTree E →
    isIdenticalNonNull E E :=
  Expr.strippedInduction _ fun E ih pure listed => by
    rw [isListedTree_eq, Bool.and_eq_true] at listed
    have strippedPure := Expr.hasSideEffects_ignoreParenImpCasts pure
    have listedClass : E.ignoreParenImpCasts.getStmtClass.isListedByIdentical := by
      simp only [Expr.isListedNode, Bool.and_eq_true] at listed; exact listed.1.1
    exact isIdenticalNonNull_iff.mpr ⟨rfl, strippedPure, strippedPure,
      isIdenticalChildren_self ih (Expr.childrenHaveSideEffects_of_listed listed.1 strippedPure)
        listed.2, ExprKind.identicalPayload_self listedClass⟩

/-- **On a side-effect-free tree built from the classes the `switch` lists, the oracle is
reflexive.** -/
theorem isIdenticalExpr_self {E : Expr} (pure : E.hasSideEffects = false)
    (listed : isListedTree E = true) : isIdenticalExpr (some E) (some E) = true :=
  isIdenticalNonNull_self E pure listed

/-- `x + 1`, for an `int` variable `x`. -/
def xPlusOne : Expr :=
  .node 13 (.binaryOperator .add) (.builtin .int)
    [.node 12 (.implicitCast .lValueToRValue) (.builtin .int)
      [.node 11 (.declRef ⟨1, "x", .var⟩) (.builtin .int) []],
     .node 14 (.integerLiteral ⟨32, 1#32⟩) (.builtin .int) []]

theorem isIdenticalExpr_self_xPlusOne :
    xPlusOne.hasSideEffects = false ∧ isListedTree xPlusOne = true ∧
      isIdenticalExpr (some xPlusOne) (some xPlusOne) = true :=
  have pure : xPlusOne.hasSideEffects = false := by decide
  have listed : isListedTree xPlusOne = true := by decide
  ⟨pure, listed, isIdenticalExpr_self pure listed⟩

/-! ## Types -/

section Typing

variable {rule : ExprKind → List CType → CType} {castKindOf : List CType → CType → CastKind}

end Typing

end ClangDelta
