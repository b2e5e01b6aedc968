import ExpressionDetector.Clang.Type

/-!
# Expressions

An expression is a node of Clang's AST: its address (`id`), its class together with the
payload that class carries (`ExprKind`), its static type and its children, in the order of
`Stmt::children()`. The address stands for the pointer: the pass keys its caches by
pointers and compares nodes by pointer, and two nodes at different places of a program have
different addresses, so they are different values here too.

On top of the node type this module gives the queries the pass makes of an expression:
`getStmtClass`, the wrapper-skipping `IgnoreParenImpCasts` and `IgnoreParenCasts`
(`ignoreExprNodes`), `HasSideEffects`, the callee of a call, and the pre-order in which
`RecursiveASTVisitor` reaches the nodes under an expression (`preorder`).
-/

set_option autoImplicit false

namespace ClangDelta

/-- `UnaryOperatorKind`, the operators of C. -/
inductive UnaryOperatorKind
  | postInc | postDec | preInc | preDec | addrOf | deref | plus | minus | not | lNot
  | real | imag | extension
  deriving DecidableEq, Repr

/-- `UnaryOperator::isIncrementDecrementOp`. -/
def UnaryOperatorKind.isIncrementDecrementOp : UnaryOperatorKind → Bool
  | .postInc | .postDec | .preInc | .preDec => true
  | _ => false

/-- `BinaryOperatorKind`, the operators of C. -/
inductive BinaryOperatorKind
  | mul | div | rem | add | sub | shl | shr | lt | gt | le | ge | eq | ne
  | and | xor | or | lAnd | lOr
  | assign | mulAssign | divAssign | remAssign | addAssign | subAssign
  | shlAssign | shrAssign | andAssign | xorAssign | orAssign
  | comma
  deriving DecidableEq, Repr

namespace BinaryOperatorKind

/-- `BinaryOperator::isCompoundAssignmentOp`: `BO_MulAssign` to `BO_OrAssign`. -/
def isCompoundAssignmentOp : BinaryOperatorKind → Bool
  | mulAssign | divAssign | remAssign | addAssign | subAssign
  | shlAssign | shrAssign | andAssign | xorAssign | orAssign => true
  | _ => false

/-- `BinaryOperator::isAssignmentOp`: `BO_Assign` to `BO_OrAssign`. -/
def isAssignmentOp (opcode : BinaryOperatorKind) : Bool :=
  opcode == assign || opcode.isCompoundAssignmentOp

end BinaryOperatorKind

/-- The `CastKind`s of C casts. -/
inductive CastKind
  | lValueToRValue | noOp | arrayToPointerDecay | functionToPointerDecay
  | integralCast | integralToBoolean | integralToFloating | floatingToIntegral
  | floatingCast | floatingRealToComplex | bitCast | toVoid
  deriving DecidableEq, Repr

/-- `llvm::APInt`: a bit pattern of a fixed width. -/
structure APInt where
  bitWidth : Nat
  bits : BitVec bitWidth
  deriving DecidableEq

/-- The `fltSemantics` of C's floating types. -/
inductive FltSemantics
  | ieeeHalf | bFloat | ieeeSingle | ieeeDouble | x87DoubleExtended | ieeeQuad
  deriving DecidableEq, Repr

/-- `fltCategory`. -/
inductive FltCategory
  | infinity | nan | normal | zero
  deriving DecidableEq, Repr

/-- `llvm::APFloat` as `IEEEFloat` stores it. -/
structure APFloat where
  semantics : FltSemantics
  category : FltCategory
  sign : Bool
  exponent : Int
  significand : Nat
  deriving DecidableEq, Repr

/-- `IEEEFloat::bitwiseIsEqual`: the same semantics, category and sign; then the same
exponent for a normal number and the same significand unless zero or infinite. -/
def APFloat.bitwiseIsEqual (lhs rhs : APFloat) : Bool :=
  if lhs.semantics ≠ rhs.semantics ∨ lhs.category ≠ rhs.category ∨ lhs.sign ≠ rhs.sign then
    false
  else if lhs.category = .zero ∨ lhs.category = .infinity then true
  else if lhs.category = .normal ∧ lhs.exponent ≠ rhs.exponent then false
  else decide (lhs.significand = rhs.significand)

/-- The subclass of a `NamedDecl`, with what the pass reads of it. -/
inductive DeclKind
  | var | parmVar
  | function (hasConstOrPureAttr : Bool)
  | enumConstant | field | typedef | tag
  deriving DecidableEq, Repr

/-- A `NamedDecl`: its address and its name. -/
structure NamedDecl where
  id : Nat
  name : String
  kind : DeclKind
  deriving DecidableEq, Repr

namespace NamedDecl

/-- `dyn_cast<VarDecl>` succeeds: a variable or a parameter. -/
def isVarDecl (decl : NamedDecl) : Bool :=
  decl.kind == .var || decl.kind == .parmVar

/-- `dyn_cast<FunctionDecl>` succeeds. -/
def isFunctionDecl (decl : NamedDecl) : Bool :=
  match decl.kind with
  | .function _ => true
  | _ => false

end NamedDecl

/-- `Stmt::StmtClass`, for the expression and statement classes modelled. -/
inductive StmtClass
  | arraySubscriptExpr | binaryOperator | compoundAssignOperator | callExpr | declRefExpr
  | memberExpr | unaryOperator | parenExpr | implicitCastExpr | cStyleCastExpr | constantExpr
  | integerLiteral | floatingLiteral | characterLiteral | stringLiteral
  | conditionalOperator | unaryExprOrTypeTraitExpr
  | compoundStmt | declStmt | ifStmt | whileStmt | doStmt | forStmt | switchStmt | caseStmt
  | defaultStmt | labelStmt | returnStmt | nullStmt | breakStmt | continueStmt | gotoStmt
  deriving DecidableEq, Repr

/-- The class of an expression node with the payload that class carries. -/
inductive ExprKind
  | arraySubscript
  | binaryOperator (opcode : BinaryOperatorKind)
  | call
  | declRef (decl : NamedDecl)
  | member (memberDecl : NamedDecl)
  | unaryOperator (opcode : UnaryOperatorKind)
  | paren
  | implicitCast (castKind : CastKind)
  | cStyleCast (castKind : CastKind) (typeAsWritten : CType)
  | constant
  | integerLiteral (value : APInt)
  | floatingLiteral (value : APFloat)
  | characterLiteral (value : Nat)
  | stringLiteral (bytes : List UInt8)
  | conditionalOperator
  | unaryExprOrTypeTrait
  deriving DecidableEq

namespace ExprKind

/-- `getStmtClass`: a binary operator with a compound-assignment opcode is a
`CompoundAssignOperator`. -/
def stmtClass : ExprKind → StmtClass
  | arraySubscript => .arraySubscriptExpr
  | binaryOperator opcode =>
    if opcode.isCompoundAssignmentOp then .compoundAssignOperator else .binaryOperator
  | call => .callExpr
  | declRef _ => .declRefExpr
  | member _ => .memberExpr
  | unaryOperator _ => .unaryOperator
  | paren => .parenExpr
  | implicitCast _ => .implicitCastExpr
  | cStyleCast _ _ => .cStyleCastExpr
  | constant => .constantExpr
  | integerLiteral _ => .integerLiteral
  | floatingLiteral _ => .floatingLiteral
  | characterLiteral _ => .characterLiteral
  | stringLiteral _ => .stringLiteral
  | conditionalOperator => .conditionalOperator
  | unaryExprOrTypeTrait => .unaryExprOrTypeTraitExpr

/-- The wrappers `IgnoreParenImpCasts` steps through: parentheses, `__extension__`,
implicit casts and `ConstantExpr`. -/
def isParenOrImpCast : ExprKind → Bool
  | paren | unaryOperator .extension | implicitCast _ | constant => true
  | _ => false

/-- The wrappers `IgnoreParenCasts` steps through: those and explicit casts. -/
def isParenOrCast : ExprKind → Bool
  | cStyleCast _ _ => true
  | kind => kind.isParenOrImpCast

/-- The unary operators `Expr::getReferencedDeclOfCallee` looks through: `*`, `&` and `+`. -/
def isCalleeIndirection : ExprKind → Bool
  | unaryOperator .deref | unaryOperator .addrOf | unaryOperator .plus => true
  | _ => false

end ExprKind

/-- An expression node: its address, class and payload, static type and children. -/
inductive Expr where
  | node (id : Nat) (kind : ExprKind) (type : CType) (children : List Expr)

namespace Expr

mutual
/-- Equality of expressions, node by node. -/
def decideEq : (lhs rhs : Expr) → Decidable (lhs = rhs)
  | node id kind type children, node id' kind' type' children' =>
    match decEq id id', decEq kind kind', decEq type type', decideEqChildren children children' with
    | isTrue h₁, isTrue h₂, isTrue h₃, isTrue h₄ => isTrue (h₁ ▸ h₂ ▸ h₃ ▸ h₄ ▸ rfl)
    | isFalse h, _, _, _ => isFalse fun e => by injection e with e; exact h e
    | _, isFalse h, _, _ => isFalse fun e => by injection e with _ e; exact h e
    | _, _, isFalse h, _ => isFalse fun e => by injection e with _ _ e; exact h e
    | _, _, _, isFalse h => isFalse fun e => by injection e with _ _ _ e; exact h e

/-- Equality of child lists. -/
def decideEqChildren : (lhs rhs : List Expr) → Decidable (lhs = rhs)
  | [], [] => isTrue rfl
  | e :: es, e' :: es' =>
    match decideEq e e', decideEqChildren es es' with
    | isTrue h₁, isTrue h₂ => isTrue (h₁ ▸ h₂ ▸ rfl)
    | isFalse h, _ => isFalse fun e => by injection e with e; exact h e
    | _, isFalse h => isFalse fun e => by injection e with _ e; exact h e
  | [], _ :: _ => isFalse fun e => by injection e
  | _ :: _, [] => isFalse fun e => by injection e
end

instance : DecidableEq Expr := decideEq

/-- The node's address. -/
def id : Expr → Nat
  | node id _ _ _ => id

/-- The node's class and payload. -/
def kind : Expr → ExprKind
  | node _ kind _ _ => kind

/-- `Expr::getType`. -/
def type : Expr → CType
  | node _ _ type _ => type

/-- `Stmt::children()`. -/
def children : Expr → List Expr
  | node _ _ _ children => children

/-- `Stmt::getStmtClass`. -/
def getStmtClass (e : Expr) : StmtClass :=
  e.kind.stmtClass

/-- The loop of Clang's `IgnoreExprNodes`: step into the operand of a wrapper `skip`
accepts, as long as there is one. -/
def ignoreExprNodes (skip : ExprKind → Bool) : Expr → Expr
  | node id kind type children =>
    match skip kind, children with
    | true, [sub] => sub.ignoreExprNodes skip
    | _, _ => node id kind type children

theorem ignoreExprNodes_node (skip : ExprKind → Bool) (id : Nat) (kind : ExprKind)
    (type : CType) (children : List Expr) :
    (node id kind type children).ignoreExprNodes skip =
      match skip kind, children with
      | true, [sub] => sub.ignoreExprNodes skip
      | _, _ => node id kind type children := by
  rw [ignoreExprNodes.eq_def]

/-- A property that passes from a wrapper `skip` accepts to its operand survives the
stripping. -/
theorem ignoreExprNodes_induction (skip : ExprKind → Bool) (P : Expr → Prop)
    (step : ∀ id kind type sub, skip kind = true → P (node id kind type [sub]) → P sub) :
    ∀ e, P e → P (e.ignoreExprNodes skip)
  | node id kind type [sub], h => by
    rw [ignoreExprNodes_node]
    cases isWrapper : skip kind
    · exact h
    · exact ignoreExprNodes_induction skip P step sub (step id kind type sub isWrapper h)
  | node id kind type [], h | node id kind type (_ :: _ :: _), h => by
    rw [ignoreExprNodes_node]; cases skip kind <;> exact h

/-- A function that steps into the operand of every wrapper `skip` accepts, and otherwise
reads the node, is a function of the stripped node. -/
theorem eq_of_ignoreExprNodes {α : Type} (skip : ExprKind → Bool) (walk read : Expr → α)
    (unfold : ∀ id kind type children, walk (node id kind type children) =
      match skip kind, children with
      | true, [sub] => walk sub
      | _, children => read (node id kind type children)) :
    ∀ e, walk e = read (e.ignoreExprNodes skip)
  | node id kind type [sub] => by
    rw [unfold, ignoreExprNodes_node]
    cases skip kind
    · rfl
    · exact eq_of_ignoreExprNodes skip walk read unfold sub
  | node id kind type [] | node id kind type (_ :: _ :: _) => by
    rw [unfold, ignoreExprNodes_node]; cases skip kind <;> rfl

/-- A stripped node has nothing left to strip. -/
theorem ignoreExprNodes_idem (skip : ExprKind → Bool) :
    ∀ e : Expr, (e.ignoreExprNodes skip).ignoreExprNodes skip = e.ignoreExprNodes skip
  | node id kind type [sub] => by
    rw [ignoreExprNodes_node]
    cases isWrapper : skip kind
    · rw [ignoreExprNodes_node, isWrapper]
    · exact ignoreExprNodes_idem skip sub
  | node id kind type [] | node id kind type (_ :: _ :: _) => by
    rw [ignoreExprNodes_node]
    cases isWrapper : skip kind <;> rw [ignoreExprNodes_node, isWrapper]

/-- `Expr::IgnoreParenImpCasts`. -/
def ignoreParenImpCasts : Expr → Expr :=
  ignoreExprNodes ExprKind.isParenOrImpCast

/-- `Expr::IgnoreParenCasts`. -/
def ignoreParenCasts : Expr → Expr :=
  ignoreExprNodes ExprKind.isParenOrCast

/-- `Expr::getReferencedDeclOfCallee`, read on a callee expression: strip parentheses and
implicit casts, and while the node is a `*`, `&` or unary `+`, go on with its operand,
stripped again; a name or a member then gives its declaration. Clang's two loops are one walk
here (`getReferencedDeclOfCallee_eq`). -/
def getReferencedDeclOfCallee : Expr → Option NamedDecl
  | node _ kind _ children =>
    match kind.isParenOrImpCast || kind.isCalleeIndirection, children with
    | true, [sub] => sub.getReferencedDeclOfCallee
    | _, _ =>
      match kind with
      | .declRef decl | .member decl => some decl
      | _ => none

/-- The lookup in Clang's shape: after `IgnoreParenImpCasts`, a `*`, `&` or unary `+` hands on
to its operand, and a name or a member gives its declaration. -/
theorem getReferencedDeclOfCallee_eq (callee : Expr) :
    callee.getReferencedDeclOfCallee =
      match callee.ignoreParenImpCasts with
      | node _ kind _ children =>
        match kind.isCalleeIndirection, children with
        | true, [sub] => sub.getReferencedDeclOfCallee
        | _, _ =>
          match kind with
          | .declRef decl | .member decl => some decl
          | _ => none := by
  refine eq_of_ignoreExprNodes ExprKind.isParenOrImpCast getReferencedDeclOfCallee
    (fun
      | node _ kind _ children =>
        match kind.isCalleeIndirection, children with
        | true, [sub] => sub.getReferencedDeclOfCallee
        | _, _ =>
          match kind with
          | .declRef decl | .member decl => some decl
          | _ => none)
    (fun id kind type children => ?_) callee
  rcases children with _ | ⟨sub, _ | _⟩ <;> cases kind <;> try rfl
  all_goals rename_i opcode; cases opcode <;> rfl

/-- `CallExpr::getCalleeDecl`: what the callee, the call's first child, refers to. -/
def getCalleeDecl : Expr → Option NamedDecl
  | node _ .call _ (callee :: _) => callee.getReferencedDeclOfCallee
  | _ => none

/-- `CallExpr::getDirectCallee`: the callee declaration when it is a function. -/
def getDirectCallee (e : Expr) : Option NamedDecl :=
  e.getCalleeDecl.filter NamedDecl.isFunctionDecl

/-- The callee of a call with these children carries `__attribute__((const))` or
`__attribute__((pure))`. -/
def calleeIsConstOrPure : List Expr → Bool
  | callee :: _ =>
    match callee.getReferencedDeclOfCallee with
    | some ⟨_, _, .function true⟩ => true
    | _ => false
  | [] => false

/-- The first child of a cast is a `volatile` glvalue. -/
def operandIsVolatile : List Expr → Bool
  | operand :: _ => operand.type.isVolatileQualified
  | [] => false

mutual
/-- `Expr::HasSideEffects` with `IncludePossibleEffects` set, its default: a call to a
function that is neither `const` nor `pure`, an assignment, an increment or decrement, a
read of a `volatile` object, or such an effect in a child. Names, literals and `sizeof`
never have one. -/
def hasSideEffects : Expr → Bool
  | node _ kind _ children =>
    match kind with
    | .declRef _ | .integerLiteral _ | .floatingLiteral _ | .stringLiteral _
    | .characterLiteral _ | .unaryExprOrTypeTrait => false
    | .call => !calleeIsConstOrPure children || childrenHaveSideEffects children
    | .binaryOperator opcode => opcode.isAssignmentOp || childrenHaveSideEffects children
    | .unaryOperator opcode =>
      opcode.isIncrementDecrementOp || childrenHaveSideEffects children
    | .implicitCast castKind | .cStyleCast castKind _ =>
      (castKind == .lValueToRValue && operandIsVolatile children) ||
        childrenHaveSideEffects children
    | .arraySubscript | .member _ | .paren | .constant | .conditionalOperator =>
      childrenHaveSideEffects children

/-- Some child has a side effect. -/
def childrenHaveSideEffects : List Expr → Bool
  | [] => false
  | e :: es => e.hasSideEffects || childrenHaveSideEffects es
end

mutual
/-- The nodes `RecursiveASTVisitor::TraverseStmt` reaches under an expression, the
expression first, in pre-order. -/
def preorder : Expr → List Expr
  | e@(node _ _ _ children) => e :: preorderChildren children

/-- The pre-order of each child in turn. -/
def preorderChildren : List Expr → List Expr
  | [] => []
  | e :: es => e.preorder ++ preorderChildren es
end

/-! ## Induction past the wrappers -/

theorem sizeOf_ignoreExprNodes_le (skip : ExprKind → Bool) :
    ∀ e : Expr, sizeOf (e.ignoreExprNodes skip) ≤ sizeOf e
  | node _ kind _ children => by
    rw [ignoreExprNodes_node]
    split
    · next sub _ =>
      have := sizeOf_ignoreExprNodes_le skip sub
      simp only [node.sizeOf_spec, List.cons.sizeOf_spec] at *; omega
    · exact Nat.le_refl _

theorem sizeOf_children_lt : ∀ e : Expr, sizeOf e.children < sizeOf e
  | node _ _ _ _ => by simp only [children, node.sizeOf_spec]; omega

theorem sizeOf_lt_of_mem_ignoreParenImpCasts_children {e child : Expr}
    (mem : child ∈ e.ignoreParenImpCasts.children) : sizeOf child < sizeOf e :=
  calc sizeOf child < sizeOf e.ignoreParenImpCasts.children := List.sizeOf_lt_of_mem mem
    _ < sizeOf e.ignoreParenImpCasts := sizeOf_children_lt _
    _ ≤ sizeOf e := sizeOf_ignoreExprNodes_le _ _

/-- Induction along the walks of the pass that strip a node before reading its children,
as `isIdenticalExpr` does. -/
theorem strippedInduction (motive : Expr → Prop)
    (step : ∀ e, (∀ child ∈ e.ignoreParenImpCasts.children, motive child) → motive e) :
    ∀ e, motive e
  | e => step e fun child mem =>
    have := sizeOf_lt_of_mem_ignoreParenImpCasts_children mem
    strippedInduction motive step child
termination_by e => sizeOf e

end Expr

end ClangDelta
