import ExpressionDetector.Identical
import ExpressionDetector.Clang.Stmt
import Mathlib.Logic.Function.Basic

/-!
# Reserved names and the per-statement collectors

The pass names what it introduces with three reserved prefixes: capture temporaries
`__cvise_expr_tmp_`, print guards `__cvise_printed_` and check guards `__cvise_checked_`.
`refToTmpVar` recognises a declaration carrying any of them.

Two visitors run over a single statement. `LocalUOBOVisitor` collects the operands of
increments, decrements and `&`, and the left operands of assignments, each stripped of
parentheses and implicit casts: the expressions the statement writes or takes the address
of. `LocalTmpVarCollector` collects the capture temporaries the statement names. Over a
whole function, `ExprDetectorTempVarVisitor` records the stripped initializer of every
capture temporary the function declares (`ProcessedExprs`), and `hasIdenticalExpr` asks
whether an expression is identical to the recorded initializer of one of the temporaries a
statement names.

Since the oracle is transitive, an expression identical to one that is already captured is
captured too (`hasIdenticalExpr_of_isIdenticalExpr`).
-/

set_option autoImplicit false

namespace ClangDelta

/-! ## Reserved names -/

/-- Modelled from the spec: `TmpVarNamePrefix`, the prefix of capture temporaries, spelled as
the comments of the pass spell it (`__cvise_expr_tmp_xxx`); the header that defines it is not
among the sources. -/
def tmpVarNamePrefix : String := "__cvise_expr_tmp_"

/-- Modelled from the spec: `PrintedVarNamePrefix`, the prefix of the guard counters of print
mode (`__cvise_printed_yy`). -/
def printedVarNamePrefix : String := "__cvise_printed_"

/-- Modelled from the spec: `CheckedVarNamePrefix`, the prefix of the guard counters of
reference mode (`__cvise_checked_zzz`). -/
def checkedVarNamePrefix : String := "__cvise_checked_"

/-- `StringRef::startswith`. -/
def startswith (name pre : String) : Bool :=
  pre.data.isPrefixOf name.data

/-- `ExpressionDetector::refToTmpVar`: the declaration's name carries one of the three
reserved prefixes. -/
def refToTmpVar (decl : NamedDecl) : Bool :=
  startswith decl.name tmpVarNamePrefix || startswith decl.name printedVarNamePrefix ||
    startswith decl.name checkedVarNamePrefix

/-! ## Per-statement collectors -/

namespace LocalUOBOVisitor

/-- `LocalUOBOVisitor::VisitUnaryOperator` and `VisitBinaryOperator`: the operand of an
increment, a decrement or `&`, or the left operand of an assignment, stripped. A compound
assignment is a `BinaryOperator` too. -/
def visit : Expr → Option Expr
  | .node _ (.unaryOperator opcode) _ (subExpr :: _) =>
    if !opcode.isIncrementDecrementOp && opcode != .addrOf then none
    else some subExpr.ignoreParenImpCasts
  | .node _ (.binaryOperator opcode) _ (lhs :: _) =>
    if !opcode.isAssignmentOp then none else some lhs.ignoreParenImpCasts
  | _ => none

/-- `UOBOVisitor.TraverseStmt(S)`: the set `InvalidExprs` that `visit` fills over every node
under `S`. -/
def traverseStmt (S : Stmt) : List Expr :=
  S.exprs.filterMap visit

end LocalUOBOVisitor

namespace LocalTmpVarCollector

/-- `LocalTmpVarCollector::VisitDeclRefExpr`: the variable a reference names, when its name
starts with `Prefix`. -/
def visitDeclRefExpr (pre : String) : Expr → Option NamedDecl
  | .node _ (.declRef decl) _ _ =>
    if !decl.isVarDecl then none
    else if startswith decl.name pre then some decl else none
  | _ => none

/-- `TmpCollector.TraverseStmt(S)`: the collected variables, once per reference, in
traversal order. -/
def traverseStmt (pre : String) (S : Stmt) : List NamedDecl :=
  S.exprs.filterMap (visitDeclRefExpr pre)

end LocalTmpVarCollector

/-! ## Capture temporaries of a function -/

/-- `ExpressionDetector::addOneTempVar`: record the stripped initializer of a variable whose
name starts with `TmpVarNamePrefix`. -/
def addOneTempVar (processedExprs : NamedDecl → Option Expr) :
    Option VarDecl → NamedDecl → Option Expr
  | none => processedExprs
  | some VD =>
    if !startswith VD.decl.name tmpVarNamePrefix then processedExprs
    else match VD.init with
      | some E => Function.update processedExprs VD.decl (some E.ignoreParenImpCasts)
      | none => processedExprs

/-- `VarVisitor.TraverseDecl(FD)`: `ExprDetectorTempVarVisitor::VisitDeclStmt` hands every
declaration of every `DeclStmt` in the function to `addOneTempVar`. -/
def ExprDetectorTempVarVisitor.traverseDecl (FD : FunctionDecl)
    (processedExprs : NamedDecl → Option Expr) : NamedDecl → Option Expr :=
  ((FD.body.map Stmt.declStmtDecls).getD []).foldl
    (fun processedExprs decl => addOneTempVar processedExprs decl.asVarDecl) processedExprs

/-- A declaration that is not of `V` leaves what is recorded for `V` as it was. -/
theorem addOneTempVar_of_ne (processedExprs : NamedDecl → Option Expr) {decl : Decl}
    {V : NamedDecl} (other : decl.asNamedDecl ≠ some V) :
    addOneTempVar processedExprs decl.asVarDecl V = processedExprs V := by
  cases decl with
  | var VD =>
    obtain ⟨decl, type, typeExprs, init⟩ := VD
    have differs : V ≠ decl := fun same => other (congrArg some same.symm)
    simp only [Decl.asVarDecl, addOneTempVar]
    split
    · rfl
    · cases init with
      | none => rfl
      | some E => exact Function.update_noteq differs _ _
  | named | staticAssert => rfl

theorem foldl_addOneTempVar_of_ne {V : NamedDecl} :
    ∀ {decls : List Decl}, (∀ decl ∈ decls, decl.asNamedDecl ≠ some V) →
      ∀ processedExprs : NamedDecl → Option Expr,
        decls.foldl (fun processedExprs decl => addOneTempVar processedExprs decl.asVarDecl)
          processedExprs V = processedExprs V
  | [], _, _ => rfl
  | decl :: _, others, processedExprs => by
    rw [List.foldl_cons,
      foldl_addOneTempVar_of_ne (fun other mem => others other (List.mem_cons_of_mem _ mem)),
      addOneTempVar_of_ne _ (others decl (List.mem_cons_self _ _))]

/-- A capture temporary that a function declares with an initializer, and does not declare
again after that, is recorded with its stripped initializer. -/
theorem ExprDetectorTempVarVisitor.traverseDecl_of_last_declaration {FD : FunctionDecl}
    {body : Stmt} (defined : FD.body = some body) {VD : VarDecl} {init : Expr}
    (initialized : VD.init = some init) (reserved : startswith VD.decl.name tmpVarNamePrefix = true)
    {pre post : List Decl} (declared : body.declStmtDecls = pre ++ .var VD :: post)
    (last : ∀ decl ∈ post, decl.asNamedDecl ≠ some VD.decl)
    (processedExprs : NamedDecl → Option Expr) :
    ExprDetectorTempVarVisitor.traverseDecl FD processedExprs VD.decl =
      some init.ignoreParenImpCasts := by
  rw [ExprDetectorTempVarVisitor.traverseDecl, defined, Option.map_some', Option.getD_some,
    declared, List.foldl_append, List.foldl_cons, foldl_addOneTempVar_of_ne last]
  simp [Decl.asVarDecl, addOneTempVar, reserved, initialized]

/-- The collector finds every variable with the prefix that the statement refers to. -/
theorem LocalTmpVarCollector.mem_traverseStmt {pre : String} {S : Stmt} {V : NamedDecl}
    {id : Nat} {type : CType} {children : List Expr}
    (ref : Expr.node id (.declRef V) type children ∈ S.exprs) (isVar : V.isVarDecl = true)
    (named : startswith V.name pre = true) : V ∈ LocalTmpVarCollector.traverseStmt pre S :=
  List.mem_filterMap.mpr
    ⟨_, ref, by simp [LocalTmpVarCollector.visitDeclRefExpr, isVar, named]⟩

/-- `ExpressionDetector::hasIdenticalExpr`: some variable of `TmpVars` has a recorded
initializer identical to `E`. -/
def hasIdenticalExpr (processedExprs : NamedDecl → Option Expr) (tmpVars : List NamedDecl)
    (E : Expr) : Bool :=
  tmpVars.any fun V =>
    match processedExprs V with
    | some init => isIdenticalExpr (some init) (some E)
    | none => false

theorem hasIdenticalExpr_iff {processedExprs : NamedDecl → Option Expr}
    {tmpVars : List NamedDecl} {E : Expr} :
    hasIdenticalExpr processedExprs tmpVars E = true ↔
      ∃ V ∈ tmpVars, ∃ init, processedExprs V = some init ∧ isIdenticalNonNull init E := by
  simp only [hasIdenticalExpr, List.any_eq_true]
  refine exists_congr fun V => and_congr_right fun _ => ?_
  cases processedExprs V <;> simp

/-- An expression identical to a captured one is captured. -/
theorem hasIdenticalExpr_of_isIdenticalExpr {processedExprs : NamedDecl → Option Expr}
    {tmpVars : List NamedDecl} {R E : Expr} (captured : hasIdenticalExpr processedExprs tmpVars R)
    (identical : isIdenticalNonNull R E) : hasIdenticalExpr processedExprs tmpVars E := by
  obtain ⟨V, mem, init, recorded, initR⟩ := hasIdenticalExpr_iff.mp captured
  exact hasIdenticalExpr_iff.mpr
    ⟨V, mem, init, recorded, isIdenticalNonNull_trans _ _ _ initR identical⟩

end ClangDelta
