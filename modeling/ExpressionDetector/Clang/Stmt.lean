import ExpressionDetector.Clang.Expr

/-!
# Statements, declarations and function definitions

A statement is one of the C statement classes, with its address. An expression used as a
statement is the expression node itself (`Stmt.expr`), as in Clang, where `Expr` derives
from `Stmt`; that is what lets the pass ask `dyn_cast<Expr>(S)` and `dyn_cast<CallExpr>(S)`
of the statement it filters against.

`Stmt.exprs` lists the expression nodes `RecursiveASTVisitor::TraverseStmt` reaches under a
statement, in its order: the per-statement collectors of the pass (`LocalUOBOVisitor`,
`LocalTmpVarCollector`) are visitors run over exactly that traversal. Expressions inside a
declarator's type (the bound of a variable-length array, the operand of `typeof`) are kept
with the declaration, since the traversal reaches them too.
-/

set_option autoImplicit false

namespace ClangDelta

/-- A `VarDecl` (or `ParmVarDecl`): the declaration, its declared type, the expressions
inside the declarator's type, and the initializer. -/
structure VarDecl where
  decl : NamedDecl
  type : CType
  typeExprs : List Expr
  init : Option Expr
  deriving DecidableEq

/-- A declaration inside a `DeclStmt`. `_Static_assert` is the one that is not a
`NamedDecl`. -/
inductive Decl
  | var (varDecl : VarDecl)
  | named (decl : NamedDecl)
  | staticAssert (cond : Expr)
  deriving DecidableEq

namespace Decl

/-- `dyn_cast<NamedDecl>`. -/
def asNamedDecl : Decl → Option NamedDecl
  | var varDecl => some varDecl.decl
  | named decl => some decl
  | staticAssert _ => none

/-- `dyn_cast<VarDecl>`. -/
def asVarDecl : Decl → Option VarDecl
  | var varDecl => some varDecl
  | _ => none

/-- The expression nodes the traversal of a declaration reaches: the declarator's type,
then the initializer. -/
def exprs : Decl → List Expr
  | var varDecl =>
    Expr.preorderChildren varDecl.typeExprs ++ (varDecl.init.map Expr.preorder).getD []
  | named _ => []
  | staticAssert cond => cond.preorder

end Decl

/-- A statement node. -/
inductive Stmt where
  | compound (id : Nat) (body : List Stmt)
  | declStmt (id : Nat) (decls : List Decl)
  | ifStmt (id : Nat) (cond : Expr) (thenStmt : Stmt) (elseStmt : Option Stmt)
  | whileStmt (id : Nat) (cond : Expr) (body : Stmt)
  | doStmt (id : Nat) (body : Stmt) (cond : Expr)
  | forStmt (id : Nat) (init : Option Stmt) (cond inc : Option Expr) (body : Stmt)
  | switchStmt (id : Nat) (cond : Expr) (body : Stmt)
  | caseStmt (id : Nat) (lhs : Expr) (subStmt : Stmt)
  | defaultStmt (id : Nat) (subStmt : Stmt)
  | labelStmt (id : Nat) (name : String) (subStmt : Stmt)
  | returnStmt (id : Nat) (retValue : Option Expr)
  /-- A statement with no parts the pass looks at: null, `break`, `continue`, `goto`. -/
  | leaf (id : Nat) (cls : StmtClass)
  | expr (e : Expr)

namespace Stmt

mutual
/-- Equality of statements, node by node. -/
def decideEq (lhs rhs : Stmt) : Decidable (lhs = rhs) := by
  cases lhs <;> cases rhs
  all_goals first | exact isFalse fun h => Stmt.noConfusion h | skip
  case compound.compound id body id' body' =>
    haveI := decideEqList body body'
    exact decidable_of_iff (id = id' ∧ body = body') (by simp)
  case declStmt.declStmt id decls id' decls' =>
    exact decidable_of_iff (id = id' ∧ decls = decls') (by simp)
  case ifStmt.ifStmt id cond thenStmt elseStmt id' cond' thenStmt' elseStmt' =>
    haveI := decideEq thenStmt thenStmt'
    haveI := decideEqOption elseStmt elseStmt'
    exact decidable_of_iff
      (id = id' ∧ cond = cond' ∧ thenStmt = thenStmt' ∧ elseStmt = elseStmt') (by simp)
  case whileStmt.whileStmt id cond body id' cond' body' =>
    haveI := decideEq body body'
    exact decidable_of_iff (id = id' ∧ cond = cond' ∧ body = body') (by simp)
  case doStmt.doStmt id body cond id' body' cond' =>
    haveI := decideEq body body'
    exact decidable_of_iff (id = id' ∧ body = body' ∧ cond = cond') (by simp)
  case forStmt.forStmt id init cond inc body id' init' cond' inc' body' =>
    haveI := decideEqOption init init'
    haveI := decideEq body body'
    exact decidable_of_iff
      (id = id' ∧ init = init' ∧ cond = cond' ∧ inc = inc' ∧ body = body') (by simp)
  case switchStmt.switchStmt id cond body id' cond' body' =>
    haveI := decideEq body body'
    exact decidable_of_iff (id = id' ∧ cond = cond' ∧ body = body') (by simp)
  case caseStmt.caseStmt id lhs subStmt id' lhs' subStmt' =>
    haveI := decideEq subStmt subStmt'
    exact decidable_of_iff (id = id' ∧ lhs = lhs' ∧ subStmt = subStmt') (by simp)
  case defaultStmt.defaultStmt id subStmt id' subStmt' =>
    haveI := decideEq subStmt subStmt'
    exact decidable_of_iff (id = id' ∧ subStmt = subStmt') (by simp)
  case labelStmt.labelStmt id name subStmt id' name' subStmt' =>
    haveI := decideEq subStmt subStmt'
    exact decidable_of_iff (id = id' ∧ name = name' ∧ subStmt = subStmt') (by simp)
  case returnStmt.returnStmt id retValue id' retValue' =>
    exact decidable_of_iff (id = id' ∧ retValue = retValue') (by simp)
  case leaf.leaf id cls id' cls' =>
    exact decidable_of_iff (id = id' ∧ cls = cls') (by simp)
  case expr.expr e e' =>
    exact decidable_of_iff (e = e') (by simp)

/-- Equality of statement lists. -/
def decideEqList : (lhs rhs : List Stmt) → Decidable (lhs = rhs)
  | [], [] => isTrue rfl
  | s :: ss, s' :: ss' =>
    match decideEq s s', decideEqList ss ss' with
    | isTrue h₁, isTrue h₂ => isTrue (h₁ ▸ h₂ ▸ rfl)
    | isFalse h, _ => isFalse fun e => by injection e with e; exact h e
    | _, isFalse h => isFalse fun e => by injection e with _ e; exact h e
  | [], _ :: _ => isFalse fun e => by injection e
  | _ :: _, [] => isFalse fun e => by injection e

/-- Equality of optional statements. -/
def decideEqOption : (lhs rhs : Option Stmt) → Decidable (lhs = rhs)
  | none, none => isTrue rfl
  | some s, some s' =>
    match decideEq s s' with
    | isTrue h => isTrue (h ▸ rfl)
    | isFalse h => isFalse fun e => by injection e with e; exact h e
  | none, some _ => isFalse fun e => by injection e
  | some _, none => isFalse fun e => by injection e
end

instance : DecidableEq Stmt := decideEq

/-- `Stmt::getStmtClass`. -/
def getStmtClass : Stmt → StmtClass
  | compound .. => .compoundStmt
  | declStmt .. => .declStmt
  | ifStmt .. => .ifStmt
  | whileStmt .. => .whileStmt
  | doStmt .. => .doStmt
  | forStmt .. => .forStmt
  | switchStmt .. => .switchStmt
  | caseStmt .. => .caseStmt
  | defaultStmt .. => .defaultStmt
  | labelStmt .. => .labelStmt
  | returnStmt .. => .returnStmt
  | leaf _ cls => cls
  | expr e => e.getStmtClass

mutual
/-- The expression nodes `RecursiveASTVisitor::TraverseStmt` reaches under a statement, in
its order. -/
def exprs : Stmt → List Expr
  | compound _ body => exprsList body
  | declStmt _ decls => decls.flatMap Decl.exprs
  | ifStmt _ cond thenStmt elseStmt => cond.preorder ++ thenStmt.exprs ++ exprsOption elseStmt
  | whileStmt _ cond body => cond.preorder ++ body.exprs
  | doStmt _ body cond => body.exprs ++ cond.preorder
  | forStmt _ init cond inc body =>
    exprsOption init ++ (cond.map Expr.preorder).getD [] ++ (inc.map Expr.preorder).getD [] ++
      body.exprs
  | switchStmt _ cond body => cond.preorder ++ body.exprs
  | caseStmt _ lhs subStmt => lhs.preorder ++ subStmt.exprs
  | defaultStmt _ subStmt => subStmt.exprs
  | labelStmt _ _ subStmt => subStmt.exprs
  | returnStmt _ retValue => (retValue.map Expr.preorder).getD []
  | leaf _ _ => []
  | expr e => e.preorder

/-- The traversal of each statement of a list in turn. -/
def exprsList : List Stmt → List Expr
  | [] => []
  | s :: ss => s.exprs ++ exprsList ss

/-- The traversal of an optional statement. -/
def exprsOption : Option Stmt → List Expr
  | none => []
  | some s => s.exprs
end

mutual
/-- The declarations of every `DeclStmt` under a statement, in traversal order: what a
visitor with only `VisitDeclStmt` sees. -/
def declStmtDecls : Stmt → List Decl
  | compound _ body => declStmtDeclsList body
  | declStmt _ decls => decls
  | ifStmt _ _ thenStmt elseStmt => thenStmt.declStmtDecls ++ declStmtDeclsOption elseStmt
  | whileStmt _ _ body | doStmt _ body _ | switchStmt _ _ body => body.declStmtDecls
  | forStmt _ init _ _ body => declStmtDeclsOption init ++ body.declStmtDecls
  | caseStmt _ _ subStmt | defaultStmt _ subStmt | labelStmt _ _ subStmt =>
    subStmt.declStmtDecls
  | returnStmt _ _ | leaf _ _ | expr _ => []

/-- The `DeclStmt` declarations under each statement of a list in turn. -/
def declStmtDeclsList : List Stmt → List Decl
  | [] => []
  | s :: ss => s.declStmtDecls ++ declStmtDeclsList ss

/-- The `DeclStmt` declarations under an optional statement. -/
def declStmtDeclsOption : Option Stmt → List Decl
  | none => []
  | some s => s.declStmtDecls
end

end Stmt

/-- A `FunctionDecl`: the declaration, where it begins, whether it comes from an included
file, the expressions inside its return type and the parameters' declarators, and its body
when this declaration is a definition. -/
structure FunctionDecl where
  decl : NamedDecl
  loc : Nat
  isInIncludedFile : Bool
  returnTypeExprs : List Expr
  params : List VarDecl
  body : Option Stmt
  deriving DecidableEq

/-- `FunctionDecl::isThisDeclarationADefinition`. -/
def FunctionDecl.isThisDeclarationADefinition (func : FunctionDecl) : Bool :=
  func.body.isSome

end ClangDelta
