import ExpressionDetector.Collection
import Mathlib.Logic.Relation

/-!
# The statement visitor

`ExprDetectorStmtVisitor` is a `CommonStatementVisitor`: a `RecursiveASTVisitor` that keeps
the statement it is in as `CurrentStmt`, the `S` of every `isValidExpr(S, E)`. Each child of
a compound statement becomes `CurrentStmt` in turn; `if`, `for`, `while` and `do` make
themselves `CurrentStmt` for their own clauses, and their branches and bodies become
`CurrentStmt` unless they are compound; every other statement is traversed in
`RecursiveASTVisitor`'s order under the `CurrentStmt` it was reached with.

`VisitFunctionDecl` creates a fresh statement visitor for each function and calls
`TraverseDecl(FD)` on it. That traversal reaches the expressions inside the function's
declarator, the bound of a variable-length array parameter among them, before it enters the
body, while `CurrentStmt` is still null.

The traversal calls `VisitExpr` on the expressions of the declarator and then on those of the
body in `RecursiveASTVisitor`'s pre-order, except that a `do` statement's condition comes
before its body (`traverseDecl_visitOrder`); so it visits each expression once. Inside the body every call names a statement of the body that
contains its expression (`traverseDecl_calls`). The declarator is where this fails: for
`void f(int n, int a[n]) {}` the pass dereferences the null `CurrentStmt`
(`expressionDetector_vla_parameter_dereferences_null`, in the pass module).
-/

set_option autoImplicit false

namespace ClangDelta

/-- The statements directly under a statement. -/
def Stmt.children : Stmt → List Stmt
  | .compound _ body => body
  | .ifStmt _ _ thenStmt elseStmt => thenStmt :: elseStmt.toList
  | .whileStmt _ _ body | .doStmt _ body _ | .switchStmt _ _ body => [body]
  | .forStmt _ init _ _ body => init.toList ++ [body]
  | .caseStmt _ _ subStmt | .defaultStmt _ subStmt | .labelStmt _ _ subStmt => [subStmt]
  | .declStmt .. | .returnStmt .. | .leaf .. | .expr _ => []

/-- `T` is `S` or a statement under it. -/
def Stmt.Within (T S : Stmt) : Prop :=
  Relation.ReflTransGen (fun child parent : Stmt => child ∈ parent.children) T S

namespace CommonStatementVisitor

mutual
/-- Modelled from the spec: `TraverseStmt(S)` while `CurrentStmt` is `current`, as the
`VisitExpr` calls it makes, each with `CurrentStmt`. A compound statement goes to
`VisitCompoundStmt`. `VisitIfStmt`, `VisitForStmt`, `VisitWhileStmt` and `VisitDoStmt` make
the statement `CurrentStmt`, traverse its condition and clauses (a `do` statement's
condition first), and hand each branch or body to `visitNonCompoundStmt`, which makes a
statement that is not compound `CurrentStmt`: since a compound statement ignores
`CurrentStmt`, that is `traverseStmt (some S) S`. Every other statement is traversed in
`RecursiveASTVisitor`'s order under `current`. -/
def traverseStmt (current : Option Stmt) : Stmt → List (Option Stmt × Expr)
  | .compound _ body => visitCompoundStmt body
  | S@(.ifStmt _ cond thenStmt elseStmt) =>
    cond.preorder.map (some S, ·) ++ traverseStmt (some thenStmt) thenStmt ++
      visitNonCompoundStmtOption elseStmt
  | S@(.whileStmt _ cond body) =>
    cond.preorder.map (some S, ·) ++ traverseStmt (some body) body
  | S@(.doStmt _ body cond) =>
    cond.preorder.map (some S, ·) ++ traverseStmt (some body) body
  | S@(.forStmt _ init cond inc body) =>
    traverseStmtOption (some S) init ++ ((cond.map Expr.preorder).getD []).map (some S, ·) ++
      ((inc.map Expr.preorder).getD []).map (some S, ·) ++ traverseStmt (some body) body
  | .declStmt _ decls => (decls.flatMap Decl.exprs).map (current, ·)
  | .switchStmt _ cond body => cond.preorder.map (current, ·) ++ traverseStmt current body
  | .caseStmt _ lhs subStmt => lhs.preorder.map (current, ·) ++ traverseStmt current subStmt
  | .defaultStmt _ subStmt | .labelStmt _ _ subStmt => traverseStmt current subStmt
  | .returnStmt _ retValue => ((retValue.map Expr.preorder).getD []).map (current, ·)
  | .leaf _ _ => []
  | .expr e => e.preorder.map (current, ·)

/-- Modelled from the spec: `VisitCompoundStmt`: each child becomes `CurrentStmt` and is
traversed. -/
def visitCompoundStmt : List Stmt → List (Option Stmt × Expr)
  | [] => []
  | child :: children => traverseStmt (some child) child ++ visitCompoundStmt children

/-- Modelled from the spec: `visitNonCompoundStmt` of an `else` branch that may be absent. -/
def visitNonCompoundStmtOption : Option Stmt → List (Option Stmt × Expr)
  | none => []
  | some S => traverseStmt (some S) S

/-- Modelled from the spec: `TraverseStmt` of the `for` initializer that may be absent. -/
def traverseStmtOption (current : Option Stmt) : Option Stmt → List (Option Stmt × Expr)
  | none => []
  | some S => traverseStmt current S
end

end CommonStatementVisitor

/-- Modelled from the spec: `StmtVisitor.TraverseDecl(FD)` on a fresh visitor, as its
`VisitExpr` calls. The expressions inside the return type and the parameters' declarators
come first, while `CurrentStmt` is null; then the body. -/
def ExprDetectorStmtVisitor.traverseDecl (FD : FunctionDecl) : List (Option Stmt × Expr) :=
  (Expr.preorderChildren FD.returnTypeExprs ++
      FD.params.flatMap fun param => (Decl.var param).exprs).map (none, ·) ++
    (FD.body.map (CommonStatementVisitor.traverseStmt none)).getD []

/-- The `FunctionDecl` as the collection visitor reaches it, with the calls of its statement
visitor. -/
def FunctionVisit.ofFunctionDecl (FD : FunctionDecl) : FunctionVisit :=
  ⟨FD, ExprDetectorStmtVisitor.traverseDecl FD⟩

/-! ## Every call from the body names a statement that contains its expression -/

theorem Stmt.exprs_subset_exprsList {T : Stmt} {E : Expr} :
    ∀ {body : List Stmt}, T ∈ body → E ∈ T.exprs → E ∈ Stmt.exprsList body
  | _ :: _, .head _, mem => by rw [Stmt.exprsList]; exact List.mem_append_left _ mem
  | _ :: _, .tail _ later, mem => by
    rw [Stmt.exprsList]; exact List.mem_append_right _ (exprs_subset_exprsList later mem)

/-- The traversal of a statement reaches every expression the traversal of a statement under
it reaches. -/
theorem Stmt.exprs_subset_of_child {S T : Stmt} (child : T ∈ S.children) {E : Expr}
    (mem : E ∈ T.exprs) : E ∈ S.exprs := by
  cases S with
  | compound id body => exact exprs_subset_exprsList child mem
  | ifStmt id cond thenStmt elseStmt =>
    rcases elseStmt with _ | elseStmt <;>
      simp only [children, Option.toList, List.mem_cons, List.mem_singleton,
        List.not_mem_nil, or_false] at child <;>
      rcases child with rfl | rfl <;> simp [exprs, exprsOption, mem]
  | forStmt id init cond inc body =>
    rcases init with _ | init <;>
      simp only [children, Option.toList, List.nil_append, List.singleton_append,
        List.mem_cons, List.mem_singleton, List.not_mem_nil, or_false] at child <;>
      rcases child with rfl | rfl <;> simp [exprs, exprsOption, mem]
  | whileStmt | doStmt | switchStmt | caseStmt | defaultStmt | labelStmt =>
    obtain rfl := List.mem_singleton.mp child
    simp [exprs, mem]
  | declStmt | returnStmt | leaf | expr => cases child

namespace CommonStatementVisitor

/-- The call names `S` or a statement under it, and that statement contains the call's
expression. -/
def NamesWithin (S : Stmt) (call : Option Stmt × Expr) : Prop :=
  ∃ T, T.Within S ∧ call.1 = some T ∧ call.2 ∈ T.exprs

theorem NamesWithin.self {S : Stmt} {E : Expr} (mem : E ∈ S.exprs) :
    NamesWithin S (some S, E) :=
  ⟨S, .refl, rfl, mem⟩

theorem NamesWithin.of_child {S T : Stmt} {call : Option Stmt × Expr} (child : T ∈ S.children) :
    NamesWithin T call → NamesWithin S call
  | ⟨U, within, named, mem⟩ => ⟨U, within.tail child, named, mem⟩

/-- What a traversal under `current` of a statement `T` under `S` says of `S`. -/
theorem calls_of_child {S T : Stmt} {current : Option Stmt} {call : Option Stmt × Expr}
    (child : T ∈ S.children) :
    (call.1 = current ∧ call.2 ∈ T.exprs) ∨ NamesWithin T call →
      (call.1 = current ∧ call.2 ∈ S.exprs) ∨ NamesWithin S call
  | .inl ⟨named, mem⟩ => .inl ⟨named, Stmt.exprs_subset_of_child child mem⟩
  | .inr named => .inr (named.of_child child)

/-- A call of `visitNonCompoundStmt(T)` names `T` or a statement under it. -/
theorem namesWithin_of_self {T : Stmt} {call : Option Stmt × Expr} :
    (call.1 = some T ∧ call.2 ∈ T.exprs) ∨ NamesWithin T call → NamesWithin T call
  | .inl ⟨named, mem⟩ => ⟨T, .refl, named, mem⟩
  | .inr named => named

theorem mem_map_pair {current : Option Stmt} {exprs : List Expr} {call : Option Stmt × Expr}
    (mem : call ∈ exprs.map (current, ·)) : call.1 = current ∧ call.2 ∈ exprs := by
  obtain ⟨E, memE, rfl⟩ := List.mem_map.mp mem
  exact ⟨rfl, memE⟩

mutual
/-- Every call of a traversal under `current` names `current` with an expression of the
statement, or a statement under it that contains the expression. -/
theorem traverseStmt_calls (current : Option Stmt) :
    ∀ (S : Stmt), ∀ call ∈ traverseStmt current S,
      (call.1 = current ∧ call.2 ∈ S.exprs) ∨ NamesWithin S call
  | .compound _ body, call, mem => by
    obtain ⟨child, childMem, named⟩ := visitCompoundStmt_calls body call mem
    exact .inr (named.of_child childMem)
  | .ifStmt _ cond thenStmt elseStmt, call, mem => by
    simp only [traverseStmt, List.mem_append] at mem
    rcases mem with (mem | mem) | mem
    · obtain ⟨named, memE⟩ := mem_map_pair mem
      exact .inr ⟨_, .refl, named, by simp [Stmt.exprs, memE]⟩
    · exact .inr ((namesWithin_of_self (traverseStmt_calls _ thenStmt call mem)).of_child
        (List.mem_cons_self _ _))
    · obtain ⟨T, memT, named⟩ := visitNonCompoundStmtOption_calls elseStmt call mem
      exact .inr (named.of_child (List.mem_cons_of_mem _ memT))
  | .whileStmt _ cond body, call, mem | .doStmt _ body cond, call, mem => by
    simp only [traverseStmt, List.mem_append] at mem
    rcases mem with mem | mem
    · obtain ⟨named, memE⟩ := mem_map_pair mem
      exact .inr ⟨_, .refl, named, by simp [Stmt.exprs, memE]⟩
    · exact .inr ((namesWithin_of_self (traverseStmt_calls _ body call mem)).of_child
        (List.mem_singleton_self _))
  | .forStmt _ init cond inc body, call, mem => by
    simp only [traverseStmt, List.mem_append] at mem
    rcases mem with ((mem | mem) | mem) | mem
    · obtain ⟨T, memT, calls⟩ := traverseStmtOption_calls _ init call mem
      exact .inr (namesWithin_of_self (calls_of_child (by simp [Stmt.children, memT]) calls))
    all_goals first
      | obtain ⟨named, memE⟩ := mem_map_pair mem
        exact .inr ⟨_, .refl, named, by simp [Stmt.exprs, memE]⟩
      | exact .inr ((namesWithin_of_self (traverseStmt_calls _ body call mem)).of_child
          (by simp [Stmt.children]))
  | .switchStmt _ cond body, call, mem | .caseStmt _ cond body, call, mem => by
    simp only [traverseStmt, List.mem_append] at mem
    rcases mem with mem | mem
    · obtain ⟨named, memE⟩ := mem_map_pair mem
      exact .inl ⟨named, by simp [Stmt.exprs, memE]⟩
    · exact calls_of_child (List.mem_singleton_self _) (traverseStmt_calls current body call mem)
  | .defaultStmt _ subStmt, call, mem | .labelStmt _ _ subStmt, call, mem =>
    calls_of_child (List.mem_singleton_self _) (traverseStmt_calls current subStmt call mem)
  | .declStmt _ _, call, mem | .returnStmt _ _, call, mem | .expr _, call, mem =>
    .inl (mem_map_pair mem)
  | .leaf _ _, _, mem => nomatch mem

/-- Every call of `VisitCompoundStmt` names a statement under one of the children that
contains the expression. -/
theorem visitCompoundStmt_calls :
    ∀ (body : List Stmt), ∀ call ∈ visitCompoundStmt body, ∃ child ∈ body, NamesWithin child call
  | [], _, mem => nomatch mem
  | child :: children, call, mem => by
    rcases List.mem_append.mp mem with mem | mem
    · exact ⟨child, .head _, namesWithin_of_self (traverseStmt_calls _ child call mem)⟩
    · obtain ⟨other, otherMem, named⟩ := visitCompoundStmt_calls children call mem
      exact ⟨other, .tail _ otherMem, named⟩

theorem visitNonCompoundStmtOption_calls :
    ∀ (elseStmt : Option Stmt), ∀ call ∈ visitNonCompoundStmtOption elseStmt,
      ∃ T ∈ elseStmt.toList, NamesWithin T call
  | none, _, mem => nomatch mem
  | some S, call, mem => ⟨S, .head _, namesWithin_of_self (traverseStmt_calls _ S call mem)⟩

theorem traverseStmtOption_calls (current : Option Stmt) :
    ∀ (init : Option Stmt), ∀ call ∈ traverseStmtOption current init,
      ∃ T ∈ init.toList, (call.1 = current ∧ call.2 ∈ T.exprs) ∨ NamesWithin T call
  | none, _, mem => nomatch mem
  | some S, call, mem => ⟨S, .head _, traverseStmt_calls current S call mem⟩
end

end CommonStatementVisitor

/-! ## The order of the calls -/

mutual
/-- The expression nodes under a statement in the order `CommonStatementVisitor` visits them:
`RecursiveASTVisitor`'s pre-order (`Stmt.exprs`), except that `VisitDoStmt` takes a `do`
statement's condition before its body. -/
def Stmt.visitOrder : Stmt → List Expr
  | .compound _ body => Stmt.visitOrderList body
  | .declStmt _ decls => decls.flatMap Decl.exprs
  | .ifStmt _ cond thenStmt elseStmt =>
    cond.preorder ++ thenStmt.visitOrder ++ Stmt.visitOrderOption elseStmt
  | .whileStmt _ cond body => cond.preorder ++ body.visitOrder
  | .doStmt _ body cond => cond.preorder ++ body.visitOrder
  | .forStmt _ init cond inc body =>
    Stmt.visitOrderOption init ++ (cond.map Expr.preorder).getD [] ++
      (inc.map Expr.preorder).getD [] ++ body.visitOrder
  | .switchStmt _ cond body => cond.preorder ++ body.visitOrder
  | .caseStmt _ lhs subStmt => lhs.preorder ++ subStmt.visitOrder
  | .defaultStmt _ subStmt | .labelStmt _ _ subStmt => subStmt.visitOrder
  | .returnStmt _ retValue => (retValue.map Expr.preorder).getD []
  | .leaf _ _ => []
  | .expr e => e.preorder

/-- The visiting order of each statement of a list in turn. -/
def Stmt.visitOrderList : List Stmt → List Expr
  | [] => []
  | s :: ss => s.visitOrder ++ Stmt.visitOrderList ss

/-- The visiting order of an optional statement. -/
def Stmt.visitOrderOption : Option Stmt → List Expr
  | none => []
  | some s => s.visitOrder
end

mutual
/-- The visiting order is `RecursiveASTVisitor`'s up to order. -/
theorem Stmt.visitOrder_perm : ∀ S : Stmt, S.visitOrder.Perm S.exprs
  | .compound _ body => Stmt.visitOrderList_perm body
  | .ifStmt _ _ thenStmt elseStmt =>
    ((Stmt.visitOrder_perm thenStmt).append_left _).append (Stmt.visitOrderOption_perm elseStmt)
  | .whileStmt _ _ body | .switchStmt _ _ body | .caseStmt _ _ body =>
    (Stmt.visitOrder_perm body).append_left _
  | .doStmt _ body _ => ((Stmt.visitOrder_perm body).append_left _).trans List.perm_append_comm
  | .forStmt _ init _ _ body =>
    (((Stmt.visitOrderOption_perm init).append_right _).append_right _).append
      (Stmt.visitOrder_perm body)
  | .defaultStmt _ body | .labelStmt _ _ body => Stmt.visitOrder_perm body
  | .declStmt _ _ | .returnStmt _ _ | .leaf _ _ | .expr _ => List.Perm.refl _

theorem Stmt.visitOrderList_perm :
    ∀ body : List Stmt, (Stmt.visitOrderList body).Perm (Stmt.exprsList body)
  | [] => List.Perm.refl _
  | child :: children => (Stmt.visitOrder_perm child).append (Stmt.visitOrderList_perm children)

theorem Stmt.visitOrderOption_perm :
    ∀ S : Option Stmt, (Stmt.visitOrderOption S).Perm (Stmt.exprsOption S)
  | none => List.Perm.refl _
  | some S => Stmt.visitOrder_perm S
end

/-- No `do` statement is `S` or under it. -/
def Stmt.NoDoWithin (S : Stmt) : Prop :=
  ∀ T : Stmt, T.Within S → T.getStmtClass ≠ .doStmt

theorem Stmt.NoDoWithin.of_child {S T : Stmt} (noDo : S.NoDoWithin) (child : T ∈ S.children) :
    T.NoDoWithin :=
  fun U within => noDo U (within.tail child)

theorem Stmt.NoDoWithin.not_doStmt {S : Stmt} (noDo : S.NoDoWithin) :
    S.getStmtClass ≠ .doStmt :=
  noDo S .refl

mutual
/-- Without a `do` statement the visiting order is `RecursiveASTVisitor`'s. -/
theorem Stmt.visitOrder_eq_exprs : ∀ S : Stmt, S.NoDoWithin → S.visitOrder = S.exprs
  | .compound _ body, noDo =>
    Stmt.visitOrderList_eq_exprsList body fun _ child => noDo.of_child child
  | .doStmt .., noDo => absurd rfl noDo.not_doStmt
  | .ifStmt _ cond thenStmt elseStmt, noDo => by
    rw [Stmt.visitOrder, Stmt.exprs,
      Stmt.visitOrder_eq_exprs thenStmt (noDo.of_child (List.mem_cons_self _ _)),
      Stmt.visitOrderOption_eq_exprsOption elseStmt
        fun _ mem => noDo.of_child (List.mem_cons_of_mem _ mem)]
  | .forStmt _ init cond inc body, noDo => by
    rw [Stmt.visitOrder, Stmt.exprs,
      Stmt.visitOrder_eq_exprs body (noDo.of_child (by simp [Stmt.children])),
      Stmt.visitOrderOption_eq_exprsOption init
        fun _ mem => noDo.of_child (List.mem_append_left _ mem)]
  | .whileStmt _ cond body, noDo | .switchStmt _ cond body, noDo
  | .caseStmt _ cond body, noDo => by
    rw [Stmt.visitOrder, Stmt.exprs,
      Stmt.visitOrder_eq_exprs body (noDo.of_child (List.mem_singleton_self _))]
  | .defaultStmt _ body, noDo | .labelStmt _ _ body, noDo => by
    rw [Stmt.visitOrder, Stmt.exprs,
      Stmt.visitOrder_eq_exprs body (noDo.of_child (List.mem_singleton_self _))]
  | .declStmt _ _, _ | .returnStmt _ _, _ | .leaf _ _, _ | .expr _, _ => rfl

theorem Stmt.visitOrderList_eq_exprsList :
    ∀ body : List Stmt, (∀ child ∈ body, child.NoDoWithin) →
      Stmt.visitOrderList body = Stmt.exprsList body
  | [], _ => rfl
  | child :: children, noDo => by
    rw [Stmt.visitOrderList, Stmt.exprsList,
      Stmt.visitOrder_eq_exprs child (noDo child (List.mem_cons_self _ _)),
      Stmt.visitOrderList_eq_exprsList children
        fun other mem => noDo other (List.mem_cons_of_mem _ mem)]

theorem Stmt.visitOrderOption_eq_exprsOption :
    ∀ S : Option Stmt, (∀ T ∈ S.toList, T.NoDoWithin) →
      Stmt.visitOrderOption S = Stmt.exprsOption S
  | none, _ => rfl
  | some S, noDo => Stmt.visitOrder_eq_exprs S (noDo S (List.mem_singleton_self _))
end

namespace CommonStatementVisitor

@[simp] theorem map_snd_map_pair (current : Option Stmt) (exprs : List Expr) :
    (exprs.map (current, ·)).map Prod.snd = exprs := by
  rw [List.map_map]
  exact List.map_id _

mutual
/-- The traversal of a statement visits the expressions of `Stmt.visitOrder`, in order. -/
theorem traverseStmt_visitOrder (current : Option Stmt) :
    ∀ S : Stmt, (traverseStmt current S).map Prod.snd = S.visitOrder
  | .compound _ body => visitCompoundStmt_visitOrder body
  | .ifStmt _ _ thenStmt elseStmt => by
    simp only [traverseStmt, Stmt.visitOrder, List.map_append, map_snd_map_pair,
      traverseStmt_visitOrder _ thenStmt, visitNonCompoundStmtOption_visitOrder elseStmt]
  | .whileStmt _ _ body | .doStmt _ body _ => by
    simp only [traverseStmt, Stmt.visitOrder, List.map_append, map_snd_map_pair,
      traverseStmt_visitOrder _ body]
  | .forStmt _ init _ _ body => by
    simp only [traverseStmt, Stmt.visitOrder, List.map_append, map_snd_map_pair,
      traverseStmtOption_visitOrder _ init, traverseStmt_visitOrder _ body]
  | .switchStmt _ _ body | .caseStmt _ _ body | .defaultStmt _ body | .labelStmt _ _ body => by
    simp only [traverseStmt, Stmt.visitOrder, List.map_append, map_snd_map_pair,
      traverseStmt_visitOrder current body]
  | .declStmt _ _ | .returnStmt _ _ | .leaf _ _ | .expr _ => by
    simp only [traverseStmt, Stmt.visitOrder, map_snd_map_pair, List.map_nil]

theorem visitCompoundStmt_visitOrder :
    ∀ body : List Stmt, (visitCompoundStmt body).map Prod.snd = Stmt.visitOrderList body
  | [] => rfl
  | child :: children => by
    rw [visitCompoundStmt, Stmt.visitOrderList, List.map_append, traverseStmt_visitOrder,
      visitCompoundStmt_visitOrder children]

theorem visitNonCompoundStmtOption_visitOrder :
    ∀ elseStmt : Option Stmt,
      (visitNonCompoundStmtOption elseStmt).map Prod.snd = Stmt.visitOrderOption elseStmt
  | none => rfl
  | some S => traverseStmt_visitOrder _ S

theorem traverseStmtOption_visitOrder (current : Option Stmt) :
    ∀ init : Option Stmt,
      (traverseStmtOption current init).map Prod.snd = Stmt.visitOrderOption init
  | none => rfl
  | some S => traverseStmt_visitOrder current S
end

/-- The traversal of a statement reaches the expressions of `Stmt.exprs`, each once. -/
theorem traverseStmt_perm (current : Option Stmt) (S : Stmt) :
    ((traverseStmt current S).map Prod.snd).Perm S.exprs :=
  traverseStmt_visitOrder current S ▸ S.visitOrder_perm

end CommonStatementVisitor

open CommonStatementVisitor in
/-- **In `TraverseDecl(FD)` of a definition, a `VisitExpr` call either comes from the
declarator, with a null `CurrentStmt`, or names a statement of the body that contains its
expression.** -/
theorem traverseDecl_calls (FD : FunctionDecl) {id : Nat} {body : List Stmt}
    (defined : FD.body = some (.compound id body)) :
    ∀ call ∈ ExprDetectorStmtVisitor.traverseDecl FD,
      (call.1 = none ∧ call.2 ∈ Expr.preorderChildren FD.returnTypeExprs ++
        FD.params.flatMap fun param => (Decl.var param).exprs) ∨
      NamesWithin (.compound id body) call := by
  intro call mem
  rw [ExprDetectorStmtVisitor.traverseDecl, defined] at mem
  rcases List.mem_append.mp mem with mem | mem
  · exact .inl (mem_map_pair mem)
  · obtain ⟨child, childMem, named⟩ := visitCompoundStmt_calls body call mem
    exact .inr (named.of_child childMem)

/-- The parameter `n` of `void f(int n, int a[n]) {}`. -/
def vlaBound : VarDecl := ⟨⟨1, "n", .parmVar⟩, .builtin .int, [], none⟩

/-- The parameter `a` of `void f(int n, int a[n]) {}`: its declarator holds the bound `n`,
read through an lvalue-to-rvalue conversion. -/
def vlaArray : VarDecl :=
  ⟨⟨2, "a", .parmVar⟩, .pointer (.builtin .int),
    [.node 11 (.implicitCast .lValueToRValue) (.builtin .int)
      [.node 10 (.declRef ⟨1, "n", .parmVar⟩) (.builtin .int) []]], none⟩

/-- `void f(int n, int a[n]) {}`. -/
def vlaFunction : FunctionDecl :=
  ⟨⟨3, "f", .function false⟩, 0, false, [], [vlaBound, vlaArray], some (.compound 4 [])⟩

theorem traverseDecl_calls_vlaFunction :
    vlaFunction.body = some (.compound 4 []) ∧
      ∀ call ∈ ExprDetectorStmtVisitor.traverseDecl vlaFunction,
        (call.1 = none ∧ call.2 ∈ Expr.preorderChildren vlaFunction.returnTypeExprs ++
          vlaFunction.params.flatMap fun param => (Decl.var param).exprs) ∨
        CommonStatementVisitor.NamesWithin (.compound 4 []) call :=
  ⟨rfl, traverseDecl_calls vlaFunction rfl⟩

/-! ## The clauses of a loop are visited under the loop -/

/-- The expressions of a loop's clauses: the initializer, condition and increment of a `for`,
the condition of a `while` or a `do`; none for another statement. -/
def Stmt.loopClauseExprs : Stmt → List Expr
  | .forStmt _ init cond inc _ =>
    Stmt.exprsOption init ++ (cond.map Expr.preorder).getD [] ++ (inc.map Expr.preorder).getD []
  | .whileStmt _ cond _ | .doStmt _ _ cond => cond.preorder
  | _ => []

/-- The initializer of a `for` statement is absent, a declaration or an expression, as C's
grammar has it; another statement has no initializer. -/
def Stmt.hasCForInit : Stmt → Bool
  | .forStmt _ (some (.declStmt ..)) .. | .forStmt _ (some (.expr _)) .. => true
  | .forStmt _ (some _) .. => false
  | _ => true

namespace CommonStatementVisitor

theorem visitCompoundStmt_child {T : Stmt} :
    ∀ {body : List Stmt}, T ∈ body →
      ∀ call ∈ traverseStmt (some T) T, call ∈ visitCompoundStmt body
  | _ :: _, .head _, _, mem => List.mem_append_left _ mem
  | _ :: _, .tail _ later, call, mem =>
    List.mem_append_right _ (visitCompoundStmt_child later call mem)

/-- The traversal of a statement makes every call of the traversal of a statement under it,
under the `CurrentStmt` it gives that statement. -/
theorem traverseStmt_child {S T : Stmt} (child : T ∈ S.children) (current : Option Stmt) :
    ∃ current', ∀ call ∈ traverseStmt current' T, call ∈ traverseStmt current S := by
  cases S with
  | compound _ body => exact ⟨some T, visitCompoundStmt_child child⟩
  | ifStmt _ _ thenStmt elseStmt =>
    refine ⟨some T, fun call mem => ?_⟩
    rcases elseStmt with _ | elseStmt <;>
      simp only [Stmt.children, Option.toList, List.mem_cons, List.mem_singleton,
        List.not_mem_nil, or_false] at child <;>
      rcases child with rfl | rfl <;>
      simp [traverseStmt, visitNonCompoundStmtOption, mem]
  | forStmt id init cond inc body =>
    rcases init with _ | init <;>
      simp only [Stmt.children, Option.toList, List.nil_append, List.singleton_append,
        List.mem_cons, List.mem_singleton, List.not_mem_nil, or_false] at child
    · obtain rfl := child
      exact ⟨some T, fun call mem => by simp [traverseStmt, mem]⟩
    rcases child with rfl | rfl
    · exact ⟨some (.forStmt id (some T) cond inc body),
        fun call mem => by simp [traverseStmt, traverseStmtOption, mem]⟩
    · exact ⟨some T, fun call mem => by simp [traverseStmt, mem]⟩
  | whileStmt | doStmt =>
    obtain rfl := List.mem_singleton.mp child
    exact ⟨some T, fun call mem => by simp [traverseStmt, mem]⟩
  | switchStmt | caseStmt | defaultStmt | labelStmt =>
    obtain rfl := List.mem_singleton.mp child
    exact ⟨current, fun call mem => by simp [traverseStmt, mem]⟩
  | declStmt | returnStmt | leaf | expr => cases child

/-- A call that the traversal of `L` makes under every `CurrentStmt` is made by the traversal
of every statement `L` is under. -/
theorem traverseStmt_within {L S : Stmt} (within : L.Within S) {call : Option Stmt × Expr}
    (everywhere : ∀ current, call ∈ traverseStmt current L) :
    ∀ current, call ∈ traverseStmt current S := by
  induction within with
  | refl => exact everywhere
  | tail _ child reaches =>
    intro current
    obtain ⟨current', made⟩ := traverseStmt_child child current
    exact made _ (reaches current')

/-- A `for` initializer of C is traversed under the `for` as its expressions. -/
theorem traverseStmtOption_cForInit {id : Nat} {init : Option Stmt} {cond inc : Option Expr}
    {body : Stmt} (cInit : (Stmt.forStmt id init cond inc body).hasCForInit = true)
    (current : Option Stmt) :
    traverseStmtOption current init = (Stmt.exprsOption init).map (current, ·) := by
  rcases init with _ | init
  · rfl
  · cases init <;> first | rfl | cases cInit

/-- The traversal of a loop visits the expressions of its clauses with the loop as
`CurrentStmt`. -/
theorem traverseStmt_loopClause {L : Stmt} (cInit : L.hasCForInit = true) {E : Expr}
    (clause : E ∈ L.loopClauseExprs) (current : Option Stmt) :
    (some L, E) ∈ traverseStmt current L := by
  cases L with
  | forStmt id init cond inc body =>
    rw [traverseStmt, traverseStmtOption_cForInit cInit, ← List.map_append, ← List.map_append]
    exact List.mem_append_left _ (List.mem_map_of_mem _ clause)
  | whileStmt | doStmt =>
    rw [traverseStmt]
    exact List.mem_append_left _ (List.mem_map_of_mem _ clause)
  | _ => simp [Stmt.loopClauseExprs] at clause

end CommonStatementVisitor

end ClangDelta
