import ExpressionDetector.Collectors

/-!
# The validity filter

`ExpressionDetector::isValidExpr(S, E)` decides whether the expression `E`, found under the
statement `S`, is a candidate. Reading only `S` and `E`, it first rejects a loop statement,
`E` being `S` itself, a declaration of a reserved name or of several names, the negation of a
guard counter, the guard `__cvise_expr_tmp_N != literal` of an `if`, a reference to a reserved
name, and any reference under a call of `printf` (`rejectsLocally`). It then consults the
tables of the pass: `E` must not be written or have its address taken in `S`
(`InvalidExprsInUOBO`), must not be identical to an expression that passed this check before
in `S` (`UniqueExprs`), and must not be identical to the initializer of a capture temporary
that `S` names (`TmpVarsInStmt`, `ProcessedExprs`). The first and the last table are
memoised per statement for the whole run.

The memo tables are sound (`Caches.Sound`): every entry is what the collector computes from
its statement, since the statement is the key and nothing else is stored. On sound tables the
hit and the miss path of a lookup give the same answer (`Caches.lookupInvalidExprs_eq`,
`Caches.lookupTmpVars_eq`), and `isValidExpr_eq` says in one place everything a call can do.

An accepted `E` is never the stripped operand of `++`, `--` or `&` in `S`, nor the stripped
left operand of an assignment in `S` (`isValidExpr_not_written`), whichever path the lookup
takes. That is less than "not an object `S` modifies": the collector stops at the operand of
the assignment, so in `__real__ z = 1.0` the variable `z` is accepted although the statement
writes it (`isValidExpr_accepts_real_operand`).
-/

set_option autoImplicit false

namespace ClangDelta

/-! ## The checks that read only the statement and the expression -/

/-- `dyn_cast<Expr>(S)`, then `SE->IgnoreParenCasts() == E`: the candidate is the statement
itself. -/
def isSelfReplacement (S : Stmt) (E : Expr) : Bool :=
  match S with
  | .expr SE => SE.ignoreParenCasts == E
  | _ => false

/-- The `DeclStmt` check: a single declaration that is not a `NamedDecl` or carries a
reserved name, or a group of declarations. -/
def rejectsDeclStmt : Stmt → Bool
  | .declStmt _ [decl] =>
    match decl.asNamedDecl with
    | none => true
    | some ND => refToTmpVar ND
  | .declStmt _ _ => true
  | _ => false

/-- `!__cvise_printed_N` and `!__cvise_checked_N`: a logical not of a reference to a guard
counter. -/
def isNegatedGuard : Expr → Bool
  | .node _ (.unaryOperator .lNot) _ (subExpr :: _) =>
    match subExpr.ignoreParenCasts with
    | .node _ (.declRef decl) _ _ =>
      startswith decl.name printedVarNamePrefix || startswith decl.name checkedVarNamePrefix
    | _ => false
  | _ => false

/-- `if (__cvise_expr_tmp_N != literal)`: a comparison of a capture temporary with an integer
or floating literal, under an `if`. -/
def isTmpVarGuard (S : Stmt) : Expr → Bool
  | .node _ (.binaryOperator .ne) _ (lhs :: rhs :: _) =>
    let Rhs := rhs.ignoreParenCasts
    let IsLit := Rhs.getStmtClass == .integerLiteral || Rhs.getStmtClass == .floatingLiteral
    match lhs.ignoreParenCasts with
    | .node _ (.declRef decl) _ _ =>
      IsLit && startswith decl.name tmpVarNamePrefix && S.getStmtClass == .ifStmt
    | _ => false
  | _ => false

/-- The `DeclRefExpr` check: a reference to a reserved name, or any reference under a
statement that is a direct call of `printf`. -/
def isTmpVarOrPrintfArg (S : Stmt) : Expr → Bool
  | .node _ (.declRef decl) _ _ =>
    refToTmpVar decl ||
      match S with
      | .expr CE => (CE.getDirectCallee.map fun FD => FD.name == "printf").getD false
      | _ => false
  | _ => false

/-- The checks of `isValidExpr` before its first table: loops, self-replacement,
declarations, the guards of the pass, its temporaries and `printf` arguments. -/
def rejectsLocally (S : Stmt) (E : Expr) : Bool :=
  S.getStmtClass == .forStmt || S.getStmtClass == .doStmt || S.getStmtClass == .whileStmt ||
    isSelfReplacement S E || rejectsDeclStmt S || isNegatedGuard E || isTmpVarGuard S E ||
    isTmpVarOrPrintfArg S E

/-! ## The tables -/

/-- The tables `isValidExpr` keeps between calls. `InvalidExprsInUOBO` and `TmpVarsInStmt`
memoise the two collectors per statement for the whole run; `UniqueExprs` holds, per
statement, the expressions that passed the dedup check in the current function;
`ProcessedExprs` the capture temporaries of the current function. -/
structure Caches where
  invalidExprsInUOBO : Stmt → Option (List Expr)
  uniqueExprs : Stmt → List Expr
  tmpVarsInStmt : Stmt → Option (List NamedDecl)
  processedExprs : NamedDecl → Option Expr

namespace Caches

/-- The tables when the pass starts: all empty. -/
def empty : Caches := ⟨fun _ => none, fun _ => [], fun _ => none, fun _ => none⟩

/-- `InvalidExprsInUOBO[S] = InvalidExprs`, with the collector's result for `S`. -/
def storeInvalidExprs (caches : Caches) (S : Stmt) : Caches :=
  { caches with
    invalidExprsInUOBO :=
      Function.update caches.invalidExprsInUOBO S (some (LocalUOBOVisitor.traverseStmt S)) }

/-- `TmpVarsInStmt[S] = TmpVars`, with the collector's result for `S`. -/
def storeTmpVars (caches : Caches) (S : Stmt) : Caches :=
  { caches with
    tmpVarsInStmt := Function.update caches.tmpVarsInStmt S
      (some (LocalTmpVarCollector.traverseStmt tmpVarNamePrefix S)) }

/-- The `InvalidExprsInUOBO` lookup: a hit returns the stored set; a miss runs
`LocalUOBOVisitor` over `S` and stores the result. -/
def lookupInvalidExprs (caches : Caches) (S : Stmt) : List Expr × Caches :=
  match caches.invalidExprsInUOBO S with
  | some invalidExprs => (invalidExprs, caches)
  | none => (LocalUOBOVisitor.traverseStmt S, caches.storeInvalidExprs S)

/-- The `TmpVarsInStmt` lookup: a hit returns the stored list; a miss runs
`LocalTmpVarCollector` over `S` and stores the result. -/
def lookupTmpVars (caches : Caches) (S : Stmt) : List NamedDecl × Caches :=
  match caches.tmpVarsInStmt S with
  | some tmpVars => (tmpVars, caches)
  | none => (LocalTmpVarCollector.traverseStmt tmpVarNamePrefix S, caches.storeTmpVars S)

/-- `UniqueExprs[S].push_back(E)`. -/
def pushUniqueExpr (caches : Caches) (S : Stmt) (E : Expr) : Caches :=
  { caches with uniqueExprs := Function.update caches.uniqueExprs S (caches.uniqueExprs S ++ [E]) }

end Caches

/-- `ExpressionDetector::isValidExpr(S, E)`: whether `E` is a candidate under `S`, with the
tables after the call. The expression is appended to `UniqueExprs[S]` before the capture
check, which can still reject it. -/
def isValidExpr (S : Stmt) (E : Expr) (caches : Caches) : Bool × Caches :=
  if rejectsLocally S E then (false, caches)
  else
    let (invalidExprs, caches) := caches.lookupInvalidExprs S
    if invalidExprs.contains E then (false, caches)
    else if (caches.uniqueExprs S).any fun I => isIdenticalExpr (some I) (some E) then
      (false, caches)
    else
      let caches := caches.pushUniqueExpr S E
      let (tmpVars, caches) := caches.lookupTmpVars S
      (!hasIdenticalExpr caches.processedExprs tmpVars E, caches)

/-! ## Soundness of the memo tables -/

/-- Every stored collector result is what the collector computes from its statement. -/
structure Caches.Sound (caches : Caches) : Prop where
  invalidExprs : ∀ S invalidExprs, caches.invalidExprsInUOBO S = some invalidExprs →
    invalidExprs = LocalUOBOVisitor.traverseStmt S
  tmpVars : ∀ S tmpVars, caches.tmpVarsInStmt S = some tmpVars →
    tmpVars = LocalTmpVarCollector.traverseStmt tmpVarNamePrefix S

namespace Caches

variable {caches : Caches}

theorem empty_sound : empty.Sound :=
  ⟨fun _ _ stored => Option.noConfusion stored, fun _ _ stored => Option.noConfusion stored⟩

theorem Sound.storeInvalidExprs (sound : caches.Sound) (S : Stmt) :
    (caches.storeInvalidExprs S).Sound := by
  refine ⟨fun S' invalidExprs stored => ?_, sound.tmpVars⟩
  by_cases same : S' = S
  · subst same
    simp only [Caches.storeInvalidExprs, Function.update_same, Option.some.injEq] at stored
    exact stored.symm
  · simp only [Caches.storeInvalidExprs, Function.update_noteq same] at stored
    exact sound.invalidExprs S' invalidExprs stored

theorem Sound.storeTmpVars (sound : caches.Sound) (S : Stmt) : (caches.storeTmpVars S).Sound := by
  refine ⟨sound.invalidExprs, fun S' tmpVars stored => ?_⟩
  by_cases same : S' = S
  · subst same
    simp only [Caches.storeTmpVars, Function.update_same, Option.some.injEq] at stored
    exact stored.symm
  · simp only [Caches.storeTmpVars, Function.update_noteq same] at stored
    exact sound.tmpVars S' tmpVars stored

theorem Sound.pushUniqueExpr (sound : caches.Sound) (S : Stmt) (E : Expr) :
    (caches.pushUniqueExpr S E).Sound :=
  ⟨sound.invalidExprs, sound.tmpVars⟩

/-- On sound tables the hit and the miss path of the lookup agree: the collector's result,
and the table with it stored. -/
theorem lookupInvalidExprs_eq (sound : caches.Sound) (S : Stmt) :
    caches.lookupInvalidExprs S =
      (LocalUOBOVisitor.traverseStmt S, caches.storeInvalidExprs S) := by
  unfold lookupInvalidExprs
  split
  · next invalidExprs stored =>
    have := sound.invalidExprs S invalidExprs stored
    subst this
    rw [storeInvalidExprs, ← stored, Function.update_eq_self]
  · rfl

theorem lookupTmpVars_eq (sound : caches.Sound) (S : Stmt) :
    caches.lookupTmpVars S =
      (LocalTmpVarCollector.traverseStmt tmpVarNamePrefix S, caches.storeTmpVars S) := by
  unfold lookupTmpVars
  split
  · next tmpVars stored =>
    have := sound.tmpVars S tmpVars stored
    subst this
    rw [storeTmpVars, ← stored, Function.update_eq_self]
  · rfl

@[simp] theorem lookupInvalidExprs_uniqueExprs (S : Stmt) :
    (caches.lookupInvalidExprs S).2.uniqueExprs = caches.uniqueExprs := by
  unfold lookupInvalidExprs; split <;> rfl

@[simp] theorem lookupTmpVars_uniqueExprs (S : Stmt) :
    (caches.lookupTmpVars S).2.uniqueExprs = caches.uniqueExprs := by
  unfold lookupTmpVars; split <;> rfl

end Caches

/-! ## What a call can do -/

section Call

variable {S : Stmt} {E : Expr} {caches : Caches}

/-- **On sound tables, everything a call of `isValidExpr` can do**: reject on a local check
with the tables unchanged; reject a collected write or a duplicate, with the write set
stored; or append `E` to `UniqueExprs[S]`, store both collector results, and accept unless
`E` is captured. -/
theorem isValidExpr_eq (sound : caches.Sound) : isValidExpr S E caches =
    if rejectsLocally S E then (false, caches)
    else if (LocalUOBOVisitor.traverseStmt S).contains E then
      (false, caches.storeInvalidExprs S)
    else if (caches.uniqueExprs S).any fun I => isIdenticalExpr (some I) (some E) then
      (false, caches.storeInvalidExprs S)
    else
      (!hasIdenticalExpr caches.processedExprs
          (LocalTmpVarCollector.traverseStmt tmpVarNamePrefix S) E,
        ((caches.storeInvalidExprs S).pushUniqueExpr S E).storeTmpVars S) := by
  unfold isValidExpr
  rw [caches.lookupInvalidExprs_eq sound]
  dsimp only
  rw [Caches.lookupTmpVars_eq ((sound.storeInvalidExprs S).pushUniqueExpr S E)]
  rfl

/-- `isValidExpr` with its two lookups named: this holds whatever the tables. -/
theorem isValidExpr_eq_lookups : isValidExpr S E caches =
    if rejectsLocally S E then (false, caches)
    else if (caches.lookupInvalidExprs S).1.contains E then (false, (caches.lookupInvalidExprs S).2)
    else if ((caches.lookupInvalidExprs S).2.uniqueExprs S).any
        (fun I => isIdenticalExpr (some I) (some E)) then
      (false, (caches.lookupInvalidExprs S).2)
    else
      let caches := (caches.lookupInvalidExprs S).2.pushUniqueExpr S E
      (!hasIdenticalExpr (caches.lookupTmpVars S).2.processedExprs (caches.lookupTmpVars S).1 E,
        (caches.lookupTmpVars S).2) :=
  rfl

/-- Whatever the tables, an accepting call has checked `E` against every expression of
`UniqueExprs[S]` and appended it there. -/
theorem isValidExpr_uniqueExprs_of_accepted (accepted : (isValidExpr S E caches).1 = true) :
    (∀ I ∈ caches.uniqueExprs S, isIdenticalNonNull I E = false) ∧
      (isValidExpr S E caches).2.uniqueExprs =
        Function.update caches.uniqueExprs S (caches.uniqueExprs S ++ [E]) := by
  rw [isValidExpr_eq_lookups] at accepted ⊢
  split_ifs at accepted ⊢ with rejected collected duplicate
  simp only [Caches.lookupInvalidExprs_uniqueExprs, Bool.not_eq_true, List.any_eq_false,
    isIdenticalExpr_some] at duplicate
  exact ⟨duplicate, by simp [Caches.pushUniqueExpr]⟩

/-- Whatever the tables, a call only appends to `UniqueExprs`. -/
theorem isValidExpr_uniqueExprs_mono {S' : Stmt} {R : Expr} (mem : R ∈ caches.uniqueExprs S') :
    R ∈ (isValidExpr S E caches).2.uniqueExprs S' := by
  rw [isValidExpr_eq_lookups]
  split_ifs
  · exact mem
  · simpa using mem
  · simpa using mem
  · by_cases same : S' = S
    · subst same
      simp [Caches.pushUniqueExpr, mem]
    · simpa [Caches.pushUniqueExpr, Function.update_noteq same] using mem

theorem isValidExpr_sound (sound : caches.Sound) : (isValidExpr S E caches).2.Sound := by
  rw [isValidExpr_eq sound]
  split_ifs
  · exact sound
  · exact sound.storeInvalidExprs S
  · exact sound.storeInvalidExprs S
  · exact ((sound.storeInvalidExprs S).pushUniqueExpr S E).storeTmpVars S

theorem isValidExpr_processedExprs (sound : caches.Sound) :
    (isValidExpr S E caches).2.processedExprs = caches.processedExprs := by
  rw [isValidExpr_eq sound]
  split_ifs <;> rfl

/-- The decision, on sound tables. -/
theorem isValidExpr_fst (sound : caches.Sound) : (isValidExpr S E caches).1 =
    (!rejectsLocally S E && !(LocalUOBOVisitor.traverseStmt S).contains E &&
      !(caches.uniqueExprs S).any (fun I => isIdenticalExpr (some I) (some E)) &&
      !hasIdenticalExpr caches.processedExprs
        (LocalTmpVarCollector.traverseStmt tmpVarNamePrefix S) E) := by
  rw [isValidExpr_eq sound]
  split_ifs <;> simp_all only [Bool.not_eq_true, Bool.not_true, Bool.not_false, Bool.false_and,
    Bool.and_false, Bool.true_and]

/-- `UniqueExprs` after the call, on sound tables: `E` is appended to `UniqueExprs[S]` when
it passes every check before the capture check. -/
theorem isValidExpr_uniqueExprs (sound : caches.Sound) :
    (isValidExpr S E caches).2.uniqueExprs =
      if !rejectsLocally S E && !(LocalUOBOVisitor.traverseStmt S).contains E &&
          !(caches.uniqueExprs S).any (fun I => isIdenticalExpr (some I) (some E)) then
        Function.update caches.uniqueExprs S (caches.uniqueExprs S ++ [E])
      else caches.uniqueExprs := by
  rw [isValidExpr_eq sound]
  split_ifs <;> simp_all only [Bool.not_eq_true, Bool.not_true, Bool.not_false, Bool.false_and,
    Bool.and_false, Bool.true_and, Bool.false_eq_true, if_true, if_false, not_true_eq_false]
  all_goals rfl

end Call

/-! ## Writes -/

theorem LocalUOBOVisitor.visit_unaryOperator {id : Nat} {type : CType}
    {opcode : UnaryOperatorKind} {subExpr : Expr} {rest : List Expr}
    (writes : opcode.isIncrementDecrementOp = true ∨ opcode = .addrOf) :
    visit (.node id (.unaryOperator opcode) type (subExpr :: rest)) =
      some subExpr.ignoreParenImpCasts := by
  rcases writes with incDec | rfl
  · simp [visit, incDec]
  · simp [visit]

theorem LocalUOBOVisitor.visit_binaryOperator {id : Nat} {type : CType}
    {opcode : BinaryOperatorKind} {lhs : Expr} {rest : List Expr}
    (assigns : opcode.isAssignmentOp = true) :
    visit (.node id (.binaryOperator opcode) type (lhs :: rest)) = some lhs.ignoreParenImpCasts := by
  simp [visit, assigns]

/-- **An accepted expression is not written directly by its statement**: on sound tables,
whichever path the lookup takes, it is neither the stripped operand of `++`, `--` or `&` in
`S` nor the stripped left operand of an assignment in `S`. -/
theorem isValidExpr_not_written {S : Stmt} {E : Expr} {caches : Caches} (sound : caches.Sound)
    (accepted : (isValidExpr S E caches).1 = true) :
    (∀ id type opcode subExpr rest,
      Expr.node id (.unaryOperator opcode) type (subExpr :: rest) ∈ S.exprs →
      opcode.isIncrementDecrementOp = true ∨ opcode = .addrOf → subExpr.ignoreParenImpCasts ≠ E) ∧
    (∀ id type opcode lhs rest,
      Expr.node id (.binaryOperator opcode) type (lhs :: rest) ∈ S.exprs →
      opcode.isAssignmentOp = true → lhs.ignoreParenImpCasts ≠ E) := by
  have notCollected : E ∉ LocalUOBOVisitor.traverseStmt S := by
    rw [isValidExpr_fst sound] at accepted
    simp at accepted
    exact accepted.1.1.2
  refine ⟨fun _ _ _ _ _ mem writes same => notCollected ?_,
    fun _ _ _ _ _ mem assigns same => notCollected ?_⟩
  · exact List.mem_filterMap.mpr ⟨_, mem, same ▸ LocalUOBOVisitor.visit_unaryOperator writes⟩
  · exact List.mem_filterMap.mpr ⟨_, mem, same ▸ LocalUOBOVisitor.visit_binaryOperator assigns⟩

/-- `x`, an `int` variable. -/
def xRef : Expr := .node 31 (.declRef ⟨1, "x", .var⟩) (.builtin .int) []

/-- `y = x + 1;`. -/
def assignXPlusOne : Stmt :=
  .expr (.node 34 (.binaryOperator .assign) (.builtin .int)
    [.node 32 (.declRef ⟨2, "y", .var⟩) (.builtin .int) [],
     .node 33 (.binaryOperator .add) (.builtin .int)
       [.node 35 (.implicitCast .lValueToRValue) (.builtin .int) [xRef],
        .node 36 (.integerLiteral ⟨32, 1#32⟩) (.builtin .int) []]])

theorem isValidExpr_not_written_assignXPlusOne :
    Caches.empty.Sound ∧ (isValidExpr assignXPlusOne xRef Caches.empty).1 = true ∧
      ((∀ id type opcode subExpr rest,
        Expr.node id (.unaryOperator opcode) type (subExpr :: rest) ∈ assignXPlusOne.exprs →
        opcode.isIncrementDecrementOp = true ∨ opcode = .addrOf →
          subExpr.ignoreParenImpCasts ≠ xRef) ∧
      (∀ id type opcode lhs rest,
        Expr.node id (.binaryOperator opcode) type (lhs :: rest) ∈ assignXPlusOne.exprs →
        opcode.isAssignmentOp = true → lhs.ignoreParenImpCasts ≠ xRef)) :=
  have accepted : (isValidExpr assignXPlusOne xRef Caches.empty).1 = true := by decide
  ⟨Caches.empty_sound, accepted, isValidExpr_not_written Caches.empty_sound accepted⟩

/-- What a statement modifies or takes the address of: the stripped operand of `++`, `--`
or `&` anywhere in it, the stripped left operand of an assignment, and the stripped operand
of a `__real__` or `__imag__` that is itself one of them. -/
inductive ModifiedIn (S : Stmt) : Expr → Prop
  | incDecAddrOf {id : Nat} {type : CType} {opcode : UnaryOperatorKind} {subExpr : Expr}
      {rest : List Expr} :
      Expr.node id (.unaryOperator opcode) type (subExpr :: rest) ∈ S.exprs →
      opcode.isIncrementDecrementOp = true ∨ opcode = .addrOf →
        ModifiedIn S subExpr.ignoreParenImpCasts
  | assignmentLhs {id : Nat} {type : CType} {opcode : BinaryOperatorKind} {lhs : Expr}
      {rest : List Expr} :
      Expr.node id (.binaryOperator opcode) type (lhs :: rest) ∈ S.exprs →
      opcode.isAssignmentOp = true → ModifiedIn S lhs.ignoreParenImpCasts
  | realImag {id : Nat} {type : CType} {opcode : UnaryOperatorKind} {subExpr : Expr}
      {rest : List Expr} :
      ModifiedIn S (.node id (.unaryOperator opcode) type (subExpr :: rest)) →
      opcode = .real ∨ opcode = .imag → ModifiedIn S subExpr.ignoreParenImpCasts

/-- `z`, a `_Complex double` variable. -/
def zRef : Expr := .node 41 (.declRef ⟨5, "z", .var⟩) (.complex (.builtin .double)) []

/-- `__real__ z`. -/
def realZ : Expr := .node 42 (.unaryOperator .real) (.builtin .double) [zRef]

/-- The literal `1.0`. -/
def doubleOne : Expr :=
  .node 43 (.floatingLiteral ⟨.ieeeDouble, .normal, false, 0, 4503599627370496⟩)
    (.builtin .double) []

/-- `__real__ z = 1.0;`. -/
def realAssign : Stmt :=
  .expr (.node 44 (.binaryOperator .assign) (.builtin .double) [realZ, doubleOne])

/-- In `__real__ z = 1.0` the statement writes `z`, which the type filter admits as floating
and `isValidExpr` accepts: the collector records `__real__ z`, not `z`. -/
theorem isValidExpr_accepts_real_operand :
    zRef.type.isFloatingType = true ∧ (isValidExpr realAssign zRef Caches.empty).1 = true ∧
      ModifiedIn realAssign zRef :=
  have written : ModifiedIn realAssign realZ :=
    @ModifiedIn.assignmentLhs realAssign 44 (.builtin .double) .assign realZ [doubleOne]
      (by decide) rfl
  ⟨rfl, by decide,
    @ModifiedIn.realImag realAssign 42 (.builtin .double) .real zRef [] written (.inl rfl)⟩

end ClangDelta
