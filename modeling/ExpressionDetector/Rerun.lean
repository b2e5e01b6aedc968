import ExpressionDetector.Candidates

/-!
# Running the pass on its own output

`doRewrite` inserts text before the latched statement: the capture declaration
`T __cvise_expr_tmp_N = E;`, the guard counter `static int C = 0;`, the guarded report
`if (C == __CVISE_INSTANCE_NUMBER) { ... }` and the increment `++C;`. The driver runs the pass
again on the rewritten program, and `isValidExpr` has rules meant to keep it off what the
first run inserted: declarations and references of the reserved names, the negated guard
`!__cvise_printed_N`, and the reference comparison `__cvise_expr_tmp_N != literal`.

Those rules reject every other node of the inserted statements, in both modes and whatever
the captured expression, and leave the filter's tables as they were
(`insertedStmts_rejected`). The guard the emitter writes today is a comparison with
`__CVISE_INSTANCE_NUMBER`, which no rule matches: it is an `int`-typed binary operator, so
the second run counts it as a candidate (`rerun_accepts_instance_guard`).

What the first run captured is not captured again. The capture check of `isValidExpr`
compares each expression of a statement that names a capture temporary with the
temporary's initializer, and every candidate passes it: in any function that declares a
temporary, no candidate of a statement naming it is identical to its initializer
(`select_unit_not_recaptured`). The rewritten statement names the temporary in place of the
captured expression, so the other copies of that expression in it stay out.

The inserted text is modelled by its parse (`insertedStmts`, `printReport`, `checkReport`):
the rewriter that places it before the statement is not among the sources, so the rewritten
function is the original body with the parsed statements before the latched one.
-/

set_option autoImplicit false

namespace ClangDelta

/-! ## The parse of the inserted text -/

/-- The bytes of an ASCII text, as a string literal holds them. -/
def asciiBytes (text : String) : List UInt8 :=
  text.data.map fun c => c.toNat.toUInt8

/-- The rvalue of a variable of type `type`: its reference under an lvalue-to-rvalue
conversion, at addresses `fresh` and `fresh + 1`. -/
def rvalueOf (decl : NamedDecl) (type : CType) (fresh : Nat) : Expr :=
  .node fresh (.implicitCast .lValueToRValue) type [.node (fresh + 1) (.declRef decl) type []]

/-- The temporary's value at addresses from `fresh + 5`, under the conversion `cast` the report
applies to it, if any. -/
def tmpValue (tmpVar : NamedDecl) (type : CType) (cast : Option (CastKind × CType))
    (fresh : Nat) : Expr :=
  match cast with
  | none => rvalueOf tmpVar type (fresh + 5)
  | some (castKind, converted) =>
    .node (fresh + 7) (.implicitCast castKind) converted [rvalueOf tmpVar type (fresh + 5)]

/-- The comparison of the guard, `C == __CVISE_INSTANCE_NUMBER`, at addresses from `fresh`. -/
def instanceGuardOf (controlVar : NamedDecl) (instanceNumber : Expr) (fresh : Nat) : Expr :=
  .node fresh (.binaryOperator .eq) (.builtin .int)
    [rvalueOf controlVar (.builtin .int) (fresh + 1), instanceNumber]

/-- Modelled from the spec: the parse of the statements `doRewrite` inserts, `T tmp = E;`,
`static int C = 0;`, `if (C == __CVISE_INSTANCE_NUMBER) { report }` and `++C;`. `init` is the
parse of the expression's text, `instanceNumber` the integer constant
`__CVISE_INSTANCE_NUMBER` expands to, and the node addresses count up from `fresh`. -/
def insertedStmts (type : CType) (tmpVar controlVar : NamedDecl) (init instanceNumber : Expr)
    (report : Stmt) (fresh : Nat) : List Stmt :=
  [.declStmt fresh [.var ⟨tmpVar, type, [], some init⟩],
    .declStmt (fresh + 1)
      [.var ⟨controlVar, .builtin .int, [], some (.node (fresh + 2)
        (.integerLiteral ⟨32, 0#32⟩) (.builtin .int) [])⟩],
    .ifStmt (fresh + 3) (instanceGuardOf controlVar instanceNumber (fresh + 4))
      (.compound (fresh + 7) [report]) none,
    .expr (.node (fresh + 8) (.unaryOperator .preInc) (.builtin .int)
      [.node (fresh + 9) (.declRef controlVar) (.builtin .int) []])]

/-- Modelled from the spec: the parse of the print-mode report
`printf("cvise_value(%F)\n", tmp);`. The temporary's value goes through the default argument
promotion `promotion`, if its type has one. -/
def printReport (printfDecl tmpVar : NamedDecl) (type : CType) (format : String)
    (promotion : Option (CastKind × CType)) (fresh : Nat) : Stmt :=
  .expr (.node fresh .call (.builtin .int)
    [.node (fresh + 1) (.implicitCast .functionToPointerDecay)
        (.pointer (.function (.builtin .int)))
        [.node (fresh + 2) (.declRef printfDecl) (.function (.builtin .int)) []],
      .node (fresh + 3) (.implicitCast .arrayToPointerDecay) (.pointer (.builtin .charS))
        [.node (fresh + 4) (.stringLiteral (asciiBytes ("cvise_value(%" ++ format ++ ")\n")))
          (.array (.builtin .charS)) []],
      tmpValue tmpVar type promotion fresh])

/-- Modelled from the spec: the parse of the reference-mode report `if (tmp != REF) abort();`.
`reference` is the parse of the reference value, and the temporary's value goes through the
conversion `conversion` the comparison applies, if any. -/
def checkReport (abortDecl tmpVar : NamedDecl) (type : CType) (reference : Expr)
    (conversion : Option (CastKind × CType)) (fresh : Nat) : Stmt :=
  .ifStmt fresh
    (.node (fresh + 1) (.binaryOperator .ne) (.builtin .int)
      [tmpValue tmpVar type conversion fresh, reference])
    (.expr (.node (fresh + 2) .call (.builtin .void)
      [.node (fresh + 3) (.implicitCast .functionToPointerDecay)
          (.pointer (.function (.builtin .void)))
          [.node (fresh + 4) (.declRef abortDecl) (.function (.builtin .void)) []]]))
    none

/-- The report of the mode: the comparison with the reference value and `abort()`, or the
`printf` of the temporary. `functionDecl` is the reporting function and `cast` the conversion
of the temporary's value the report applies, if any. -/
def reportStmt (checkReference : Bool) (functionDecl tmpVar : NamedDecl) (type : CType)
    (reference : Expr) (format : String) (cast : Option (CastKind × CType)) (fresh : Nat) :
    Stmt :=
  if checkReference then checkReport functionDecl tmpVar type reference cast fresh
  else printReport functionDecl tmpVar type format cast fresh

/-! ## What the second run rejects -/

open CommonStatementVisitor

/-- The calls of a `DeclStmt` that declares a reserved name are all rejected. -/
theorem traverseStmt_declStmt_rejected (isInIncludedFile : Expr → Bool) {id : Nat}
    {decls : List Decl} (reserved : rejectsDeclStmt (.declStmt id decls) = true) :
    ∀ call ∈ traverseStmt (some (.declStmt id decls)) (.declStmt id decls), ∀ caches,
      acceptExpr isInIncludedFile call.1 call.2 caches = .ok (false, caches) := by
  intro call mem caches
  obtain ⟨named, -⟩ := mem_map_pair mem
  rw [named]
  exact acceptExpr_of_rejectsLocally isInIncludedFile caches (by simp [rejectsLocally, reserved])

/-- The call is rejected whatever the tables hold, and leaves them as they were. -/
def Rejected (isInIncludedFile : Expr → Bool) (call : Option Stmt × Expr) : Prop :=
  ∀ caches, acceptExpr isInIncludedFile call.1 call.2 caches = .ok (false, caches)

section Rejected

variable (isInIncludedFile : Expr → Bool) {S : Stmt} {tmpVar : NamedDecl} {type : CType}

theorem rejected_of_not_candidate {E : Expr} (skipped : E.getStmtClass.isCandidateClass = false) :
    Rejected isInIncludedFile (some S, E) :=
  fun caches => acceptExpr_of_not_candidate isInIncludedFile caches skipped

theorem rejected_of_function_type {id : Nat} {kind : ExprKind} {result : CType}
    {children : List Expr} :
    Rejected isInIncludedFile (some S, .node id kind (.function result) children) :=
  fun caches => acceptExpr_of_not_arithmetic isInIncludedFile caches rfl rfl

/-- A reference to a reserved name is rejected wherever it stands. -/
theorem rejected_reserved_ref {decl : NamedDecl} {id : Nat} {declType : CType}
    (reserved : refToTmpVar decl = true) :
    Rejected isInIncludedFile (some S, .node id (.declRef decl) declType []) :=
  fun caches => acceptExpr_of_rejectsLocally isInIncludedFile caches
    (by simp [rejectsLocally, isTmpVarOrPrintfArg, reserved])

/-- An expression statement is never its own candidate. -/
theorem rejected_self {id : Nat} {kind : ExprKind} {exprType : CType} {children : List Expr}
    (notCast : kind.isParenOrCast = false) :
    Rejected isInIncludedFile
      (some (.expr (.node id kind exprType children)), .node id kind exprType children) :=
  fun caches => acceptExpr_of_rejectsLocally isInIncludedFile caches
    (by simp [rejectsLocally, isSelfReplacement, Expr.ignoreParenCasts, Expr.ignoreExprNodes_node,
      notCast])

theorem refToTmpVar_of_tmpVar (tmpReserved : startswith tmpVar.name tmpVarNamePrefix = true) :
    refToTmpVar tmpVar = true := by
  simp [refToTmpVar, tmpReserved]

theorem tmpValue_ignoreParenCasts (cast : Option (CastKind × CType)) (fresh : Nat) :
    (tmpValue tmpVar type cast fresh).ignoreParenCasts = .node (fresh + 6) (.declRef tmpVar) type [] := by
  cases cast <;> rfl

/-- The temporary's value is rejected node by node. -/
theorem tmpValue_rejected (tmpReserved : startswith tmpVar.name tmpVarNamePrefix = true)
    (cast : Option (CastKind × CType)) (fresh : Nat) :
    ∀ E ∈ (tmpValue tmpVar type cast fresh).preorder, Rejected isInIncludedFile (some S, E) := by
  have reserved := @rejected_reserved_ref isInIncludedFile S tmpVar (fresh + 5 + 1) type
    (refToTmpVar_of_tmpVar tmpReserved)
  rcases cast with _ | ⟨castKind, converted⟩ <;>
    simp only [tmpValue, rvalueOf, Expr.preorder, Expr.preorderChildren, List.append_nil,
      List.singleton_append, List.mem_cons, List.not_mem_nil, or_false, forall_eq_or_imp,
      forall_eq]
  · exact ⟨rejected_of_not_candidate isInIncludedFile rfl, reserved⟩
  · exact ⟨rejected_of_not_candidate isInIncludedFile rfl,
      rejected_of_not_candidate isInIncludedFile rfl, reserved⟩

/-- The comparison of the reference mode is the one the filter knows, when the reference
value is a literal. -/
theorem rejected_reference_comparison (tmpReserved : startswith tmpVar.name tmpVarNamePrefix = true)
    {reference : Expr} (literal : reference.ignoreParenCasts.getStmtClass = .integerLiteral ∨
      reference.ignoreParenCasts.getStmtClass = .floatingLiteral)
    {id : Nat} {thenStmt : Stmt} {elseStmt : Option Stmt} {cond : Expr}
    (cast : Option (CastKind × CType)) (fresh : Nat) :
    Rejected isInIncludedFile (some (.ifStmt id cond thenStmt elseStmt),
      .node (fresh + 1) (.binaryOperator .ne) (.builtin .int)
        [tmpValue tmpVar type cast fresh, reference]) :=
  fun caches => acceptExpr_of_rejectsLocally isInIncludedFile caches (by
    have comparison : isTmpVarGuard (.ifStmt id cond thenStmt elseStmt)
        (.node (fresh + 1) (.binaryOperator .ne) (.builtin .int)
          [tmpValue tmpVar type cast fresh, reference]) = true := by
      simp only [isTmpVarGuard, tmpValue_ignoreParenCasts, tmpReserved]
      rcases literal with literal | literal <;> simp [literal, Stmt.getStmtClass]
    simp [rejectsLocally, comparison])

/-- Every call of the report is rejected: the `printf` call is its own statement, its callee
and format are not candidates, and the reference comparison is the one the filter knows. -/
theorem reportStmt_rejected (tmpReserved : startswith tmpVar.name tmpVarNamePrefix = true)
    (checkReference : Bool) (functionDecl : NamedDecl) {reference : Expr}
    (referenceLiteral : checkReference = true →
      (reference.ignoreParenCasts.getStmtClass = .integerLiteral ∨
        reference.ignoreParenCasts.getStmtClass = .floatingLiteral) ∧
      ∀ E ∈ reference.preorder, E.getStmtClass.isCandidateClass = false)
    (format : String) (cast : Option (CastKind × CType)) (fresh : Nat) :
    let report := reportStmt checkReference functionDecl tmpVar type reference format cast fresh
    ∀ call ∈ traverseStmt (some report) report, Rejected isInIncludedFile call := by
  intro report
  rintro ⟨current, E⟩ mem
  cases checkReference with
  | false =>
    obtain ⟨rfl, mem⟩ := mem_map_pair mem
    simp only [report, reportStmt, printReport, Bool.false_eq_true, if_false, Expr.preorder,
      Expr.preorderChildren, List.append_nil, List.nil_append, List.singleton_append,
      List.cons_append, List.mem_cons, List.not_mem_nil, or_false] at mem
    rcases mem with rfl | rfl | rfl | rfl | rfl | mem
    · exact rejected_self isInIncludedFile rfl
    · exact rejected_of_not_candidate isInIncludedFile rfl
    · exact rejected_of_function_type isInIncludedFile
    · exact rejected_of_not_candidate isInIncludedFile rfl
    · exact rejected_of_not_candidate isInIncludedFile rfl
    · exact tmpValue_rejected isInIncludedFile tmpReserved cast fresh E (by simpa using mem)
  | true =>
    obtain ⟨literal, referenceNodes⟩ := referenceLiteral rfl
    simp only [report, reportStmt, checkReport, if_true, traverseStmt, visitNonCompoundStmtOption,
      List.append_nil, List.mem_append] at mem
    rcases mem with condition | aborted
    · obtain ⟨rfl, mem⟩ := mem_map_pair condition
      simp only [Expr.preorder, Expr.preorderChildren, List.append_nil, List.cons_append,
        List.mem_cons, List.mem_append] at mem
      rcases mem with rfl | mem | mem
      · exact rejected_reference_comparison isInIncludedFile tmpReserved literal cast fresh
      · exact tmpValue_rejected isInIncludedFile tmpReserved cast fresh E mem
      · exact rejected_of_not_candidate isInIncludedFile (referenceNodes E mem)
    · obtain ⟨rfl, mem⟩ := mem_map_pair aborted
      simp only [Expr.preorder, Expr.preorderChildren, List.append_nil, List.singleton_append,
        List.cons_append, List.mem_cons, List.not_mem_nil, or_false] at mem
      rcases mem with rfl | rfl | rfl
      · exact fun caches => acceptExpr_of_not_arithmetic isInIncludedFile caches rfl rfl
      · exact rejected_of_not_candidate isInIncludedFile rfl
      · exact rejected_of_function_type isInIncludedFile

end Rejected

/-- **The second run rejects every node of the inserted statements but the guard's
comparison, and leaves the tables as they were**, in both modes and whatever the captured
expression: the capture and the guard counter declare reserved names, the increment and the
`printf` call are their own statements, the callees and the format are not candidates, the
references are to reserved names, and the reference comparison is the one the filter knows
when the reference value is a literal. -/
theorem insertedStmts_rejected (isInIncludedFile : Expr → Bool) (checkReference : Bool)
    (type : CType) (functionDecl tmpVar controlVar : NamedDecl) (init instanceNumber reference : Expr)
    (format : String) (cast : Option (CastKind × CType)) (fresh reportFresh : Nat)
    (tmpReserved : startswith tmpVar.name tmpVarNamePrefix = true)
    (controlReserved : refToTmpVar controlVar = true)
    (instanceLiteral : ∀ E ∈ instanceNumber.preorder, E.getStmtClass.isCandidateClass = false)
    (referenceLiteral : checkReference = true →
      (reference.ignoreParenCasts.getStmtClass = .integerLiteral ∨
        reference.ignoreParenCasts.getStmtClass = .floatingLiteral) ∧
      ∀ E ∈ reference.preorder, E.getStmtClass.isCandidateClass = false) :
    ∀ call ∈ visitCompoundStmt (insertedStmts type tmpVar controlVar init instanceNumber
        (reportStmt checkReference functionDecl tmpVar type reference format cast reportFresh)
        fresh),
      call.2 = instanceGuardOf controlVar instanceNumber (fresh + 4) ∨
        Rejected isInIncludedFile call := by
  rintro ⟨current, E⟩ mem
  simp only [insertedStmts, visitCompoundStmt, List.append_nil, List.mem_append] at mem
  rcases mem with capture | counter | guarded | increment
  · exact .inr (traverseStmt_declStmt_rejected isInIncludedFile
      (by simp [rejectsDeclStmt, Decl.asNamedDecl, refToTmpVar_of_tmpVar tmpReserved]) _ capture)
  · exact .inr (traverseStmt_declStmt_rejected isInIncludedFile
      (by simp [rejectsDeclStmt, Decl.asNamedDecl, controlReserved]) _ counter)
  · simp only [traverseStmt, visitCompoundStmt, visitNonCompoundStmtOption, List.append_nil,
      List.mem_append] at guarded
    rcases guarded with condition | reported
    · obtain ⟨rfl, mem⟩ := mem_map_pair condition
      simp only [instanceGuardOf, rvalueOf, Expr.preorder, Expr.preorderChildren,
        List.append_nil, List.nil_append, List.singleton_append, List.cons_append,
        List.mem_cons] at mem
      rcases mem with rfl | rfl | rfl | mem
      · exact .inl rfl
      · exact .inr (rejected_of_not_candidate isInIncludedFile rfl)
      · exact .inr (rejected_reserved_ref isInIncludedFile controlReserved)
      · exact .inr (rejected_of_not_candidate isInIncludedFile (instanceLiteral E mem))
    · exact .inr (reportStmt_rejected isInIncludedFile tmpReserved checkReference functionDecl
        referenceLiteral format cast reportFresh _ reported)
  · obtain ⟨rfl, mem⟩ := mem_map_pair increment
    simp only [Expr.preorder, Expr.preorderChildren, List.append_nil, List.mem_cons,
      List.not_mem_nil, or_false] at mem
    rcases mem with rfl | rfl
    · exact .inr (rejected_self isInIncludedFile rfl)
    · exact .inr (rejected_reserved_ref isInIncludedFile controlReserved)

theorem insertedStmts_rejected_returnX :
    startswith "__cvise_expr_tmp_1" tmpVarNamePrefix = true ∧
    refToTmpVar ⟨31, "__cvise_printed_1", .var⟩ = true ∧
    (∀ E ∈ (Expr.node 43 (.integerLiteral ⟨32, 1#32⟩) (.builtin .int) []).preorder,
      E.getStmtClass.isCandidateClass = false) ∧
    ∀ call ∈ visitCompoundStmt (insertedStmts (.builtin .int) ⟨30, "__cvise_expr_tmp_1", .var⟩
        ⟨31, "__cvise_printed_1", .var⟩
        (.node 41 (.implicitCast .lValueToRValue) (.builtin .int)
          [.node 42 (.declRef ⟨1, "x", .var⟩) (.builtin .int) []])
        (.node 43 (.integerLiteral ⟨32, 1#32⟩) (.builtin .int) [])
        (reportStmt false ⟨32, "printf", .function false⟩ ⟨30, "__cvise_expr_tmp_1", .var⟩
          (.builtin .int) (.node 43 (.integerLiteral ⟨32, 1#32⟩) (.builtin .int) []) "d" none 60)
        50),
      call.2 = instanceGuardOf ⟨31, "__cvise_printed_1", .var⟩
          (.node 43 (.integerLiteral ⟨32, 1#32⟩) (.builtin .int) []) 54 ∨
        Rejected (fun _ => false) call :=
  ⟨rfl, rfl, by decide,
    insertedStmts_rejected (fun _ => false) false (.builtin .int) ⟨32, "printf", .function false⟩
      ⟨30, "__cvise_expr_tmp_1", .var⟩ ⟨31, "__cvise_printed_1", .var⟩
      (.node 41 (.implicitCast .lValueToRValue) (.builtin .int)
        [.node 42 (.declRef ⟨1, "x", .var⟩) (.builtin .int) []])
      (.node 43 (.integerLiteral ⟨32, 1#32⟩) (.builtin .int) [])
      (.node 43 (.integerLiteral ⟨32, 1#32⟩) (.builtin .int) []) "d" none 50 60 rfl rfl
      (by decide) nofun⟩

/-! ## The rewrite of `int x; int f(void) { return x; }` -/

/-- The text `doRewrite` inserts before `return x;` in print mode. -/
def returnXInsertion : String :=
  "int __cvise_expr_tmp_1 = x;\nstatic int __cvise_printed_1 = 0;\n" ++
    "if (__cvise_printed_1 == __CVISE_INSTANCE_NUMBER) \x7b\n" ++
    "  printf(\"cvise_value(%d)\\n\", __cvise_expr_tmp_1);\n\x7d\n++__cvise_printed_1;"

/-- `int __cvise_expr_tmp_1`. -/
def tmpVar1 : NamedDecl := ⟨30, "__cvise_expr_tmp_1", .var⟩

/-- `static int __cvise_printed_1`. -/
def printedVar1 : NamedDecl := ⟨31, "__cvise_printed_1", .var⟩

/-- The declaration of `printf` the rewrite adds at the top of the file. -/
def printfDecl : NamedDecl := ⟨32, "printf", .function false⟩

/-- The parse of `returnXInsertion`, with `__CVISE_INSTANCE_NUMBER` defined as `1`. -/
def returnXInserted : List Stmt :=
  insertedStmts (.builtin .int) tmpVar1 printedVar1
    (.node 41 (.implicitCast .lValueToRValue) (.builtin .int)
      [.node 42 (.declRef globalX) (.builtin .int) []])
    (.node 43 (.integerLiteral ⟨32, 1#32⟩) (.builtin .int) [])
    (printReport printfDecl tmpVar1 (.builtin .int) "d" none 60) 50

/-- The rewritten program: `printf` declared first, and in `f` the inserted statements
before `return __cvise_expr_tmp_1;`. -/
def rerunUnit : TranslationUnit :=
  ⟨[], [[FunctionVisit.ofFunctionDecl ⟨printfDecl, 0, false, [], [], none⟩], [],
    [FunctionVisit.ofFunctionDecl ⟨⟨2, "f", .function false⟩, 10, false, [], [],
      some (.compound 4 (returnXInserted ++
        [.returnStmt 73 (some (rvalueOf tmpVar1 (.builtin .int) 74))]))⟩]]⟩

/-- The comparison of the inserted guard, `__cvise_printed_1 == 1`. -/
def instanceGuard : Expr :=
  instanceGuardOf printedVar1 (.node 43 (.integerLiteral ⟨32, 1#32⟩) (.builtin .int) []) 54

/-- **The second run counts the inserted guard**: on `int x; int f(void) { return x; }` the
pass with counter 1 in print mode inserts the guarded report before `return x;`, and
re-running the collection phase on the rewritten program accepts exactly one expression,
the guard's comparison `__cvise_printed_1 == __CVISE_INSTANCE_NUMBER`, under the inserted
`if`. -/
theorem rerun_accepts_instance_guard :
    expressionDetector (fun _ => false) false ⟨1, false, false, "", false, ""⟩ returnXContext
        false returnXUnit =
      .ok ⟨.success, [.insertText 0 "int printf(const char *format, ...);\n",
        .addStringBeforeStmtAndReplaceExpr returnX returnXInsertion returnedX
          "__cvise_expr_tmp_1" true]⟩ ∧
    (Prod.fst <$> select (fun _ => false) rerunUnit.events (rerunUnit.start false).visitor) =
      .ok [⟨some ⟨⟨2, "f", .function false⟩, 10, false, [], [],
        some (.compound 4 (returnXInserted ++
          [.returnStmt 73 (some (rvalueOf tmpVar1 (.builtin .int) 74))]))⟩,
        returnXInserted[2]?, instanceGuard⟩] := by
  constructor <;> rfl

/-! ## A captured value is not captured again -/

/-- **A value the pass captured is not captured again**: in a function whose body declares a
capture temporary `tmp` with initializer `init`, and does not declare `tmp` after that, no
candidate of a statement that names `tmp` is identical to `init`, in either order. The
declaration `doRewrite` inserts before the latched statement is such a declaration, and the
statement it rewrites names the temporary in place of the captured expression, so a later
run of the pass never picks again, in that statement, an expression identical to the one it
captured. -/
theorem select_unit_not_recaptured (isInIncludedFile : Expr → Bool) (unit : TranslationUnit)
    (checkReference : Bool) {candidates : List Candidate} {visitor : VisitorState}
    (selected : select isInIncludedFile unit.events (unit.start checkReference).visitor =
      .ok (candidates, visitor))
    (FD : FunctionDecl) {body : Stmt} (defined : FD.body = some body)
    (tmp : VarDecl) {init : Expr} (initialized : tmp.init = some init)
    (reserved : startswith tmp.decl.name tmpVarNamePrefix = true)
    (isVar : tmp.decl.isVarDecl = true)
    (declaredLast : ∃ pre post, body.declStmtDecls = pre ++ .var tmp :: post ∧
      ∀ decl ∈ post, decl.asNamedDecl ≠ some tmp.decl) :
    ∀ candidate ∈ candidates, candidate.func = some FD → ∀ S, candidate.stmt = some S →
      (∃ id type children, Expr.node id (.declRef tmp.decl) type children ∈ S.exprs) →
        isIdenticalExpr (some init) (some candidate.expr) = false ∧
          isIdenticalExpr (some candidate.expr) (some init) = false := by
  intro candidate mem named S stmt ⟨id, type, children, ref⟩
  obtain ⟨pre, post, declared, last⟩ := declaredLast
  obtain ⟨visit, -, -, -, func, S', stmt', -, checks⟩ :=
    select_unit_candidate_fromCalls isInIncludedFile unit checkReference selected candidate mem
  obtain rfl : visit.func = FD := Option.some.inj (func.symm.trans named)
  obtain rfl : S' = S := Option.some.inj (stmt'.symm.trans stmt)
  have recorded := ExprDetectorTempVarVisitor.traverseDecl_of_last_declaration defined
    initialized reserved declared last fun _ => none
  have notIdentical : isIdenticalNonNull init candidate.expr = false :=
    Bool.eq_false_iff.mpr fun identical => Bool.false_ne_true <| checks.notCaptured.symm.trans <|
      hasIdenticalExpr_iff.mpr ⟨tmp.decl, LocalTmpVarCollector.mem_traverseStmt ref isVar reserved,
        _, recorded, (isIdenticalNonNull_ignoreParenImpCasts init candidate.expr).trans identical⟩
  exact ⟨notIdentical, (isIdenticalNonNull_comm _ _).trans notIdentical⟩

/-- `f` of the rewritten program. -/
def rerunFunction : FunctionDecl :=
  ⟨⟨2, "f", .function false⟩, 10, false, [], [],
    some (.compound 4 (returnXInserted ++
      [.returnStmt 73 (some (rvalueOf tmpVar1 (.builtin .int) 74))]))⟩

/-- The capture `int __cvise_expr_tmp_1 = x;` the rewrite inserted in `f`. -/
def captureOfX : VarDecl :=
  ⟨tmpVar1, .builtin .int, [], some (rvalueOf globalX (.builtin .int) 41)⟩

theorem select_unit_not_recaptured_rerunUnit :
    ∃ candidates visitor,
      select (fun _ => false) rerunUnit.events (rerunUnit.start false).visitor =
          .ok (candidates, visitor) ∧
        ∀ candidate ∈ candidates, candidate.func = some rerunFunction →
          ∀ S, candidate.stmt = some S →
            (∃ id type children, Expr.node id (.declRef tmpVar1) type children ∈ S.exprs) →
              isIdenticalExpr (some (rvalueOf globalX (.builtin .int) 41))
                  (some candidate.expr) = false ∧
                isIdenticalExpr (some candidate.expr)
                  (some (rvalueOf globalX (.builtin .int) 41)) = false :=
  ⟨_, _, rfl, select_unit_not_recaptured (fun _ => false) rerunUnit false rfl rerunFunction rfl
    captureOfX rfl rfl rfl ⟨[], _, rfl, by decide⟩⟩

end ClangDelta
