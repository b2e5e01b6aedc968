import ExpressionDetector.Collection

/-!
# The rewrite

`ExpressionDetector::doRewrite` instruments the latched expression. Before the latched
statement it inserts a capture temporary `T __cvise_expr_tmp_N = E;`, a static guard counter,
the guarded report and the increment of the guard, and it replaces the expression by the
temporary. In print mode the report is a `printf` whose conversion `getFormatString` picks
from the expression's type; in reference mode it is `abort()` when the temporary differs
from the reference value. A declaration of the reporting function goes first when neither
it nor its header precedes the statement (`shouldAddFunctionDecl`).

`getFormatString` reads `dyn_cast<BuiltinType>` of the unqualified desugared type and knows
twenty builtin kinds. The type filter of `VisitExpr` admits more: enumerations,
`_BitInt(N)` and `_Complex` types are not builtin, so `getFormatString` dereferences a null
pointer, and `__int128`, `char8_t`, `half`, `_Float16`, `__bf16`, `__float128` and
`__ibm128` reach its `Bad BuiltinType!` assertion. Print mode reports an admitted type
exactly when its desugared type is one of the twenty kinds
(`getFormatString_isOk_iff`), and an enumeration variable latched in print mode stops the
pass (`expressionDetector_enum_dereferences_null`).
-/

set_option autoImplicit false

namespace ClangDelta

/-! ## Formats -/

/-- `getFormatString(BT)`: the `printf` conversion of a builtin kind; `BT` is the result of
`dyn_cast<BuiltinType>`, null when the type is not builtin. -/
def getFormatString : Option BuiltinKind → Except Fault String
  | none => throw (.nullDereference "BT")
  | some .bool | some .charU | some .wCharU | some .uChar | some .uShort | some .uInt => pure "u"
  | some .charS | some .sChar | some .wCharS | some .short | some .int | some .char16
  | some .char32 => pure "d"
  | some .uLong => pure "lu"
  | some .long => pure "ld"
  | some .uLongLong => pure "llu"
  | some .longLong => pure "lld"
  | some .float | some .double => pure "f"
  | some .longDouble => pure "Lf"
  | some _ => throw (.transAssert "Bad BuiltinType!")

/-- The builtin kinds `getFormatString` has a case for. -/
def BuiltinKind.hasFormat : BuiltinKind → Bool
  | .bool | .charU | .wCharU | .uChar | .uShort | .uInt
  | .charS | .sChar | .wCharS | .short | .int | .char16 | .char32
  | .uLong | .long | .uLongLong | .longLong | .float | .double | .longDouble => true
  | _ => false

theorem getFormatString_isOk (kind? : Option BuiltinKind) :
    (getFormatString kind?).isOk = (kind?.map BuiltinKind.hasFormat).getD false := by
  rcases kind? with _ | kind
  · rfl
  · cases kind <;> rfl

/-- **For every type the filter admits, print mode finds a format exactly when the desugared
type is a builtin of one of the twenty kinds `getFormatString` lists**; an enumeration,
`_BitInt(N)` or `_Complex` type makes it dereference a null pointer. -/
theorem getFormatString_isOk_iff (type : CType)
    (admitted : type.isIntegerType = true ∨ type.isFloatingType = true) :
    ((getFormatString type.getUnqualifiedDesugaredType.asBuiltinType).isOk = true ↔
      ∃ kind, type.getUnqualifiedDesugaredType = .builtin kind ∧ kind.hasFormat = true) ∧
    (type.getUnqualifiedDesugaredType.asBuiltinType = none ↔
      (∃ name isComplete isScoped, type.getUnqualifiedDesugaredType = .enum name isComplete isScoped) ∨
      (∃ isUnsigned numBits, type.getUnqualifiedDesugaredType = .bitInt isUnsigned numBits) ∨
      (∃ element, type.getUnqualifiedDesugaredType = .complex element)) := by
  rw [getFormatString_isOk]
  induction type with
  | typedef _ underlying ih | qualified _ underlying ih => exact ih admitted
  | builtin | enum | bitInt | complex =>
    simp [CType.getUnqualifiedDesugaredType, CType.asBuiltinType]
  | pointer | array | record | function =>
    simp [CType.isIntegerType, CType.isFloatingType] at admitted

theorem getFormatString_isOk_iff_enum :
    (CType.enum "color" true false).isIntegerType = true ∧
    (((getFormatString
          (CType.enum "color" true false).getUnqualifiedDesugaredType.asBuiltinType).isOk = true ↔
        ∃ kind, (CType.enum "color" true false).getUnqualifiedDesugaredType = .builtin kind ∧
          kind.hasFormat = true) ∧
      ((CType.enum "color" true false).getUnqualifiedDesugaredType.asBuiltinType = none ↔
        (∃ name isComplete isScoped, (CType.enum "color" true false).getUnqualifiedDesugaredType =
          .enum name isComplete isScoped) ∨
        (∃ isUnsigned numBits, (CType.enum "color" true false).getUnqualifiedDesugaredType =
          .bitInt isUnsigned numBits) ∨
        (∃ element, (CType.enum "color" true false).getUnqualifiedDesugaredType =
          .complex element))) :=
  ⟨rfl, getFormatString_isOk_iff _ (.inl rfl)⟩

theorem getFormatString_fault {kind? : Option BuiltinKind} {fault : Fault}
    (faulted : getFormatString kind? = .error fault) :
    fault = .nullDereference "BT" ∨ fault = .transAssert "Bad BuiltinType!" := by
  rcases kind? with _ | kind
  · cases faulted; exact .inl rfl
  · cases kind <;> cases faulted <;> exact .inr rfl

/-! ## Names and edits -/

/-- The requests the pass makes of the rewriter, with their arguments. -/
inductive Edit
  /-- `TheRewriter.InsertText(Loc, Text)`. -/
  | insertText (loc : Nat) (text : String)
  /-- `RewriteHelper->addStringBeforeStmtAndReplaceExpr(S, Str, E, Name, NeedParen)`. -/
  | addStringBeforeStmtAndReplaceExpr (stmt : Stmt) (text : String) (expr : Expr)
      (replacement : String) (needParen : Bool)
  /-- `RewriteHelper->replaceExpr(E, Replacement)`. -/
  | replaceExpr (expr : Expr) (replacement : String)
  deriving DecidableEq

/-- What `doRewrite` asks of the front end and the rewriter besides the latched triple: the
printed expression and type, the largest numeric suffixes the name queries find in the
function, and where the statement begins. -/
structure RewriteContext where
  exprString : String
  typeString : String
  tmpVarMaxPostfix : Nat
  controlVarMaxPostfix : Nat
  stmtBeginLoc : Nat

/-- `ExpressionDetector::shouldAddFunctionDecl(Loc)`: `Loc` comes before the recorded
declaration of the reporting function and before the recorded inclusion of its header, where
these are set. -/
def shouldAddFunctionDecl (hfInfo : HFInfo) (loc : Nat) : Bool :=
  (!hfInfo.hasFunction || decide (loc < hfInfo.functionLoc)) &&
    (!hfInfo.hasHeader || decide (loc < hfInfo.headerLoc))

theorem shouldAddFunctionDecl_iff (hfInfo : HFInfo) (loc : Nat) :
    shouldAddFunctionDecl hfInfo loc = true ↔
      (∀ functionLoc ∈ hfInfo.functionLoc?, loc < functionLoc) ∧
        ∀ headerLoc ∈ hfInfo.headerLoc?, loc < headerLoc := by
  unfold shouldAddFunctionDecl HFInfo.functionLoc? HFInfo.headerLoc?
  cases hfInfo.hasFunction <;> cases hfInfo.hasHeader <;> simp

/-- `ControlVarNamePrefix`, as `Initialize` sets it. -/
def controlVarNamePrefix (checkReference : Bool) : String :=
  if checkReference then checkedVarNamePrefix else printedVarNamePrefix

/-- `TmpVarName`: the capture temporary's fresh name. -/
def RewriteContext.tmpVarName (ctx : RewriteContext) : String :=
  tmpVarNamePrefix ++ toString (ctx.tmpVarMaxPostfix + 1)

/-- `ControlVarName`: the guard counter's fresh name. -/
def RewriteContext.controlVarName (ctx : RewriteContext) (checkReference : Bool) : String :=
  controlVarNamePrefix checkReference ++ toString (ctx.controlVarMaxPostfix + 1)

/-- The guarded report: `abort()` when the temporary differs from the reference value, or
the `printf` of the temporary with the format of the expression's type. -/
def reportString (checkReference : Bool) (referenceValue : String) (hfInfo : HFInfo)
    (tmpVarName : String) (theExpr : Expr) : Except Fault String :=
  if checkReference then
    pure ("  if (" ++ tmpVarName ++ " != " ++ referenceValue ++ ") " ++ hfInfo.functionName ++
      "();\n")
  else do
    let formatStr ← getFormatString theExpr.type.getUnqualifiedDesugaredType.asBuiltinType
    pure ("  " ++ hfInfo.functionName ++ "(\"cvise_value(%" ++ formatStr ++ ")\\n\", " ++
      tmpVarName ++ ");\n")

/-- `ExpressionDetector::doRewrite`: the edits for the latched statement and expression. -/
def doRewrite (checkReference : Bool) (referenceValue : String) (hfInfo : HFInfo)
    (ctx : RewriteContext) (theStmt : Stmt) (theExpr : Expr) : Except Fault (List Edit) := do
  let declaration :=
    if shouldAddFunctionDecl hfInfo ctx.stmtBeginLoc then
      [Edit.insertText 0 (hfInfo.functionDeclStr ++ ";\n")]
    else []
  let tmpVarName := ctx.tmpVarName
  let controlVarName := ctx.controlVarName checkReference
  let report ← reportString checkReference referenceValue hfInfo tmpVarName theExpr
  let str := ctx.typeString ++ " " ++ tmpVarName ++ " = " ++ ctx.exprString ++ ";\n" ++
    "static int " ++ controlVarName ++ " = 0;\n" ++
    "if (" ++ controlVarName ++ " == __CVISE_INSTANCE_NUMBER) \x7b\n" ++ report ++ "\x7d\n" ++
    "++" ++ controlVarName ++ ";"
  let needParen := theStmt.getStmtClass != .declStmt
  pure (declaration ++ [.addStringBeforeStmtAndReplaceExpr theStmt str theExpr tmpVarName needParen])

/-- `doRewrite` declares the reporting function at the top of the file exactly when
`shouldAddFunctionDecl` holds at the statement's beginning. -/
theorem doRewrite_declares {checkReference : Bool} {referenceValue : String} {hfInfo : HFInfo}
    {ctx : RewriteContext} {theStmt : Stmt} {theExpr : Expr} {edits : List Edit}
    (rewritten : doRewrite checkReference referenceValue hfInfo ctx theStmt theExpr = .ok edits) :
    Edit.insertText 0 (hfInfo.functionDeclStr ++ ";\n") ∈ edits ↔
      shouldAddFunctionDecl hfInfo ctx.stmtBeginLoc = true := by
  unfold doRewrite at rewritten
  dsimp only at rewritten
  cases reported : reportString checkReference referenceValue hfInfo ctx.tmpVarName theExpr with
  | error fault => rw [reported] at rewritten; cases rewritten
  | ok report =>
    rw [reported] at rewritten
    cases rewritten
    split <;> simp [*]

/-- `doRewrite` captures the latched expression before the latched statement, under the fresh
temporary, and nothing else. -/
theorem doRewrite_captures {checkReference : Bool} {referenceValue : String} {hfInfo : HFInfo}
    {ctx : RewriteContext} {theStmt : Stmt} {theExpr : Expr} {edits : List Edit}
    (rewritten : doRewrite checkReference referenceValue hfInfo ctx theStmt theExpr = .ok edits)
    (S : Stmt) (E : Expr) (name : String) (needParen : Bool) :
    (∃ text, Edit.addStringBeforeStmtAndReplaceExpr S text E name needParen ∈ edits) ↔
      S = theStmt ∧ E = theExpr ∧ name = ctx.tmpVarName ∧
        needParen = (theStmt.getStmtClass != .declStmt) := by
  unfold doRewrite at rewritten
  dsimp only at rewritten
  cases reported : reportString checkReference referenceValue hfInfo ctx.tmpVarName theExpr with
  | error fault => rw [reported] at rewritten; cases rewritten
  | ok report =>
    rw [reported] at rewritten
    cases rewritten
    split <;> simp

/-- `doRewrite` reads `HFInfo` only through the declaration text, the function's name and the
recorded locations. -/
theorem doRewrite_congr {checkReference : Bool} {referenceValue : String} {hfInfo hfInfo' : HFInfo}
    {ctx : RewriteContext} {theStmt : Stmt} {theExpr : Expr}
    (sameDeclStr : hfInfo.functionDeclStr = hfInfo'.functionDeclStr)
    (sameName : hfInfo.functionName = hfInfo'.functionName)
    (sameFunctionLoc : hfInfo.functionLoc? = hfInfo'.functionLoc?)
    (sameHeaderLoc : hfInfo.headerLoc? = hfInfo'.headerLoc?) :
    doRewrite checkReference referenceValue hfInfo ctx theStmt theExpr =
      doRewrite checkReference referenceValue hfInfo' ctx theStmt theExpr := by
  have sameDecision : shouldAddFunctionDecl hfInfo ctx.stmtBeginLoc =
      shouldAddFunctionDecl hfInfo' ctx.stmtBeginLoc := by
    rw [Bool.eq_iff_iff, shouldAddFunctionDecl_iff, shouldAddFunctionDecl_iff, sameFunctionLoc,
      sameHeaderLoc]
  unfold doRewrite reportString
  rw [sameDecision, sameDeclStr, sameName]

/-- `doRewrite` stops the pass only inside `getFormatString`, which print mode alone calls. -/
theorem doRewrite_fault {checkReference : Bool} {referenceValue : String} {hfInfo : HFInfo}
    {ctx : RewriteContext} {theStmt : Stmt} {theExpr : Expr} {fault : Fault}
    (faulted : doRewrite checkReference referenceValue hfInfo ctx theStmt theExpr = .error fault) :
    checkReference = false ∧
      (fault = .nullDereference "BT" ∨ fault = .transAssert "Bad BuiltinType!") := by
  unfold doRewrite reportString at faulted
  cases checkReference with
  | true => cases faulted
  | false =>
    simp only [Bool.false_eq_true, if_false] at faulted
    cases format : getFormatString theExpr.type.getUnqualifiedDesugaredType.asBuiltinType with
    | error formatFault =>
      rw [format] at faulted
      cases faulted
      exact ⟨rfl, getFormatString_fault format⟩
    | ok formatStr => rw [format] at faulted; cases faulted

end ClangDelta
