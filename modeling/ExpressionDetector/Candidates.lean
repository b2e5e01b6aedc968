import ExpressionDetector.ReferenceCollection

/-!
# What every candidate satisfies

The collection phase decides each `VisitExpr` call with tables: the memo tables of the two
per-statement collectors, which persist from one function to the next, and `UniqueExprs`,
which holds what the filter has seen of the function so far. Read through the reference
collection, the decisions come out as rules on the program alone.

Every candidate of a C program comes from a `VisitExpr` call of a function definition of the
main file, and passes, against that definition's capture temporaries, every check of the
filter that needs no table (`PassesStatelessChecks`): the checks `VisitExpr` makes before
`isValidExpr`, the local rules of `isValidExpr` (loops, self-replacement, declarations, the
emitted guards and the reserved names), the write set of its statement and the capture check
(`select_unit_candidates_sound`). Conversely no such call is missed: it is a candidate, or
identical to a candidate of its function and statement (`select_unit_candidates_complete`).
The candidates are the valid calls less the later copies within a statement.

In particular nothing is drawn from a loop's initializer, condition or increment: the
statement visitor makes the loop `CurrentStmt` for them and the filter rejects every
expression under a loop (`select_unit_not_loopClause`).

The tables that outlive a function never change a decision: the selection over a program is,
in order, the selections each function definition makes when it is the whole program
(`select_unit_functionwise`).
-/

set_option autoImplicit false

namespace ClangDelta

/-- The checks of a call `(S, E)` that need no table, against the capture temporaries
`processedExprs` of its function: the checks of `VisitExpr` before `isValidExpr`, the local
rules of `isValidExpr`, the write set of `S` and the capture check. -/
structure PassesStatelessChecks (isInIncludedFile : Expr → Bool)
    (processedExprs : NamedDecl → Option Expr) (S : Stmt) (E : Expr) : Prop where
  admitted : admitsExpr isInIncludedFile E = true
  notRejectedLocally : rejectsLocally S E = false
  notWritten : E ∉ LocalUOBOVisitor.traverseStmt S
  notCaptured :
    hasIdenticalExpr processedExprs (LocalTmpVarCollector.traverseStmt tmpVarNamePrefix S) E =
      false

/-! ## A loop that sums its counter -/

/-- The parameter `n` of `sumLoopFunction`. -/
def sumLoopN : NamedDecl := ⟨1, "n", .parmVar⟩

/-- The accumulator `s`. -/
def sumLoopS : NamedDecl := ⟨2, "s", .parmVar⟩

/-- The induction variable `i`. -/
def sumLoopI : NamedDecl := ⟨3, "i", .var⟩

/-- The reference to `i` in `s += i`. -/
def sumLoopIRef : Expr := .node 31 (.declRef sumLoopI) (.builtin .int) []

/-- `s += i;`. -/
def sumLoopStep : Stmt :=
  .expr (.node 28 (.binaryOperator .addAssign) (.builtin .int)
    [.node 29 (.declRef sumLoopS) (.builtin .int) [],
      .node 30 (.implicitCast .lValueToRValue) (.builtin .int) [sumLoopIRef]])

/-- `for (int i = 0; i < n; i++) s += i;`. -/
def sumLoop : Stmt :=
  .forStmt 6
    (some (.declStmt 7 [.var ⟨sumLoopI, .builtin .int, [],
      some (.node 20 (.integerLiteral ⟨32, 0#32⟩) (.builtin .int) [])⟩]))
    (some (.node 21 (.binaryOperator .lt) (.builtin .int)
      [.node 22 (.implicitCast .lValueToRValue) (.builtin .int)
          [.node 23 (.declRef sumLoopI) (.builtin .int) []],
        .node 24 (.implicitCast .lValueToRValue) (.builtin .int)
          [.node 25 (.declRef sumLoopN) (.builtin .int) []]]))
    (some (.node 26 (.unaryOperator .postInc) (.builtin .int)
      [.node 27 (.declRef sumLoopI) (.builtin .int) []]))
    sumLoopStep

/-- `void f(int n, int s) { for (int i = 0; i < n; i++) s += i; }`. -/
def sumLoopFunction : FunctionDecl :=
  ⟨⟨4, "f", .function false⟩, 0, false, [],
    [⟨sumLoopN, .builtin .int, [], none⟩, ⟨sumLoopS, .builtin .int, [], none⟩],
    some (.compound 5 [sumLoop])⟩

/-- `sumLoopFunction` as a translation unit. -/
def sumLoopUnit : TranslationUnit := ⟨[], [[FunctionVisit.ofFunctionDecl sumLoopFunction]]⟩

section Sound

variable (isInIncludedFile : Expr → Bool)

/-! ## Every candidate passes the checks that need no table -/

/-- An admitted call the reference filter accepts passes the checks that need no table. -/
theorem PassesStatelessChecks.of_referenceIsValidExpr {processedExprs : NamedDecl → Option Expr}
    {accepted : Stmt → List Expr} {S : Stmt} {E : Expr}
    (admitted : admitsExpr isInIncludedFile E = true)
    (valid : referenceIsValidExpr processedExprs accepted S E = true) :
    PassesStatelessChecks isInIncludedFile processedExprs S E := by
  simp only [referenceIsValidExpr, Bool.and_eq_true, Bool.not_eq_true'] at valid
  obtain ⟨⟨⟨notLocal, notWritten⟩, -⟩, notCaptured⟩ := valid
  exact ⟨admitted, notLocal, by simpa using notWritten, notCaptured⟩

/-- The candidate comes from a call of `calls` in `func` and passes the checks that need no
table. -/
def Candidate.FromCalls (func : FunctionDecl) (processedExprs : NamedDecl → Option Expr)
    (calls : List (Option Stmt × Expr)) (candidate : Candidate) : Prop :=
  candidate.func = some func ∧ ∃ S, candidate.stmt = some S ∧ (some S, candidate.expr) ∈ calls ∧
    PassesStatelessChecks isInIncludedFile processedExprs S candidate.expr

theorem Candidate.FromCalls.cons {func : FunctionDecl} {processedExprs : NamedDecl → Option Expr}
    {calls : List (Option Stmt × Expr)} {candidate : Candidate}
    (comes : candidate.FromCalls isInIncludedFile func processedExprs calls)
    (call : Option Stmt × Expr) :
    candidate.FromCalls isInIncludedFile func processedExprs (call :: calls) :=
  let ⟨named, S, stmt, mem, checks⟩ := comes
  ⟨named, S, stmt, List.mem_cons_of_mem call mem, checks⟩

/-- Every candidate of the reference collection over one function's calls comes from one of
them and passes the checks that need no table. -/
theorem referenceCalls_sound {func : FunctionDecl} {processedExprs : NamedDecl → Option Expr} :
    ∀ {accepted : Stmt → List Expr} {calls : List (Option Stmt × Expr)}
      {candidates : List Candidate},
      referenceCalls isInIncludedFile func processedExprs accepted calls = .ok candidates →
        ∀ candidate ∈ candidates, candidate.FromCalls isInIncludedFile func processedExprs calls
  | _, [], _, collected, candidate, mem => by cases collected; cases mem
  | accepted, (S?, E) :: calls, candidates, collected, candidate, mem => by
    simp only [referenceCalls] at collected
    split at collected
    · next admitted =>
      cases S? with
      | none => cases collected
      | some S =>
        obtain ⟨rest, restOk, rfl⟩ := Fault.map_eq_ok collected
        have later : candidate ∈ rest →
            candidate.FromCalls isInIncludedFile func processedExprs ((some S, E) :: calls) :=
          fun mem => (referenceCalls_sound restOk candidate mem).cons isInIncludedFile _
        split at mem
        · next valid =>
          rcases List.mem_cons.mp mem with rfl | mem
          · exact ⟨rfl, S, rfl, List.mem_cons_self _ _,
              .of_referenceIsValidExpr isInIncludedFile admitted valid⟩
          · exact later mem
        · exact later mem
    · exact (referenceCalls_sound collected candidate mem).cons isInIncludedFile _

/-- Every candidate of the reference collection over one `FunctionDecl` comes from a main-file
definition. -/
theorem referenceVisit_sound {visit : FunctionVisit} {candidates : List Candidate}
    (collected : referenceVisit isInIncludedFile visit = .ok candidates) :
    ∀ candidate ∈ candidates, visit.func.isInIncludedFile = false ∧
      visit.func.isThisDeclarationADefinition = true ∧
      candidate.FromCalls isInIncludedFile visit.func
        (ExprDetectorTempVarVisitor.traverseDecl visit.func fun _ => none) visit.calls := by
  unfold referenceVisit at collected
  split_ifs at collected with skipped
  · cases collected
    exact fun _ mem => absurd mem (List.not_mem_nil _)
  · simp only [Bool.or_eq_true, Bool.not_eq_true', not_or, Bool.not_eq_false,
      Bool.not_eq_true] at skipped
    exact fun candidate mem =>
      ⟨skipped.1, skipped.2, referenceCalls_sound isInIncludedFile collected candidate mem⟩

theorem referenceCollect_sound :
    ∀ {visits : List FunctionVisit} {candidates : List Candidate},
      referenceCollect isInIncludedFile visits = .ok candidates →
        ∀ candidate ∈ candidates, ∃ visit ∈ visits, visit.func.isInIncludedFile = false ∧
          visit.func.isThisDeclarationADefinition = true ∧
          candidate.FromCalls isInIncludedFile visit.func
            (ExprDetectorTempVarVisitor.traverseDecl visit.func fun _ => none) visit.calls
  | [], _, collected, _, mem => by cases collected; cases mem
  | visit :: visits, _, collected, candidate, mem => by
    rw [referenceCollect] at collected
    obtain ⟨first, firstOk, collected⟩ := Fault.bind_eq_ok collected
    obtain ⟨rest, restOk, collected⟩ := Fault.bind_eq_ok collected
    cases collected
    rcases List.mem_append.mp mem with mem | mem
    · exact ⟨visit, List.mem_cons_self _ _,
        referenceVisit_sound isInIncludedFile firstOk candidate mem⟩
    · obtain ⟨other, otherMem, comes⟩ := referenceCollect_sound restOk candidate mem
      exact ⟨other, List.mem_cons_of_mem _ otherMem, comes⟩

/-- Every candidate of a C program comes from a call of a main-file definition and passes the
checks that need no table. -/
theorem select_unit_candidate_fromCalls (unit : TranslationUnit) (checkReference : Bool)
    {candidates : List Candidate} {visitor : VisitorState}
    (selected : select isInIncludedFile unit.events (unit.start checkReference).visitor =
      .ok (candidates, visitor)) :
    ∀ candidate ∈ candidates, ∃ visit ∈ unit.topLevelDecls.flatten,
      visit.func.isInIncludedFile = false ∧ visit.func.isThisDeclarationADefinition = true ∧
        candidate.FromCalls isInIncludedFile visit.func
          (ExprDetectorTempVarVisitor.traverseDecl visit.func fun _ => none) visit.calls := by
  have refined := select_unit_eq_referenceCollect isInIncludedFile unit checkReference
  rw [selected] at refined
  exact referenceCollect_sound isInIncludedFile refined.symm

/-- **Every candidate of a C program passes the filter's checks that need no table**: it
comes from a `VisitExpr` call of a function definition of the main file, under a statement,
and against that definition's capture temporaries its expression is admitted by `VisitExpr`,
passes the local rules of `isValidExpr`, is not in the statement's write set and is not
captured. -/
theorem select_unit_candidates_sound (unit : TranslationUnit) (checkReference : Bool)
    {candidates : List Candidate} {visitor : VisitorState}
    (selected : select isInIncludedFile unit.events (unit.start checkReference).visitor =
      .ok (candidates, visitor)) :
    ∀ candidate ∈ candidates, ∃ visit ∈ unit.topLevelDecls.flatten,
      visit.func.isInIncludedFile = false ∧ visit.func.isThisDeclarationADefinition = true ∧
        candidate.func = some visit.func ∧ ∃ S, candidate.stmt = some S ∧
          (some S, candidate.expr) ∈ visit.calls ∧
          PassesStatelessChecks isInIncludedFile
            (ExprDetectorTempVarVisitor.traverseDecl visit.func fun _ => none) S candidate.expr :=
  select_unit_candidate_fromCalls isInIncludedFile unit checkReference selected

theorem select_unit_candidates_sound_sumLoop :
    ∃ candidates visitor,
      select (fun _ => false) sumLoopUnit.events (sumLoopUnit.start false).visitor =
          .ok (candidates, visitor) ∧
        ∀ candidate ∈ candidates, ∃ visit ∈ sumLoopUnit.topLevelDecls.flatten,
          visit.func.isInIncludedFile = false ∧ visit.func.isThisDeclarationADefinition = true ∧
            candidate.func = some visit.func ∧ ∃ S, candidate.stmt = some S ∧
              (some S, candidate.expr) ∈ visit.calls ∧
              PassesStatelessChecks (fun _ => false)
                (ExprDetectorTempVarVisitor.traverseDecl visit.func fun _ => none) S
                candidate.expr :=
  ⟨_, _, rfl, select_unit_candidates_sound (fun _ => false) sumLoopUnit false rfl⟩

/-! ## No valid expression is missed -/

/-- Every call of one function that passes the checks needing no table is a candidate of the
reference collection, or identical to an expression accepted for its statement before the
calls, or to a candidate of its statement. -/
theorem referenceCalls_complete {func : FunctionDecl} {processedExprs : NamedDecl → Option Expr}
    {S : Stmt} {E : Expr} (checks : PassesStatelessChecks isInIncludedFile processedExprs S E) :
    ∀ {accepted : Stmt → List Expr} {calls : List (Option Stmt × Expr)}
      {candidates : List Candidate},
      referenceCalls isInIncludedFile func processedExprs accepted calls = .ok candidates →
        (some S, E) ∈ calls →
          ⟨some func, some S, E⟩ ∈ candidates ∨
            (∃ A ∈ accepted S, isIdenticalExpr (some A) (some E) = true) ∨
            ∃ candidate ∈ candidates, candidate.stmt = some S ∧
              isIdenticalExpr (some candidate.expr) (some E) = true
  | _, [], _, _, mem => nomatch mem
  | accepted, (S?, E') :: calls, candidates, collected, mem => by
    simp only [referenceCalls] at collected
    rcases List.mem_cons.mp mem with head | later
    · obtain ⟨rfl, rfl⟩ := Prod.mk.inj head
      rw [if_pos checks.admitted] at collected
      obtain ⟨rest, -, rfl⟩ := Fault.map_eq_ok collected
      by_cases valid : referenceIsValidExpr processedExprs accepted S E = true
      · exact .inl (by simp [valid])
      · have duplicate : (accepted S).any (fun A => isIdenticalExpr (some A) (some E)) = true := by
          simpa [referenceIsValidExpr, checks.notRejectedLocally, checks.notWritten,
            checks.notCaptured] using valid
        exact .inr (.inl (List.any_eq_true.mp duplicate))
    split at collected
    · cases S? with
      | none => cases collected
      | some S' =>
        obtain ⟨rest, restOk, rfl⟩ := Fault.map_eq_ok collected
        have kept : ∀ candidate ∈ rest, candidate ∈
            (if referenceIsValidExpr processedExprs accepted S' E' = true then
              (⟨some func, some S', E'⟩ : Candidate) :: rest else rest) := by
          intro candidate mem; split <;> simp [mem]
        rcases referenceCalls_complete checks restOk later with
          found | ⟨A, recorded, same⟩ | ⟨candidate, found, stmt, same⟩
        · exact .inl (kept _ found)
        · unfold referenceAccept at recorded
          split at recorded
          · next valid =>
            rcases mem_update_append.mp recorded with earlier | ⟨rfl, rfl⟩
            · exact .inr (.inl ⟨A, earlier, same⟩)
            · exact .inr (.inr ⟨⟨some func, some S, A⟩, by simp [valid], rfl, same⟩)
          · exact .inr (.inl ⟨A, recorded, same⟩)
        · exact .inr (.inr ⟨candidate, kept _ found, stmt, same⟩)
    · exact referenceCalls_complete checks collected later

/-- The reference collection over a program holds the candidates of each of its
`FunctionDecl`s. -/
theorem referenceCollect_visit {visit : FunctionVisit} :
    ∀ {visits : List FunctionVisit} {candidates : List Candidate},
      referenceCollect isInIncludedFile visits = .ok candidates → visit ∈ visits →
        ∃ own, referenceVisit isInIncludedFile visit = .ok own ∧ ∀ candidate ∈ own,
          candidate ∈ candidates
  | [], _, _, mem => nomatch mem
  | first :: visits, _, collected, mem => by
    rw [referenceCollect] at collected
    obtain ⟨firstCandidates, firstOk, collected⟩ := Fault.bind_eq_ok collected
    obtain ⟨rest, restOk, collected⟩ := Fault.bind_eq_ok collected
    cases collected
    rcases List.mem_cons.mp mem with rfl | mem
    · exact ⟨firstCandidates, firstOk, fun _ found => List.mem_append_left _ found⟩
    · obtain ⟨own, ownOk, included⟩ := referenceCollect_visit restOk mem
      exact ⟨own, ownOk, fun candidate found => List.mem_append_right _ (included candidate found)⟩

/-- **The collection misses no valid expression**: in a C program, every `VisitExpr` call of a
function definition of the main file whose expression passes the checks needing no table,
against the definition's capture temporaries, is a candidate, or is identical to a candidate
of the same function and statement. With `select_unit_candidates_sound` this says what the
candidates are: the valid calls, less the later copies within a statement. -/
theorem select_unit_candidates_complete (unit : TranslationUnit) (checkReference : Bool)
    {candidates : List Candidate} {visitor : VisitorState}
    (selected : select isInIncludedFile unit.events (unit.start checkReference).visitor =
      .ok (candidates, visitor))
    (visit : FunctionVisit) (visited : visit ∈ unit.topLevelDecls.flatten)
    (inMainFile : visit.func.isInIncludedFile = false)
    (definition : visit.func.isThisDeclarationADefinition = true)
    (S : Stmt) (E : Expr) (call : (some S, E) ∈ visit.calls)
    (checks : PassesStatelessChecks isInIncludedFile
      (ExprDetectorTempVarVisitor.traverseDecl visit.func fun _ => none) S E) :
    ⟨some visit.func, some S, E⟩ ∈ candidates ∨
      ∃ candidate ∈ candidates, candidate.func = some visit.func ∧ candidate.stmt = some S ∧
        isIdenticalExpr (some candidate.expr) (some E) = true := by
  have refined := select_unit_eq_referenceCollect isInIncludedFile unit checkReference
  rw [selected] at refined
  obtain ⟨own, ownOk, included⟩ := referenceCollect_visit isInIncludedFile refined.symm visited
  rw [referenceVisit, if_neg (by simp [inMainFile, definition])] at ownOk
  rcases referenceCalls_complete isInIncludedFile checks ownOk call with
    found | ⟨_, recorded, -⟩ | ⟨candidate, found, stmt, same⟩
  · exact .inl (included _ found)
  · exact absurd recorded (List.not_mem_nil _)
  · exact .inr ⟨candidate, included _ found,
      (referenceCalls_sound isInIncludedFile ownOk candidate found).1, stmt, same⟩

theorem select_unit_candidates_complete_sumLoop :
    ∃ candidates visitor,
      select (fun _ => false) sumLoopUnit.events (sumLoopUnit.start false).visitor =
          .ok (candidates, visitor) ∧
        (⟨some sumLoopFunction, some sumLoopStep, sumLoopIRef⟩ ∈ candidates ∨
          ∃ candidate ∈ candidates, candidate.func = some sumLoopFunction ∧
            candidate.stmt = some sumLoopStep ∧
            isIdenticalExpr (some candidate.expr) (some sumLoopIRef) = true) :=
  ⟨_, _, rfl, select_unit_candidates_complete (fun _ => false) sumLoopUnit false rfl
    (FunctionVisit.ofFunctionDecl sumLoopFunction) (List.mem_singleton_self _) rfl rfl
    sumLoopStep sumLoopIRef (by decide) ⟨rfl, rfl, by decide, rfl⟩⟩

/-! ## Loop clauses -/

/-- A statement with loop clauses is a loop, and `isValidExpr` rejects every expression
under it. -/
theorem rejectsLocally_of_loopClause {L : Stmt} {E' : Expr} (clause : E' ∈ L.loopClauseExprs)
    (E : Expr) : rejectsLocally L E = true := by
  cases L <;> simp_all [Stmt.loopClauseExprs, rejectsLocally, Stmt.getStmtClass]

open CommonStatementVisitor in
/-- **No candidate is drawn from the clauses of a loop**: in a C program whose functions are
traversed by the statement visitor, for every loop of a definition's body whose expression
nodes are distinct, no candidate of that definition is an expression of the loop's
initializer, condition or increment. The visitor makes the loop `CurrentStmt` for its
clauses, the filter rejects every expression under a loop, and a node is visited once. -/
theorem select_unit_not_loopClause (unit : TranslationUnit) (checkReference : Bool)
    (walked : ∀ visit ∈ unit.topLevelDecls.flatten,
      visit.calls = ExprDetectorStmtVisitor.traverseDecl visit.func)
    {candidates : List Candidate} {visitor : VisitorState}
    (selected : select isInIncludedFile unit.events (unit.start checkReference).visitor =
      .ok (candidates, visitor))
    (FD : FunctionDecl) {body : Stmt} (defined : FD.body = some body)
    (distinct : body.exprs.Nodup) {L : Stmt} (within : L.Within body)
    (cInit : L.hasCForInit = true) :
    ∀ candidate ∈ candidates, candidate.func = some FD → candidate.expr ∉ L.loopClauseExprs := by
  intro candidate mem named clause
  obtain ⟨visit, visitMem, -, -, func, S, stmt, call, checks⟩ :=
    select_unit_candidate_fromCalls isInIncludedFile unit checkReference selected candidate mem
  obtain rfl : visit.func = FD := Option.some.inj (func.symm.trans named)
  rw [walked visit visitMem, ExprDetectorStmtVisitor.traverseDecl, defined, Option.map_some',
    Option.getD_some, List.mem_append] at call
  rcases call with declarator | inBody
  · exact Option.some_ne_none S (mem_map_pair declarator).1
  · have loopCall := traverseStmt_within within (traverseStmt_loopClause cInit clause) none
    have visitedOnce : ((traverseStmt none body).map Prod.snd).Nodup :=
      (traverseStmt_perm none body).nodup_iff.mpr distinct
    obtain rfl : S = L :=
      Option.some.inj (Prod.mk.inj (List.inj_on_of_nodup_map visitedOnce inBody loopCall rfl)).1
    exact Bool.false_ne_true
      (checks.notRejectedLocally.symm.trans (rejectsLocally_of_loopClause clause candidate.expr))

theorem select_unit_not_loopClause_sumLoop :
    ∃ candidates visitor,
      select (fun _ => false) sumLoopUnit.events (sumLoopUnit.start false).visitor =
          .ok (candidates, visitor) ∧
        ∀ candidate ∈ candidates, candidate.func = some sumLoopFunction →
          candidate.expr ∉ sumLoop.loopClauseExprs :=
  ⟨_, _, rfl, select_unit_not_loopClause (fun _ => false) sumLoopUnit false
    (fun _ walked => by rw [List.mem_singleton.mp walked]; rfl) rfl
    sumLoopFunction rfl (by decide) (.single (List.mem_singleton_self _)) rfl⟩

end Sound

/-! ## Function by function -/

section Functionwise

variable (isInIncludedFile : Expr → Bool)

theorem referenceCollect_eq_mapM :
    ∀ visits : List FunctionVisit, referenceCollect isInIncludedFile visits =
      List.flatten <$> visits.mapM (referenceVisit isInIncludedFile)
  | [] => rfl
  | visit :: visits => by
    rw [referenceCollect, referenceCollect_eq_mapM visits, List.mapM_cons]
    cases referenceVisit isInIncludedFile visit with
    | error fault => rfl
    | ok first => cases visits.mapM (referenceVisit isInIncludedFile) <;> rfl

/-- **The collection runs function by function**: over any C program the selection yields, in
order, the candidates each function definition yields when it is the whole program, and fails
where the first of them fails. The memo tables that persist from one function to the next,
and what `HFInfo` has noted, never change a decision. -/
theorem select_unit_functionwise (unit : TranslationUnit) (checkReference : Bool) :
    Prod.fst <$> select isInIncludedFile unit.events (unit.start checkReference).visitor =
      List.flatten <$> unit.topLevelDecls.flatten.mapM fun visit =>
        Prod.fst <$>
          select isInIncludedFile visit.events (VisitorState.initial checkReference) := by
  have alone : (fun visit : FunctionVisit => Prod.fst <$>
      select isInIncludedFile visit.events (VisitorState.initial checkReference)) =
        referenceVisit isInIncludedFile :=
    funext fun visit => (select_functionVisit_referenceVisit isInIncludedFile visit
      ⟨rfl, Caches.empty_sound, rfl, rfl⟩).1
  rw [select_unit_eq_referenceCollect, alone, referenceCollect_eq_mapM]

end Functionwise

end ClangDelta
