import ExpressionDetector.Reference

/-!
# The collection phase

While Clang parses, `HandleTopLevelDecl` hands every top-level declaration to the collection
visitor. For each `FunctionDecl` it reaches, `VisitFunctionDecl` notes whether it declares
the reporting function; for a definition in the main file it then records the function's
capture temporaries and runs the statement visitor, whose `VisitExpr` filters every
expression it reaches and counts the accepted ones in `ValidInstanceNum`, latching
`TheFunc`, `TheStmt` and `TheExpr` when the count reaches the requested counter. At the end
of the function the per-function tables are cleared.

The model is a run over the events of that traversal (`Event`, `run`). The state splits in
two: what the counter can influence (`Counting`) and everything else (`VisitorState`). The
second evolves without reading the first, so a run is a selection of candidates that does not
depend on the counter (`select`), followed by a fold that counts them (`run_eq_select`). The
fold has a closed form (`Counting.foldl_count_validInstanceNum`,
`Counting.foldl_count_latch`): after the `K` candidates of a run from the initial counting,
`ValidInstanceNum = K`, and the latch holds the `c`-th candidate when `c ≤ K` and nothing
otherwise. Once set, the latch is never overwritten (`run_latch_stable`). A run fails only
where `isValidExpr` dereferences a null statement (`run_fault`). Of `HFInfo`, a run sets only
`HasFunction` and `FunctionLoc`, at the first `FunctionDecl` named as the reporting function
(`select_hfInfo`).

The `VisitExpr` calls of one function select exactly what a run of the filter alone accepts
(`select_calls_acceptedQueries`), so the filter's deduplication carries over to the run:
within one function no two candidates of one statement are identical
(`functionVisit_candidates_pairwise_not_identical`).
-/

set_option autoImplicit false

namespace ClangDelta

/-- What stops the pass: a dereferenced null pointer, or a failed `TransAssert`. -/
inductive Fault
  | nullDereference (pointer : String)
  | transAssert (message : String)
  deriving DecidableEq, Repr

theorem Fault.map_eq_ok {α β : Type} {x : Except Fault α} {f : α → β} {r : β}
    (ok : f <$> x = .ok r) : ∃ a, x = .ok a ∧ f a = r := by
  cases x with
  | error fault => cases ok
  | ok a => cases ok; exact ⟨a, rfl, rfl⟩

theorem Fault.map_eq_error {α β : Type} {x : Except Fault α} {f : α → β} {fault : Fault}
    (failed : f <$> x = .error fault) : x = .error fault := by
  cases x with
  | error fault' => cases failed; rfl
  | ok a => cases failed

theorem Fault.bind_eq_ok {α β : Type} {x : Except Fault α} {f : α → Except Fault β} {r : β}
    (ok : x >>= f = .ok r) : ∃ a, x = .ok a ∧ f a = .ok r := by
  cases x with
  | error fault => cases ok
  | ok a => exact ⟨a, rfl, ok⟩

theorem Fault.bind_eq_error {α β : Type} {x : Except Fault α} {f : α → Except Fault β}
    {fault : Fault} (failed : x >>= f = .error fault) :
    x = .error fault ∨ ∃ a, x = .ok a ∧ f a = .error fault := by
  cases x with
  | error fault' => cases failed; exact .inl rfl
  | ok a => exact .inr ⟨a, rfl, failed⟩

/-! ## The reporting function -/

/-- `HFInfo`: the reporting function of the mode and its header, and whether and where the
main file already declares or includes them. -/
structure HFInfo where
  headerName : String
  functionName : String
  functionDeclStr : String
  hasHeader : Bool
  headerLoc : Nat
  hasFunction : Bool
  functionLoc : Nat
  deriving DecidableEq, Repr

/-- Modelled from the spec: `HasHeader` and `HasFunction` start false, since the header that
declares them is not among the sources; the names are those `ExpressionDetector::Initialize`
sets, `abort` from `stdlib.h` in reference mode and `printf` from `stdio.h` in print mode. -/
def HFInfo.initial (checkReference : Bool) : HFInfo :=
  if checkReference then ⟨"stdlib.h", "abort", "void abort(void)", false, 0, false, 0⟩
  else ⟨"stdio.h", "printf", "int printf(const char *format, ...)", false, 0, false, 0⟩

/-- `IncludesPPCallbacks::InclusionDirective`: the first `#include` of the header in the main
file is remembered with its location. -/
def HFInfo.inclusionDirective (hfInfo : HFInfo) (hashLoc : Nat) (isInMainFile : Bool)
    (fileName : String) : HFInfo :=
  if !isInMainFile then hfInfo
  else if !hfInfo.hasHeader && fileName == hfInfo.headerName then
    { hfInfo with hasHeader := true, headerLoc := hashLoc }
  else hfInfo

/-- Where `HeaderLoc` records the header's inclusion, once `HasHeader` is set. -/
def HFInfo.headerLoc? (hfInfo : HFInfo) : Option Nat :=
  if hfInfo.hasHeader then some hfInfo.headerLoc else none

/-- Where `FunctionLoc` records the reporting function's declaration, once `HasFunction` is
set. -/
def HFInfo.functionLoc? (hfInfo : HFInfo) : Option Nat :=
  if hfInfo.hasFunction then some hfInfo.functionLoc else none

/-- An `#include` sets only the header's fields, and only when it is the first inclusion of
the header in the main file. -/
theorem HFInfo.inclusionDirective_spec (hfInfo : HFInfo) (hashLoc : Nat) (isInMainFile : Bool)
    (fileName : String) :
    (∃ hasHeader headerLoc, hfInfo.inclusionDirective hashLoc isInMainFile fileName =
      { hfInfo with hasHeader := hasHeader, headerLoc := headerLoc }) ∧
    (hfInfo.inclusionDirective hashLoc isInMainFile fileName).headerLoc? =
      hfInfo.headerLoc?.or
        (if isInMainFile && fileName == hfInfo.headerName then some hashLoc else none) := by
  obtain ⟨headerName, functionName, functionDeclStr, hasHeader, headerLoc, hasFunction,
    functionLoc⟩ := hfInfo
  cases isInMainFile <;> cases hasHeader <;> by_cases named : fileName = headerName <;>
    simp [HFInfo.inclusionDirective, HFInfo.headerLoc?, named]

/-! ## Counting -/

/-- `ValidInstanceNum` and the latched `TheFunc`, `TheStmt` and `TheExpr`. -/
structure Counting where
  validInstanceNum : Nat
  theFunc : Option FunctionDecl
  theStmt : Option Stmt
  theExpr : Option Expr

/-- An accepted `VisitExpr` call: the statement visitor's `CurrentFuncDecl` and
`CurrentStmt`, and the expression. -/
structure Candidate where
  func : Option FunctionDecl
  stmt : Option Stmt
  expr : Expr
  deriving DecidableEq

/-- The `VisitExpr` call a candidate comes from. -/
def Candidate.call (candidate : Candidate) : Option Stmt × Expr :=
  (candidate.stmt, candidate.expr)

/-- The triple a candidate latches. -/
def Candidate.latch (candidate : Candidate) : Option FunctionDecl × Option Stmt × Option Expr :=
  (candidate.func, candidate.stmt, some candidate.expr)

namespace Counting

/-- Modelled from the spec: the pass starts with no candidate counted and nothing latched;
the constructor that initialises the members is not among the sources. -/
def initial : Counting := ⟨0, none, none, none⟩

/-- The latched triple. -/
def latch (counting : Counting) : Option FunctionDecl × Option Stmt × Option Expr :=
  (counting.theFunc, counting.theStmt, counting.theExpr)

/-- `ValidInstanceNum++`, then the latch when it equals `TransformationCounter`. -/
def count (counter : Nat) (counting : Counting) (candidate : Candidate) : Counting :=
  let validInstanceNum := counting.validInstanceNum + 1
  if validInstanceNum = counter then
    ⟨validInstanceNum, candidate.func, candidate.stmt, some candidate.expr⟩
  else { counting with validInstanceNum }

@[simp] theorem count_validInstanceNum (counter : Nat) (counting : Counting)
    (candidate : Candidate) :
    (counting.count counter candidate).validInstanceNum = counting.validInstanceNum + 1 := by
  unfold count; dsimp only; split_ifs <;> rfl

theorem count_latch (counter : Nat) (counting : Counting) (candidate : Candidate) :
    (counting.count counter candidate).latch =
      if counting.validInstanceNum + 1 = counter then candidate.latch else counting.latch := by
  unfold count; dsimp only; split_ifs <;> rfl

theorem foldl_count_validInstanceNum (counter : Nat) :
    ∀ (candidates : List Candidate) (counting : Counting),
      (candidates.foldl (count counter) counting).validInstanceNum =
        counting.validInstanceNum + candidates.length
  | [], _ => rfl
  | _ :: candidates, counting => by
    rw [List.foldl_cons, foldl_count_validInstanceNum counter candidates, count_validInstanceNum,
      List.length_cons]
    omega

/-- After counting `candidates`, the latch holds the `counter`-th candidate overall when it
is among them, and what it held before otherwise. -/
theorem foldl_count_latch (counter : Nat) :
    ∀ (candidates : List Candidate) (counting : Counting),
      (candidates.foldl (count counter) counting).latch =
        if counting.validInstanceNum < counter then
          ((candidates[counter - counting.validInstanceNum - 1]?).map Candidate.latch).getD
            counting.latch
        else counting.latch
  | [], counting => by split <;> simp
  | candidate :: candidates, counting => by
    rw [List.foldl_cons, foldl_count_latch counter candidates, count_validInstanceNum,
      count_latch]
    by_cases reached : counting.validInstanceNum + 1 = counter
    · have first : counter - counting.validInstanceNum - 1 = 0 := by omega
      simp [reached, first, show counting.validInstanceNum < counter by omega]
    · by_cases before : counting.validInstanceNum + 1 < counter
      · have index : counter - counting.validInstanceNum - 1 =
            counter - (counting.validInstanceNum + 1) - 1 + 1 := by omega
        simp only [before, reached, if_true, if_false, index, List.getElem?_cons_succ]
        rw [if_pos (by omega)]
      · simp only [before, reached, if_false]
        rw [if_neg (by omega)]

/-- Counting keeps this invariant: a latch is set only once the count has reached the
counter. -/
theorem foldl_count_reached (counter : Nat) :
    ∀ (candidates : List Candidate) (counting : Counting),
      (counting.theExpr.isSome → counter ≤ counting.validInstanceNum) →
        (candidates.foldl (count counter) counting).theExpr.isSome →
          counter ≤ (candidates.foldl (count counter) counting).validInstanceNum
  | [], _, reached => reached
  | candidate :: candidates, counting, reached => by
    refine foldl_count_reached counter candidates _ fun latched => ?_
    rw [count_validInstanceNum]
    unfold count at latched
    dsimp only at latched
    split_ifs at latched with equal
    · omega
    · exact Nat.le_succ_of_le (reached latched)

end Counting

/-! ## The visitor's state -/

/-- The rest of the state: the statement visitor's `CurrentFuncDecl`, the filter's tables
and `HFInfo`. -/
structure VisitorState where
  currentFuncDecl : Option FunctionDecl
  caches : Caches
  hfInfo : HFInfo

namespace VisitorState

/-- The pass before the first declaration. -/
def initial (checkReference : Bool) : VisitorState :=
  ⟨none, Caches.empty, HFInfo.initial checkReference⟩

/-- `ExprDetectorCollectionVisitor::VisitFunctionDecl` up to the statement traversal: note
the first declaration of the reporting function; skip a declaration that is in an included
file or is not a definition; otherwise record the function's capture temporaries and make
it the statement visitor's `CurrentFuncDecl`. -/
def visitFunctionDecl (FD : FunctionDecl) (visitor : VisitorState) : VisitorState :=
  let hfInfo :=
    if !visitor.hfInfo.hasFunction && FD.decl.name == visitor.hfInfo.functionName then
      { visitor.hfInfo with hasFunction := true, functionLoc := FD.loc }
    else visitor.hfInfo
  if FD.isInIncludedFile || !FD.isThisDeclarationADefinition then { visitor with hfInfo }
  else
    { visitor with
      hfInfo
      currentFuncDecl := some FD
      caches := { visitor.caches with
        processedExprs := ExprDetectorTempVarVisitor.traverseDecl FD visitor.caches.processedExprs } }

theorem visitFunctionDecl_currentFuncDecl (FD : FunctionDecl) (visitor : VisitorState) :
    (visitor.visitFunctionDecl FD).currentFuncDecl =
      if FD.isInIncludedFile || !FD.isThisDeclarationADefinition then visitor.currentFuncDecl
      else some FD := by
  unfold visitFunctionDecl; split_ifs <;> rfl

/-- `VisitFunctionDecl` sets `ProcessedExprs` to the capture temporaries of a definition in
the main file, and leaves the other tables. -/
theorem visitFunctionDecl_caches (FD : FunctionDecl) (visitor : VisitorState) :
    (visitor.visitFunctionDecl FD).caches =
      if FD.isInIncludedFile || !FD.isThisDeclarationADefinition then visitor.caches
      else { visitor.caches with
        processedExprs :=
          ExprDetectorTempVarVisitor.traverseDecl FD visitor.caches.processedExprs } := by
  unfold visitFunctionDecl; split_ifs <;> rfl

/-- `VisitFunctionDecl` sets only the reporting function's fields, and only when `FD` is its
first declaration. -/
theorem visitFunctionDecl_hfInfo (FD : FunctionDecl) (visitor : VisitorState) :
    (∃ hasFunction functionLoc, (visitor.visitFunctionDecl FD).hfInfo =
      { visitor.hfInfo with hasFunction := hasFunction, functionLoc := functionLoc }) ∧
    (visitor.visitFunctionDecl FD).hfInfo.functionLoc? =
      visitor.hfInfo.functionLoc?.or
        (if FD.decl.name == visitor.hfInfo.functionName then some FD.loc else none) := by
  have noted : (visitor.visitFunctionDecl FD).hfInfo =
      if !visitor.hfInfo.hasFunction && FD.decl.name == visitor.hfInfo.functionName then
        { visitor.hfInfo with hasFunction := true, functionLoc := FD.loc }
      else visitor.hfInfo := by
    unfold visitFunctionDecl; split_ifs <;> rfl
  rw [noted]
  obtain ⟨headerName, functionName, functionDeclStr, hasHeader, headerLoc, hasFunction,
    functionLoc⟩ := visitor.hfInfo
  cases hasFunction <;> by_cases named : FD.decl.name = functionName <;>
    simp [HFInfo.functionLoc?, named]

/-- The end of `VisitFunctionDecl`: `setCurrentFunctionDecl(NULL)`, then `UniqueExprs` and
`ProcessedExprs` cleared. -/
def endFunctionDecl (visitor : VisitorState) : VisitorState :=
  { visitor with
    currentFuncDecl := none
    caches := { visitor.caches with uniqueExprs := fun _ => [], processedExprs := fun _ => none } }

end VisitorState

/-- The state of the collection phase. -/
structure CollectionState where
  counting : Counting
  visitor : VisitorState

/-- The classes the `switch` of `VisitExpr` lets through. -/
def StmtClass.isCandidateClass : StmtClass → Bool
  | arraySubscriptExpr | binaryOperator | callExpr | declRefExpr | memberExpr
  | unaryOperator => true
  | _ => false

/-- The events of the collection phase, in traversal order. -/
inductive Event
  /-- `VisitFunctionDecl` reaches a `FunctionDecl`. -/
  | visitFunctionDecl (FD : FunctionDecl)
  /-- `ExprDetectorStmtVisitor::VisitExpr(E)` while `CurrentStmt` is `S`. -/
  | visitExpr (S : Option Stmt) (E : Expr)
  /-- `VisitFunctionDecl` returns after the statement traversal. -/
  | endFunctionDecl

/-- A `FunctionDecl` the collection visitor reaches, with the `VisitExpr` calls its statement
visitor makes: `CurrentStmt` and the expression, in order. -/
structure FunctionVisit where
  func : FunctionDecl
  calls : List (Option Stmt × Expr)

/-- The events of one `VisitFunctionDecl`: the statement traversal runs only for a definition
in the main file. -/
def FunctionVisit.events (visit : FunctionVisit) : List Event :=
  .visitFunctionDecl visit.func ::
    if visit.func.isInIncludedFile || !visit.func.isThisDeclarationADefinition then []
    else visit.calls.map (fun call => .visitExpr call.1 call.2) ++ [.endFunctionDecl]

section Run

variable (isInIncludedFile : Expr → Bool)

/-- `VisitExpr` up to and including `isValidExpr`: whether `E` is accepted, and the tables
after. `isValidExpr` dereferences `S` at once. -/
def acceptExpr (S : Option Stmt) (E : Expr) (caches : Caches) : Except Fault (Bool × Caches) :=
  if isInIncludedFile E then pure (false, caches)
  else if !E.getStmtClass.isCandidateClass then pure (false, caches)
  else if !E.type.isIntegerType && !E.type.isFloatingType then pure (false, caches)
  else match S with
    | none => throw (.nullDereference "S")
    | some S => pure (isValidExpr S E caches)

/-- `ExprDetectorStmtVisitor::VisitExpr(E)` while `CurrentStmt` is `S`. -/
def visitExpr (counter : Nat) (S : Option Stmt) (E : Expr) (st : CollectionState) :
    Except Fault CollectionState := do
  let (valid, caches) ← acceptExpr isInIncludedFile S E st.visitor.caches
  let visitor := { st.visitor with caches }
  if valid then return ⟨st.counting.count counter ⟨visitor.currentFuncDecl, S, E⟩, visitor⟩
  else return ⟨st.counting, visitor⟩

/-- One event of the collection phase. -/
def step (counter : Nat) : Event → CollectionState → Except Fault CollectionState
  | .visitFunctionDecl FD, st => pure { st with visitor := st.visitor.visitFunctionDecl FD }
  | .visitExpr S E, st => visitExpr isInIncludedFile counter S E st
  | .endFunctionDecl, st => pure { st with visitor := st.visitor.endFunctionDecl }

/-- The collection phase over a sequence of events. -/
def run (counter : Nat) : List Event → CollectionState → Except Fault CollectionState
  | [], st => pure st
  | event :: events, st => step isInIncludedFile counter event st >>= run counter events

/-- One event without the counting: the candidate it yields, if any, and the visitor state
after. -/
def selectStep : Event → VisitorState → Except Fault (Option Candidate × VisitorState)
  | .visitFunctionDecl FD, visitor => pure (none, visitor.visitFunctionDecl FD)
  | .visitExpr S E, visitor => do
    let (valid, caches) ← acceptExpr isInIncludedFile S E visitor.caches
    return (if valid then some ⟨visitor.currentFuncDecl, S, E⟩ else none, { visitor with caches })
  | .endFunctionDecl, visitor => pure (none, visitor.endFunctionDecl)

/-- A run without the counting: the accepted candidates in order, and the visitor state
after. -/
def select : List Event → VisitorState → Except Fault (List Candidate × VisitorState)
  | [], visitor => pure ([], visitor)
  | event :: events, visitor => do
    let (candidate, visitor) ← selectStep isInIncludedFile event visitor
    let (candidates, visitor) ← select events visitor
    return (candidate.toList ++ candidates, visitor)

/-- One event is its selection followed by the counting of what it selects. -/
theorem step_eq_selectStep (counter : Nat) (event : Event) (st : CollectionState) :
    step isInIncludedFile counter event st =
      (fun r => (⟨r.1.elim st.counting (st.counting.count counter), r.2⟩ : CollectionState)) <$>
        selectStep isInIncludedFile event st.visitor := by
  cases event with
  | visitFunctionDecl FD => rfl
  | endFunctionDecl => rfl
  | visitExpr S E =>
    simp only [step, visitExpr, selectStep]
    cases acceptExpr isInIncludedFile S E st.visitor.caches with
    | error fault => rfl
    | ok result =>
      obtain ⟨valid, caches⟩ := result
      cases valid <;> rfl

/-- **A run is the counter-free selection of its candidates, followed by their counting.** -/
theorem run_eq_select (counter : Nat) :
    ∀ (events : List Event) (st : CollectionState),
      run isInIncludedFile counter events st =
        (fun r => (⟨r.1.foldl (Counting.count counter) st.counting, r.2⟩ : CollectionState)) <$>
          select isInIncludedFile events st.visitor
  | [], _ => rfl
  | event :: events, st => by
    rw [run, step_eq_selectStep, select]
    cases selectStep isInIncludedFile event st.visitor with
    | error fault => rfl
    | ok selected =>
      obtain ⟨candidate, visitor⟩ := selected
      show run isInIncludedFile counter events
          ⟨candidate.elim st.counting (st.counting.count counter), visitor⟩ =
        (fun r => (⟨r.1.foldl (Counting.count counter) st.counting, r.2⟩ : CollectionState)) <$>
          (select isInIncludedFile events visitor >>= fun rest =>
            pure (candidate.toList ++ rest.1, rest.2))
      rw [run_eq_select counter events]
      cases select isInIncludedFile events visitor with
      | error fault => rfl
      | ok rest => cases candidate <;> rfl

theorem run_eq_ok {counter : Nat} {events : List Event} {st st' : CollectionState}
    (ran : run isInIncludedFile counter events st = .ok st') :
    ∃ candidates, select isInIncludedFile events st.visitor = .ok (candidates, st'.visitor) ∧
      st'.counting = candidates.foldl (Counting.count counter) st.counting := by
  rw [run_eq_select] at ran
  cases selected : select isInIncludedFile events st.visitor with
  | error fault => rw [selected] at ran; cases ran
  | ok result =>
    rw [selected] at ran
    cases ran
    exact ⟨result.1, rfl, rfl⟩

theorem run_append (counter : Nat) :
    ∀ (pre post : List Event) (st : CollectionState),
      run isInIncludedFile counter (pre ++ post) st =
        run isInIncludedFile counter pre st >>= run isInIncludedFile counter post
  | [], _, _ => rfl
  | event :: pre, post, st => by
    rw [List.cons_append, run, run]
    cases step isInIncludedFile counter event st with
    | error fault => rfl
    | ok st' => exact run_append counter pre post st'

/-- `VisitExpr` either rejects `E` before `isValidExpr`, leaving the tables, or is
`isValidExpr` on a statement. -/
theorem acceptExpr_eq_ok {S : Option Stmt} {E : Expr} {caches caches' : Caches} {valid : Bool}
    (accepted : acceptExpr isInIncludedFile S E caches = .ok (valid, caches')) :
    (valid = false ∧ caches' = caches) ∨
      ∃ S', S = some S' ∧ isValidExpr S' E caches = (valid, caches') := by
  unfold acceptExpr at accepted
  split_ifs at accepted
  iterate 3 (cases accepted; exact .inl ⟨rfl, rfl⟩)
  cases S with
  | none => cases accepted
  | some S => exact .inr ⟨S, rfl, Except.ok.inj accepted⟩

theorem acceptExpr_stmt_isSome {S : Option Stmt} {E : Expr} {caches caches' : Caches}
    (accepted : acceptExpr isInIncludedFile S E caches = .ok (true, caches')) : S.isSome := by
  rcases acceptExpr_eq_ok isInIncludedFile accepted with ⟨rejected, -⟩ | ⟨_, rfl, -⟩
  · cases rejected
  · rfl

/-- `VisitExpr` returns before `isValidExpr` on an expression of a class its `switch` skips. -/
theorem acceptExpr_of_not_candidate {S : Option Stmt} {E : Expr} (caches : Caches)
    (skipped : E.getStmtClass.isCandidateClass = false) :
    acceptExpr isInIncludedFile S E caches = .ok (false, caches) := by
  simp [acceptExpr, skipped]
  rfl

/-- `VisitExpr` returns before `isValidExpr` on an expression that is neither of integer nor
of floating type. -/
theorem acceptExpr_of_not_arithmetic {S : Option Stmt} {E : Expr} (caches : Caches)
    (notInteger : E.type.isIntegerType = false) (notFloating : E.type.isFloatingType = false) :
    acceptExpr isInIncludedFile S E caches = .ok (false, caches) := by
  simp [acceptExpr, notInteger, notFloating]
  rfl

/-- An expression a check of `isValidExpr` before its tables rejects is rejected, with the
tables unchanged. -/
theorem acceptExpr_of_rejectsLocally {S : Stmt} {E : Expr} (caches : Caches)
    (rejected : rejectsLocally S E = true) :
    acceptExpr isInIncludedFile (some S) E caches = .ok (false, caches) := by
  simp [acceptExpr, isValidExpr, rejected]
  rfl

/-- `VisitExpr` stops the pass only by dereferencing a null statement. -/
theorem acceptExpr_fault {S : Option Stmt} {E : Expr} {caches : Caches} {fault : Fault}
    (failed : acceptExpr isInIncludedFile S E caches = .error fault) :
    fault = .nullDereference "S" := by
  unfold acceptExpr at failed
  split_ifs at failed
  iterate 3 cases failed
  cases S with
  | none => cases failed; rfl
  | some S => cases failed

/-- The `VisitExpr` call an event is, if it is one. -/
def Event.call? : Event → Option (Option Stmt × Expr)
  | .visitExpr S E => some (S, E)
  | _ => none

/-- The `FunctionDecl` an event visits, if it is a `VisitFunctionDecl`. -/
def Event.functionDecl? : Event → Option FunctionDecl
  | .visitFunctionDecl FD => some FD
  | _ => none

/-- What a `VisitExpr` event does: `acceptExpr`, then the candidate when it accepts, with the
tables it leaves. -/
theorem selectStep_visitExpr_ok {S : Option Stmt} {E : Expr} {visitor visitor' : VisitorState}
    {candidate? : Option Candidate}
    (selected : selectStep isInIncludedFile (.visitExpr S E) visitor = .ok (candidate?, visitor')) :
    ∃ valid caches, acceptExpr isInIncludedFile S E visitor.caches = .ok (valid, caches) ∧
      candidate? = (if valid then some ⟨visitor.currentFuncDecl, S, E⟩ else none) ∧
      visitor' = { visitor with caches } := by
  simp only [selectStep] at selected
  cases accepted : acceptExpr isInIncludedFile S E visitor.caches with
  | error fault => rw [accepted] at selected; cases selected
  | ok result =>
    rw [accepted] at selected
    obtain ⟨valid, caches⟩ := result
    cases selected
    exact ⟨valid, caches, rfl, rfl, rfl⟩

/-- What one event selects: a candidate only from a `VisitExpr` call with a statement, made
of that call and the current function. -/
theorem selectStep_candidate {event : Event} {visitor visitor' : VisitorState}
    {candidate : Candidate}
    (selected : selectStep isInIncludedFile event visitor = .ok (some candidate, visitor')) :
    candidate.func = visitor.currentFuncDecl ∧ candidate.stmt.isSome ∧
      event.call? = some candidate.call := by
  cases event with
  | visitFunctionDecl FD => cases selected
  | endFunctionDecl => cases selected
  | visitExpr S E =>
    obtain ⟨valid, caches, accepted, chosen, -⟩ := selectStep_visitExpr_ok isInIncludedFile selected
    cases valid
    · cases chosen
    · cases chosen
      exact ⟨rfl, acceptExpr_stmt_isSome isInIncludedFile accepted, rfl⟩

/-- A `VisitExpr` call leaves the current function as it was. -/
theorem selectStep_visitExpr_currentFuncDecl {S : Option Stmt} {E : Expr}
    {visitor visitor' : VisitorState} {candidate? : Option Candidate}
    (selected : selectStep isInIncludedFile (.visitExpr S E) visitor = .ok (candidate?, visitor')) :
    visitor'.currentFuncDecl = visitor.currentFuncDecl := by
  obtain ⟨_, _, -, -, rfl⟩ := selectStep_visitExpr_ok isInIncludedFile selected
  rfl

theorem selectStep_fault {event : Event} {visitor : VisitorState} {fault : Fault}
    (failed : selectStep isInIncludedFile event visitor = .error fault) :
    fault = .nullDereference "S" := by
  cases event with
  | visitFunctionDecl FD => cases failed
  | endFunctionDecl => cases failed
  | visitExpr S E =>
    simp only [selectStep] at failed
    cases accepted : acceptExpr isInIncludedFile S E visitor.caches with
    | error acceptFault =>
      rw [accepted] at failed
      cases failed
      exact acceptExpr_fault isInIncludedFile accepted
    | ok result => rw [accepted] at failed; cases failed

/-- **The collection phase stops only by dereferencing a null statement.** -/
theorem select_fault :
    ∀ {events : List Event} {visitor : VisitorState} {fault : Fault},
      select isInIncludedFile events visitor = .error fault → fault = .nullDereference "S"
  | [], _, _, failed => by cases failed
  | event :: events, visitor, fault, failed => by
    simp only [select, bind, Except.bind] at failed
    split at failed
    · next stepFailed => cases failed; exact selectStep_fault isInIncludedFile stepFailed
    · split at failed
      · next restFailed => cases failed; exact select_fault restFailed
      · cases failed

/-- The collection phase stops only by dereferencing a null statement. -/
theorem run_fault (counter : Nat) {events : List Event} {st : CollectionState} {fault : Fault}
    (failed : run isInIncludedFile counter events st = .error fault) :
    fault = .nullDereference "S" := by
  rw [run_eq_select] at failed
  exact select_fault isInIncludedFile (Fault.map_eq_error failed)

/-- A selection over `event :: events` is one step followed by the rest. -/
theorem select_cons_ok {event : Event} {events : List Event} {visitor visitor'' : VisitorState}
    {candidates : List Candidate}
    (selected : select isInIncludedFile (event :: events) visitor = .ok (candidates, visitor'')) :
    ∃ candidate? visitor' rest,
      selectStep isInIncludedFile event visitor = .ok (candidate?, visitor') ∧
        select isInIncludedFile events visitor' = .ok (rest, visitor'') ∧
          candidates = candidate?.toList ++ rest := by
  simp only [select, bind, Except.bind] at selected
  split at selected
  · cases selected
  · next first =>
    split at selected
    · cases selected
    · next rest =>
      cases selected
      exact ⟨_, _, _, first, rest, rfl⟩

theorem select_append_ok :
    ∀ {pre post : List Event} {visitor visitor'' : VisitorState} {candidates : List Candidate},
      select isInIncludedFile (pre ++ post) visitor = .ok (candidates, visitor'') →
        ∃ first visitor' rest, select isInIncludedFile pre visitor = .ok (first, visitor') ∧
          select isInIncludedFile post visitor' = .ok (rest, visitor'') ∧
            candidates = first ++ rest
  | [], _, _, _, _, selected => ⟨[], _, _, rfl, selected, rfl⟩
  | _ :: pre, _, _, _, _, selected => by
    obtain ⟨candidate?, visitor₁, later, first, rest, rfl⟩ :=
      select_cons_ok isInIncludedFile selected
    obtain ⟨middle, visitor', last, middleOk, lastOk, rfl⟩ := select_append_ok rest
    refine ⟨candidate?.toList ++ middle, visitor', last, ?_, lastOk, by rw [List.append_assoc]⟩
    simp only [select, first, bind, Except.bind, middleOk]
    rfl

/-- The candidates of a selection are among its `VisitExpr` calls, in order, and each has a
statement. -/
theorem select_candidates :
    ∀ {events : List Event} {visitor visitor' : VisitorState} {candidates : List Candidate},
      select isInIncludedFile events visitor = .ok (candidates, visitor') →
        (candidates.map Candidate.call).Sublist (events.filterMap Event.call?) ∧
          ∀ candidate ∈ candidates, candidate.stmt.isSome
  | [], _, _, _, selected => by
    cases selected
    exact ⟨List.Sublist.slnil, fun _ mem => absurd mem (List.not_mem_nil _)⟩
  | event :: events, _, _, _, selected => by
    obtain ⟨candidate?, visitor', rest, first, later, rfl⟩ :=
      select_cons_ok isInIncludedFile selected
    obtain ⟨sublist, named⟩ := select_candidates later
    cases candidate? with
    | none =>
      exact ⟨sublist.trans ((List.sublist_cons_self event events).filterMap _), named⟩
    | some candidate =>
      obtain ⟨-, stmtSome, call⟩ := selectStep_candidate isInIncludedFile first
      refine ⟨?_, fun other mem => ?_⟩
      · rw [List.filterMap_cons, call]
        exact sublist.cons₂ _
      · rcases List.mem_cons.mp mem with rfl | mem
        · exact stmtSome
        · exact named other mem

/-- Over a run of `VisitExpr` calls the current function stays, and every candidate names
it. -/
theorem select_calls_func :
    ∀ {calls : List (Option Stmt × Expr)} {visitor visitor' : VisitorState}
      {candidates : List Candidate},
      select isInIncludedFile (calls.map fun call => .visitExpr call.1 call.2) visitor =
          .ok (candidates, visitor') →
        visitor'.currentFuncDecl = visitor.currentFuncDecl ∧
          ∀ candidate ∈ candidates, candidate.func = visitor.currentFuncDecl
  | [], _, _, _, selected => by
    cases selected
    exact ⟨rfl, fun _ mem => absurd mem (List.not_mem_nil _)⟩
  | _ :: _, _, _, _, selected => by
    obtain ⟨candidate?, visitor₁, rest, first, later, rfl⟩ :=
      select_cons_ok isInIncludedFile selected
    have stays := selectStep_visitExpr_currentFuncDecl isInIncludedFile first
    obtain ⟨staysLater, named⟩ := select_calls_func later
    refine ⟨staysLater.trans stays, fun candidate mem => ?_⟩
    rcases List.mem_append.mp mem with mem | mem
    · cases candidate? with
      | none => cases mem
      | some c =>
        obtain rfl := List.mem_singleton.mp mem
        exact (selectStep_candidate isInIncludedFile first).1
    · exact (named candidate mem).trans stays

/-- Over one `VisitFunctionDecl` entered outside any function, every candidate names its
function, and the visitor leaves it outside any function. -/
theorem select_functionVisit_func {visit : FunctionVisit} {visitor visitor' : VisitorState}
    {candidates : List Candidate} (outside : visitor.currentFuncDecl = none)
    (selected : select isInIncludedFile visit.events visitor = .ok (candidates, visitor')) :
    visitor'.currentFuncDecl = none ∧ ∀ candidate ∈ candidates, candidate.func.isSome := by
  obtain ⟨candidate?, visitor₁, rest, first, later, rfl⟩ := select_cons_ok isInIncludedFile selected
  cases first
  have entered := VisitorState.visitFunctionDecl_currentFuncDecl visit.func visitor
  simp only [Option.toList, List.nil_append]
  split_ifs at later entered with skipped
  · cases later
    exact ⟨entered.trans outside, fun _ mem => absurd mem (List.not_mem_nil _)⟩
  · obtain ⟨inside, calls, last, callsOk, lastOk, rfl⟩ := select_append_ok isInIncludedFile later
    obtain ⟨stays, named⟩ := select_calls_func isInIncludedFile callsOk
    obtain ⟨ended, endVisitor, noMore, endOk, nilOk, rfl⟩ := select_cons_ok isInIncludedFile lastOk
    cases endOk
    cases nilOk
    refine ⟨rfl, fun candidate mem => ?_⟩
    rcases List.mem_append.mp mem with mem | mem
    · rw [named candidate mem, entered]; rfl
    · simp at mem

/-- **Over the events of whole `VisitFunctionDecl`s, every candidate names its function.** -/
theorem select_functionVisits_func :
    ∀ {visits : List FunctionVisit} {visitor visitor' : VisitorState} {candidates : List Candidate},
      visitor.currentFuncDecl = none →
        select isInIncludedFile (visits.flatMap FunctionVisit.events) visitor =
            .ok (candidates, visitor') →
          visitor'.currentFuncDecl = none ∧ ∀ candidate ∈ candidates, candidate.func.isSome
  | [], _, _, _, outside, selected => by
    cases selected
    exact ⟨outside, fun _ mem => absurd mem (List.not_mem_nil _)⟩
  | _ :: _, _, _, _, outside, selected => by
    rw [List.flatMap_cons] at selected
    obtain ⟨first, visitor₁, rest, firstOk, restOk, rfl⟩ :=
      select_append_ok isInIncludedFile selected
    obtain ⟨outside₁, named₁⟩ := select_functionVisit_func isInIncludedFile outside firstOk
    obtain ⟨outside', named'⟩ := select_functionVisits_func outside₁ restOk
    exact ⟨outside', fun candidate mem =>
      (List.mem_append.mp mem).elim (named₁ candidate) (named' candidate)⟩

/-- **Once set, the latch is never overwritten**: along a run from the initial counting, a
latch set after some prefix of the events is the one the run ends with. -/
theorem run_latch_stable {counter : Nat} {pre post : List Event} {visitor : VisitorState}
    {st₁ st₂ : CollectionState}
    (first : run isInIncludedFile counter pre ⟨Counting.initial, visitor⟩ = .ok st₁)
    (latched : st₁.counting.theExpr.isSome)
    (rest : run isInIncludedFile counter post st₁ = .ok st₂) :
    st₂.counting.latch = st₁.counting.latch := by
  obtain ⟨candidates₁, -, counted₁⟩ := run_eq_ok isInIncludedFile first
  obtain ⟨candidates₂, -, counted₂⟩ := run_eq_ok isInIncludedFile rest
  have reached : counter ≤ st₁.counting.validInstanceNum := by
    rw [counted₁] at latched ⊢
    exact Counting.foldl_count_reached counter candidates₁ _ (fun none => nomatch none) latched
  rw [counted₂, Counting.foldl_count_latch, if_neg (by omega)]

/-- **A run from the initial counting counts its candidates and latches the `counter`-th.** -/
theorem run_initial (counter : Nat) {events : List Event} {visitor visitor' : VisitorState}
    {candidates : List Candidate}
    (selected : select isInIncludedFile events visitor = .ok (candidates, visitor')) :
    run isInIncludedFile counter events ⟨Counting.initial, visitor⟩ =
      .ok ⟨candidates.foldl (Counting.count counter) Counting.initial, visitor'⟩ := by
  rw [run_eq_select, selected]
  rfl

theorem foldl_count_initial_latch (counter : Nat) (positive : 1 ≤ counter)
    (candidates : List Candidate) :
    (candidates.foldl (Counting.count counter) Counting.initial).latch =
      ((candidates[counter - 1]?).map Candidate.latch).getD (none, none, none) := by
  rw [Counting.foldl_count_latch, if_pos (by exact positive)]
  rfl

/-! ## What `HFInfo` remembers -/

/-- One event sets only the reporting function's fields, and only at its first declaration. -/
theorem selectStep_hfInfo {event : Event} {visitor visitor' : VisitorState}
    {candidate? : Option Candidate}
    (selected : selectStep isInIncludedFile event visitor = .ok (candidate?, visitor')) :
    (∃ hasFunction functionLoc, visitor'.hfInfo =
      { visitor.hfInfo with hasFunction := hasFunction, functionLoc := functionLoc }) ∧
    visitor'.hfInfo.functionLoc? = visitor.hfInfo.functionLoc?.or
      ((event.functionDecl?.filter fun FD => FD.decl.name == visitor.hfInfo.functionName).map
        FunctionDecl.loc) := by
  cases event with
  | visitFunctionDecl FD =>
    cases selected
    obtain ⟨frame, noted⟩ := VisitorState.visitFunctionDecl_hfInfo FD visitor
    refine ⟨frame, noted.trans ?_⟩
    simp only [Event.functionDecl?, Option.filter]
    split <;> rfl
  | visitExpr S E =>
    obtain ⟨_, _, -, -, rfl⟩ := selectStep_visitExpr_ok isInIncludedFile selected
    exact ⟨⟨_, _, rfl⟩, Option.or_none.symm⟩
  | endFunctionDecl =>
    cases selected
    exact ⟨⟨_, _, rfl⟩, Option.or_none.symm⟩

/-- **Over a run, `HasFunction` and `FunctionLoc` record the first `FunctionDecl` reached that
is named as the reporting function**, unless they were set before; the rest of `HFInfo`
stays. -/
theorem select_hfInfo :
    ∀ {events : List Event} {visitor visitor' : VisitorState} {candidates : List Candidate},
      select isInIncludedFile events visitor = .ok (candidates, visitor') →
        (∃ hasFunction functionLoc, visitor'.hfInfo =
          { visitor.hfInfo with hasFunction := hasFunction, functionLoc := functionLoc }) ∧
        visitor'.hfInfo.functionLoc? = visitor.hfInfo.functionLoc?.or
          (((events.filterMap Event.functionDecl?).find? fun FD =>
            FD.decl.name == visitor.hfInfo.functionName).map FunctionDecl.loc)
  | [], _, _, _, selected => by cases selected; exact ⟨⟨_, _, rfl⟩, Option.or_none.symm⟩
  | event :: events, visitor, _, _, selected => by
    obtain ⟨candidate?, visitor₁, rest, first, later, rfl⟩ :=
      select_cons_ok isInIncludedFile selected
    obtain ⟨⟨hasFunction₁, functionLoc₁, frame₁⟩, noted₁⟩ :=
      selectStep_hfInfo isInIncludedFile first
    obtain ⟨⟨hasFunction, functionLoc, frame⟩, noted⟩ := select_hfInfo later
    refine ⟨⟨hasFunction, functionLoc, by rw [frame, frame₁]⟩, ?_⟩
    have sameName : visitor₁.hfInfo.functionName = visitor.hfInfo.functionName := by rw [frame₁]
    rw [noted, noted₁, sameName, Option.or_assoc]
    congr 1
    cases event with
    | visitFunctionDecl FD =>
      cases named : FD.decl.name == visitor.hfInfo.functionName <;>
        simp [Event.functionDecl?, Option.filter, List.find?_cons, named]
    | visitExpr S E => rfl
    | endFunctionDecl => rfl

/-! ## Accepted expressions of one function -/

/-- **The `VisitExpr` calls of a function select what the filter alone accepts**: the
candidates are the accepted queries of a run of `isValidExpr` from the visitor's tables, over
the calls that reach it. -/
theorem select_calls_acceptedQueries :
    ∀ {calls : List (Option Stmt × Expr)} {visitor visitor' : VisitorState}
      {candidates : List Candidate},
      select isInIncludedFile (calls.map fun call => .visitExpr call.1 call.2) visitor =
          .ok (candidates, visitor') →
        ∃ queries : List (Stmt × Expr), candidates.map Candidate.call =
          (acceptedQueries visitor.caches queries).map fun query => (some query.1, query.2)
  | [], _, _, _, selected => by cases selected; exact ⟨[], rfl⟩
  | (_, E) :: _, visitor, _, _, selected => by
    obtain ⟨candidate?, visitor₁, rest, first, later, rfl⟩ :=
      select_cons_ok isInIncludedFile selected
    obtain ⟨queries, restQueries⟩ := select_calls_acceptedQueries later
    obtain ⟨valid, caches, accepted, rfl, rfl⟩ := selectStep_visitExpr_ok isInIncludedFile first
    rcases acceptExpr_eq_ok isInIncludedFile accepted with ⟨rfl, rfl⟩ | ⟨S, rfl, queried⟩
    · exact ⟨queries, restQueries⟩
    · refine ⟨(S, E) :: queries, ?_⟩
      simp only [acceptedQueries, queried]
      cases valid
      · exact restQueries
      · exact congrArg _ restQueries

/-- **Within one function definition no two accepted expressions of one statement are
identical, in either order**, whatever the visitor's state when the function is reached. -/
theorem functionVisit_candidates_pairwise_not_identical (visit : FunctionVisit)
    (visitor : VisitorState) {candidates : List Candidate} {visitor' : VisitorState}
    (selected : select isInIncludedFile visit.events visitor = .ok (candidates, visitor')) :
    candidates.Pairwise fun first later => first.stmt = later.stmt →
      isIdenticalExpr (some first.expr) (some later.expr) = false ∧
        isIdenticalExpr (some later.expr) (some first.expr) = false := by
  obtain ⟨candidate?, visitor₁, rest, first, later, rfl⟩ := select_cons_ok isInIncludedFile selected
  cases first
  split_ifs at later
  · cases later
    exact .nil
  · obtain ⟨inside, last, lastCandidates, callsOk, lastOk, rfl⟩ :=
      select_append_ok isInIncludedFile later
    cases lastOk
    obtain ⟨queries, refines⟩ := select_calls_acceptedQueries isInIncludedFile callsOk
    have mapped : (inside.map Candidate.call).Pairwise fun first later => first.1 = later.1 →
        isIdenticalExpr (some first.2) (some later.2) = false ∧
          isIdenticalExpr (some later.2) (some first.2) = false := by
      rw [refines, List.pairwise_map]
      exact (acceptedQueries_pairwise_not_identical _ queries).imp
        fun distinct sameStmt => distinct (Option.some.inj sameStmt)
    simpa only [Option.toList, List.nil_append, List.append_nil] using List.pairwise_map.mp mapped

end Run

/-- `y = x * x;`: two occurrences of `x`, the second identical to the first. -/
def assignXTimesX : Stmt :=
  .expr (.node 54 (.binaryOperator .assign) (.builtin .int)
    [.node 52 (.declRef ⟨2, "y", .var⟩) (.builtin .int) [],
     .node 53 (.binaryOperator .mul) (.builtin .int)
       [.node 55 (.implicitCast .lValueToRValue) (.builtin .int) [xRef],
        .node 57 (.implicitCast .lValueToRValue) (.builtin .int)
          [.node 56 (.declRef ⟨1, "x", .var⟩) (.builtin .int) []]]])

/-- `int g(void) { y = x * x; }`, reached by the collection visitor, with a `VisitExpr` call
on every expression of its statement. -/
def assignXTimesXVisit : FunctionVisit :=
  ⟨⟨⟨3, "g", .function false⟩, 0, false, [], [], some (.compound 4 [assignXTimesX])⟩,
    assignXTimesX.exprs.map fun E => (some assignXTimesX, E)⟩

theorem functionVisit_candidates_pairwise_not_identical_assignXTimesX :
    ∃ (candidates : List Candidate) (visitor' : VisitorState),
      select (fun _ => false) assignXTimesXVisit.events (VisitorState.initial false) =
          .ok (candidates, visitor') ∧
        candidates.Pairwise fun first later => first.stmt = later.stmt →
          isIdenticalExpr (some first.expr) (some later.expr) = false ∧
            isIdenticalExpr (some later.expr) (some first.expr) = false :=
  ⟨_, _, rfl, functionVisit_candidates_pairwise_not_identical (fun _ => false)
    assignXTimesXVisit (VisitorState.initial false) rfl⟩

end ClangDelta
