import ExpressionDetector.Pass

/-!
# The collection phase against its reference

What the collection phase is for, stated without memo tables: in every function definition
of the main file that the collection visitor reaches, in order, the `VisitExpr` calls whose
expression passes the checks before `isValidExpr` (`admitsExpr`) and that the reference filter
of the validity rules accepts, each deduplicated only against the expressions accepted for its
statement earlier in the same function (`referenceCollect`). An admitted expression reached
with no current statement stops the collection, as `isValidExpr` dereferences it.

The faithful run refines this reference exactly. Over any C program `select` yields the
candidates of `referenceCollect` and fails where it fails (`select_unit_eq_referenceCollect`),
so the collection phase counts the reference's candidates
(`collect_counting_eq_referenceCollect`). The proof runs the simulation of the reference
filter (`FilterSimulation`) along each function's calls (`select_calls_referenceCalls`); the
memo tables stay sound over every run (`select_sound`), and each function starts from a
visitor with cleared per-function tables (`VisitorState.Clean`).

The same holds of the whole pass. `referencePass` takes the reference collection's `c`-th
candidate and emits its edits, with the anchor locations read off the program
(`referenceHFInfo`), or reports `TransMaxInstanceError` when there is none, a C++ program
having no candidate; for every counter of at least one the pass is exactly this function
(`expressionDetector_eq_referencePass`).

The reference collection does not read the mode. Print mode and reference mode therefore
number the candidates alike: whenever the pass ends in both, it reports the same error and
captures the same expression before the same statement under the same temporary
(`expressionDetector_modes_agree`).
-/

set_option autoImplicit false

namespace ClangDelta

/-! ## The reference collection -/

/-- The checks `VisitExpr` makes before `isValidExpr`: `E` is in the main file, of a class
its `switch` lets through, and of integer or floating type. -/
def admitsExpr (isInIncludedFile : Expr → Bool) (E : Expr) : Bool :=
  !isInIncludedFile E && E.getStmtClass.isCandidateClass &&
    (E.type.isIntegerType || E.type.isFloatingType)

section Reference

variable (isInIncludedFile : Expr → Bool)

/-- The reference collection over one function's `VisitExpr` calls, from the function's
capture temporaries and the expressions accepted so far: an admitted expression needs a
current statement, and is a candidate when the reference filter accepts it. -/
def referenceCalls (func : FunctionDecl) (processedExprs : NamedDecl → Option Expr) :
    (Stmt → List Expr) → List (Option Stmt × Expr) → Except Fault (List Candidate)
  | _, [] => pure []
  | accepted, (S, E) :: calls =>
    if admitsExpr isInIncludedFile E then
      match S with
      | none => throw (.nullDereference "S")
      | some S =>
        (fun rest => if referenceIsValidExpr processedExprs accepted S E then
            ⟨some func, some S, E⟩ :: rest else rest) <$>
          referenceCalls func processedExprs (referenceAccept processedExprs accepted S E) calls
    else referenceCalls func processedExprs accepted calls

/-- The reference collection over one `FunctionDecl`: a definition in the main file contributes
the candidates of its calls, from its capture temporaries and no acceptance. -/
def referenceVisit (visit : FunctionVisit) : Except Fault (List Candidate) :=
  if visit.func.isInIncludedFile || !visit.func.isThisDeclarationADefinition then pure []
  else referenceCalls isInIncludedFile visit.func
    (ExprDetectorTempVarVisitor.traverseDecl visit.func fun _ => none) (fun _ => []) visit.calls

/-- **The reference collection**: the candidates of the `FunctionDecl`s the collection visitor
reaches, in order. -/
def referenceCollect : List FunctionVisit → Except Fault (List Candidate)
  | [] => pure []
  | visit :: visits => do
    let first ← referenceVisit isInIncludedFile visit
    let rest ← referenceCollect visits
    pure (first ++ rest)

end Reference

section Run

variable (isInIncludedFile : Expr → Bool)

/-- `VisitExpr` up to `isValidExpr` is `admitsExpr`, then the statement's dereference. -/
theorem acceptExpr_eq_admitsExpr (S : Option Stmt) (E : Expr) (caches : Caches) :
    acceptExpr isInIncludedFile S E caches =
      if admitsExpr isInIncludedFile E then
        match S with
        | none => throw (.nullDereference "S")
        | some S => pure (isValidExpr S E caches)
      else pure (false, caches) := by
  unfold acceptExpr admitsExpr
  cases isInIncludedFile E <;> cases E.getStmtClass.isCandidateClass <;>
    cases E.type.isIntegerType <;> cases E.type.isFloatingType <;> rfl

/-! ## The memo tables stay sound -/

theorem selectStep_sound {event : Event} {visitor visitor' : VisitorState}
    {candidate? : Option Candidate} (sound : visitor.caches.Sound)
    (selected : selectStep isInIncludedFile event visitor = .ok (candidate?, visitor')) :
    visitor'.caches.Sound := by
  cases event with
  | visitFunctionDecl FD =>
    cases selected
    unfold VisitorState.visitFunctionDecl
    split_ifs <;> exact ⟨sound.invalidExprs, sound.tmpVars⟩
  | visitExpr S E =>
    obtain ⟨valid, caches, accepted, -, rfl⟩ :=
      selectStep_visitExpr_ok isInIncludedFile selected
    rcases acceptExpr_eq_ok isInIncludedFile accepted with ⟨-, rfl⟩ | ⟨S, -, queried⟩
    · exact sound
    · simpa only [queried] using isValidExpr_sound (S := S) (E := E) sound
  | endFunctionDecl =>
    cases selected
    exact ⟨sound.invalidExprs, sound.tmpVars⟩

/-- **The memo tables stay sound over every run.** -/
theorem select_sound :
    ∀ {events : List Event} {visitor visitor' : VisitorState} {candidates : List Candidate},
      visitor.caches.Sound →
        select isInIncludedFile events visitor = .ok (candidates, visitor') →
          visitor'.caches.Sound
  | [], _, _, _, sound, selected => by cases selected; exact sound
  | _ :: _, _, _, _, sound, selected => by
    obtain ⟨_, _, _, first, later, rfl⟩ := select_cons_ok isInIncludedFile selected
    exact select_sound (selectStep_sound isInIncludedFile sound first) later

/-! ## Candidates of joined event lists -/

theorem select_cons_fst (event : Event) (events : List Event) (visitor : VisitorState) :
    Prod.fst <$> select isInIncludedFile (event :: events) visitor =
      selectStep isInIncludedFile event visitor >>= fun step =>
        (step.1.toList ++ ·) <$> Prod.fst <$> select isInIncludedFile events step.2 := by
  simp only [select]
  cases selectStep isInIncludedFile event visitor with
  | error fault => rfl
  | ok step =>
    obtain ⟨candidate?, visitor₁⟩ := step
    show Prod.fst <$> (select isInIncludedFile events visitor₁ >>= fun rest =>
        pure (candidate?.toList ++ rest.1, rest.2)) =
      (candidate?.toList ++ ·) <$> Prod.fst <$> select isInIncludedFile events visitor₁
    cases select isInIncludedFile events visitor₁ <;> rfl

/-! ## The run against the reference -/

/-- **Along one function's calls the run simulates the reference**: from tables that simulate
the reference's accepted lists, inside `func`, the selection yields the reference's
candidates and fails where it fails. -/
theorem select_calls_referenceCalls {func : FunctionDecl}
    {processedExprs : NamedDecl → Option Expr} :
    ∀ (calls : List (Option Stmt × Expr)) (visitor : VisitorState)
      (accepted : Stmt → List Expr),
      FilterSimulation processedExprs visitor.caches accepted →
        visitor.currentFuncDecl = some func →
          Prod.fst <$> select isInIncludedFile (calls.map fun call => .visitExpr call.1 call.2)
              visitor =
            referenceCalls isInIncludedFile func processedExprs accepted calls
  | [], _, _, _, _ => rfl
  | (S, E) :: calls, visitor, accepted, simulation, inside => by
    rw [List.map_cons, select_cons_fst]
    simp only [selectStep, acceptExpr_eq_admitsExpr, referenceCalls]
    split
    · cases S with
      | none => rfl
      | some S =>
        dsimp only
        rw [← select_calls_referenceCalls calls
          { visitor with caches := (isValidExpr S E visitor.caches).2 } _ simulation.isValidExpr
          inside, ← simulation.isValidExpr_fst_eq, inside]
        generalize isValidExpr S E visitor.caches = result
        obtain ⟨valid, caches⟩ := result
        cases valid <;> rfl
    · rw [← select_calls_referenceCalls calls { visitor with caches := visitor.caches } accepted
        simulation inside]
      exact id_map (Prod.fst <$> select isInIncludedFile
        (calls.map fun call => .visitExpr call.1 call.2) { visitor with caches := visitor.caches })

theorem select_append_fst :
    ∀ (pre post : List Event) (visitor : VisitorState),
      Prod.fst <$> select isInIncludedFile (pre ++ post) visitor =
        select isInIncludedFile pre visitor >>= fun first =>
          (first.1 ++ ·) <$> Prod.fst <$> select isInIncludedFile post first.2
  | [], post, visitor => (id_map (Prod.fst <$> select isInIncludedFile post visitor)).symm
  | event :: pre, post, visitor => by
    rw [List.cons_append, select_cons_fst]
    simp only [select]
    cases selectStep isInIncludedFile event visitor with
    | error fault => rfl
    | ok step =>
      obtain ⟨candidate?, visitor₁⟩ := step
      show (candidate?.toList ++ ·) <$> Prod.fst <$>
          select isInIncludedFile (pre ++ post) visitor₁ =
        (select isInIncludedFile pre visitor₁ >>= fun rest =>
          pure (candidate?.toList ++ rest.1, rest.2)) >>= fun first =>
            (first.1 ++ ·) <$> Prod.fst <$> select isInIncludedFile post first.2
      rw [select_append_fst pre post visitor₁]
      cases select isInIncludedFile pre visitor₁ with
      | error fault => rfl
      | ok first =>
        obtain ⟨middle, visitor₂⟩ := first
        show (candidate?.toList ++ ·) <$> (middle ++ ·) <$> Prod.fst <$>
            select isInIncludedFile post visitor₂ =
          (candidate?.toList ++ middle ++ ·) <$> Prod.fst <$>
            select isInIncludedFile post visitor₂
        cases select isInIncludedFile post visitor₂ with
        | error fault => rfl
        | ok last => exact congrArg Except.ok (List.append_assoc _ _ _).symm

theorem select_append_endFunctionDecl :
    ∀ (events : List Event) (visitor : VisitorState),
      select isInIncludedFile (events ++ [.endFunctionDecl]) visitor =
        (fun result => (result.1, result.2.endFunctionDecl)) <$>
          select isInIncludedFile events visitor
  | [], _ => rfl
  | event :: events, visitor => by
    rw [List.cons_append]
    simp only [select]
    cases selectStep isInIncludedFile event visitor with
    | error fault => rfl
    | ok step =>
      obtain ⟨candidate?, visitor₁⟩ := step
      show (select isInIncludedFile (events ++ [.endFunctionDecl]) visitor₁ >>= fun rest =>
          pure (candidate?.toList ++ rest.1, rest.2)) =
        (fun result => (result.1, result.2.endFunctionDecl)) <$>
          (select isInIncludedFile events visitor₁ >>= fun rest =>
            pure (candidate?.toList ++ rest.1, rest.2))
      rw [select_append_endFunctionDecl events visitor₁]
      cases select isInIncludedFile events visitor₁ <;> rfl

/-- The visitor between two functions: no current function, sound memo tables, and the
per-function tables cleared. -/
structure VisitorState.Clean (visitor : VisitorState) : Prop where
  outside : visitor.currentFuncDecl = none
  sound : visitor.caches.Sound
  noUniqueExprs : visitor.caches.uniqueExprs = fun _ => []
  noProcessedExprs : visitor.caches.processedExprs = fun _ => none

theorem VisitorState.Clean.endFunctionDecl {visitor : VisitorState} (sound : visitor.caches.Sound) :
    visitor.endFunctionDecl.Clean :=
  ⟨rfl, ⟨sound.invalidExprs, sound.tmpVars⟩, rfl, rfl⟩

/-- One `FunctionDecl` from a clean visitor: the selection is the reference's, and the visitor
is clean again after it. -/
theorem select_functionVisit_referenceVisit (visit : FunctionVisit) {visitor : VisitorState}
    (clean : visitor.Clean) :
    Prod.fst <$> select isInIncludedFile visit.events visitor =
        referenceVisit isInIncludedFile visit ∧
      ∀ candidates visitor',
        select isInIncludedFile visit.events visitor = .ok (candidates, visitor') →
          visitor'.Clean := by
  have entered := VisitorState.visitFunctionDecl_currentFuncDecl visit.func visitor
  have cachesAfter := VisitorState.visitFunctionDecl_caches visit.func visitor
  unfold FunctionVisit.events referenceVisit
  split_ifs at entered cachesAfter ⊢ with skipped
  · refine ⟨rfl, fun candidates visitor' selected => ?_⟩
    cases selected
    exact ⟨entered.trans clean.outside, cachesAfter ▸ clean.sound,
      cachesAfter ▸ clean.noUniqueExprs, cachesAfter ▸ clean.noProcessedExprs⟩
  · have simulation :
        FilterSimulation (ExprDetectorTempVarVisitor.traverseDecl visit.func fun _ => none)
          (visitor.visitFunctionDecl visit.func).caches fun _ => [] := by
      rw [cachesAfter, clean.noProcessedExprs]
      exact FilterSimulation.start clean.sound clean.noUniqueExprs
    have calls := select_calls_referenceCalls isInIncludedFile visit.calls _ _ simulation entered
    refine ⟨?_, fun candidates visitor' selected => ?_⟩
    · rw [select_cons_fst]
      show ([] ++ ·) <$> Prod.fst <$> select isInIncludedFile
          (visit.calls.map (fun call => .visitExpr call.1 call.2) ++ [.endFunctionDecl])
          (visitor.visitFunctionDecl visit.func) = _
      rw [select_append_endFunctionDecl, ← calls]
      cases select isInIncludedFile (visit.calls.map fun call => .visitExpr call.1 call.2)
        (visitor.visitFunctionDecl visit.func) <;> rfl
    · obtain ⟨_, _, _, first, later, rfl⟩ := select_cons_ok isInIncludedFile selected
      cases first
      rw [select_append_endFunctionDecl] at later
      obtain ⟨⟨inside, visitor₂⟩, callsOk, ended⟩ := Fault.map_eq_ok later
      cases ended
      exact VisitorState.Clean.endFunctionDecl
        (select_sound isInIncludedFile simulation.sound callsOk)

theorem select_functionVisits_referenceCollect :
    ∀ (visits : List FunctionVisit) (visitor : VisitorState), visitor.Clean →
      Prod.fst <$> select isInIncludedFile (visits.flatMap FunctionVisit.events) visitor =
        referenceCollect isInIncludedFile visits
  | [], _, _ => rfl
  | visit :: visits, visitor, clean => by
    obtain ⟨visitEq, cleanAfter⟩ :=
      select_functionVisit_referenceVisit isInIncludedFile visit clean
    rw [List.flatMap_cons, select_append_fst, referenceCollect, ← visitEq]
    cases selected : select isInIncludedFile visit.events visitor with
    | error fault => rfl
    | ok first =>
      obtain ⟨candidates, visitor₁⟩ := first
      show (candidates ++ ·) <$> Prod.fst <$>
          select isInIncludedFile (visits.flatMap FunctionVisit.events) visitor₁ =
        (referenceCollect isInIncludedFile visits >>= fun rest => pure (candidates ++ rest))
      rw [select_functionVisits_referenceCollect visits visitor₁
        (cleanAfter candidates visitor₁ selected)]
      cases referenceCollect isInIncludedFile visits <;> rfl

/-- **Over a C program the collection phase selects exactly the reference's candidates**, and
fails exactly where the reference does. -/
theorem select_unit_eq_referenceCollect (unit : TranslationUnit) (checkReference : Bool) :
    Prod.fst <$> select isInIncludedFile unit.events (unit.start checkReference).visitor =
      referenceCollect isInIncludedFile unit.topLevelDecls.flatten := by
  rw [unit.events_eq_flatten]
  exact select_functionVisits_referenceCollect isInIncludedFile _ _
    ⟨rfl, Caches.empty_sound, rfl, rfl⟩

example : referenceCollect (fun _ => false) enumUnit.topLevelDecls.flatten =
    .ok [⟨some ⟨⟨2, "f", .function false⟩, 0, false, [], [],
        some (.compound 4 [returnColor])⟩, some returnColor, colorRef⟩] :=
  rfl

/-- **The collection phase over a C program counts the reference's candidates**: its
`ValidInstanceNum` and latched triple are those of counting `referenceCollect`, and it fails
exactly where the reference does. -/
theorem collect_counting_eq_referenceCollect (options : PassOptions) (unit : TranslationUnit) :
    (fun st => st.counting) <$> collect isInIncludedFile false options unit =
      (fun candidates => candidates.foldl (Counting.count options.counter) Counting.initial) <$>
        referenceCollect isInIncludedFile unit.topLevelDecls.flatten := by
  rw [collect_eq_run, run_eq_select, ← select_unit_eq_referenceCollect]
  cases select isInIncludedFile unit.events (unit.start options.checkReference).visitor <;> rfl

end Run

/-! ## The whole pass against its reference -/

/-- What `HFInfo` holds at the end, read off the program: the first inclusion of the header in
the main file and the first `FunctionDecl` named as the reporting function, if any. -/
def referenceHFInfo (unit : TranslationUnit) (checkReference : Bool) : HFInfo :=
  let hfInfo := HFInfo.initial checkReference
  let header := unit.inclusionDirectives.find? fun directive =>
    directive.isInMainFile && directive.fileName == hfInfo.headerName
  let function := unit.functionDecls.find? fun FD => FD.decl.name == hfInfo.functionName
  { hfInfo with
    hasHeader := header.isSome
    headerLoc := (header.map InclusionDirective.hashLoc).getD 0
    hasFunction := function.isSome
    functionLoc := (function.map FunctionDecl.loc).getD 0 }

theorem referenceHFInfo_functionLoc? (unit : TranslationUnit) (checkReference : Bool) :
    (referenceHFInfo unit checkReference).functionLoc? =
      (unit.functionDecls.find? fun FD =>
        FD.decl.name == (HFInfo.initial checkReference).functionName).map FunctionDecl.loc := by
  unfold referenceHFInfo HFInfo.functionLoc?
  dsimp only
  cases unit.functionDecls.find? fun FD =>
    FD.decl.name == (HFInfo.initial checkReference).functionName <;> rfl

theorem referenceHFInfo_headerLoc? (unit : TranslationUnit) (checkReference : Bool) :
    (referenceHFInfo unit checkReference).headerLoc? =
      (unit.inclusionDirectives.find? fun directive => directive.isInMainFile &&
        directive.fileName == (HFInfo.initial checkReference).headerName).map
          InclusionDirective.hashLoc := by
  unfold referenceHFInfo HFInfo.headerLoc?
  dsimp only
  cases unit.inclusionDirectives.find? fun directive => directive.isInMainFile &&
    directive.fileName == (HFInfo.initial checkReference).headerName <;> rfl

/-- What the pass ends with, given the candidates: nothing in query-only mode, the `c`-th
candidate's edits when there is one, and `TransMaxInstanceError` otherwise. -/
def referenceOutcome (options : PassOptions) (ctx : RewriteContext) (hasErrorOccurred : Bool)
    (hfInfo : HFInfo) (candidates : List Candidate) : Except Fault TransResult :=
  if options.queryInstanceOnly then pure ⟨.success, []⟩
  else match candidates[options.counter - 1]? with
    | some ⟨_, some theStmt, theExpr⟩ =>
      (fun edits => ⟨if hasErrorOccurred then .internalError else .success, edits⟩) <$>
        if options.doReplacement then pure [Edit.replaceExpr theExpr options.replacement]
        else doRewrite options.checkReference options.referenceValue hfInfo ctx theStmt theExpr
    | _ => pure ⟨.maxInstanceError, []⟩

/-- **The reference pass**: the outcome of the reference collection's candidates; a C++
program has none. -/
def referencePass (isInIncludedFile : Expr → Bool) (isCXXLangOpt : Bool) (options : PassOptions)
    (ctx : RewriteContext) (hasErrorOccurred : Bool) (unit : TranslationUnit) :
    Except Fault TransResult :=
  (if isCXXLangOpt then pure [] else referenceCollect isInIncludedFile unit.topLevelDecls.flatten)
    >>= referenceOutcome options ctx hasErrorOccurred (referenceHFInfo unit options.checkReference)

/-- `HandleTranslationUnit` after counting the candidates is the reference outcome, once the
candidates name their function and statement and `HFInfo` agrees with the reference's. -/
theorem handleTranslationUnit_eq_referenceOutcome {options : PassOptions} {ctx : RewriteContext}
    {hasErrorOccurred : Bool} {candidates : List Candidate} {visitor : VisitorState}
    {hfInfo : HFInfo} (positive : 1 ≤ options.counter)
    (latchable : ∀ candidate ∈ candidates, candidate.func.isSome ∧ candidate.stmt.isSome)
    (sameDeclStr : visitor.hfInfo.functionDeclStr = hfInfo.functionDeclStr)
    (sameName : visitor.hfInfo.functionName = hfInfo.functionName)
    (sameFunctionLoc : visitor.hfInfo.functionLoc? = hfInfo.functionLoc?)
    (sameHeaderLoc : visitor.hfInfo.headerLoc? = hfInfo.headerLoc?) :
    handleTranslationUnit options ctx hasErrorOccurred
        ⟨candidates.foldl (Counting.count options.counter) Counting.initial, visitor⟩ =
      referenceOutcome options ctx hasErrorOccurred hfInfo candidates := by
  have counted : (candidates.foldl (Counting.count options.counter)
      Counting.initial).validInstanceNum = candidates.length :=
    Counting.foldl_count_initial_validInstanceNum
  have latch := foldl_count_initial_latch options.counter positive candidates
  unfold handleTranslationUnit referenceOutcome
  by_cases query : options.queryInstanceOnly = true
  · rw [if_pos query, if_pos query]
  rw [if_neg query, if_neg query]
  cases found : candidates[options.counter - 1]? with
  | none =>
    have past := List.getElem?_eq_none_iff.mp found
    rw [if_pos (show options.counter > _ by rw [counted]; omega)]
  | some candidate =>
    obtain ⟨within, -⟩ := List.getElem?_eq_some_iff.mp found
    rw [if_neg (show ¬options.counter > _ by rw [counted]; omega)]
    rw [found] at latch
    obtain ⟨funcSome, stmtSome⟩ := latchable candidate (List.getElem?_mem found)
    obtain ⟨func, stmt, expr⟩ := candidate
    obtain ⟨f, rfl⟩ := Option.isSome_iff_exists.mp funcSome
    obtain ⟨S, rfl⟩ := Option.isSome_iff_exists.mp stmtSome
    simp only [Counting.latch, Candidate.latch, Option.map_some', Option.getD_some,
      Prod.mk.injEq] at latch
    obtain ⟨funcEq, stmtEq, exprEq⟩ := latch
    simp only [funcEq, stmtEq, exprEq]
    rw [doRewrite_congr sameDeclStr sameName sameFunctionLoc sameHeaderLoc]

/-- The pass against the reference pass, for every counter of at least one. -/
theorem expressionDetector_referencePass (isInIncludedFile : Expr → Bool)
    (isCXXLangOpt : Bool) (options : PassOptions) (ctx : RewriteContext)
    (hasErrorOccurred : Bool) (unit : TranslationUnit) (positive : 1 ≤ options.counter) :
    expressionDetector isInIncludedFile isCXXLangOpt options ctx hasErrorOccurred unit =
      referencePass isInIncludedFile isCXXLangOpt options ctx hasErrorOccurred unit := by
  cases isCXXLangOpt with
  | true =>
    rw [expressionDetector, collect_cxx, referencePass, if_pos rfl]
    show handleTranslationUnit options ctx hasErrorOccurred (unit.start options.checkReference) =
      referenceOutcome options ctx hasErrorOccurred
        (referenceHFInfo unit options.checkReference) []
    unfold handleTranslationUnit referenceOutcome
    by_cases query : options.queryInstanceOnly = true
    · rw [if_pos query, if_pos query]
    · rw [if_neg query, if_neg query, if_pos (show options.counter >
        (unit.start options.checkReference).counting.validInstanceNum from positive)]
      rfl
  | false =>
    have refined := select_unit_eq_referenceCollect isInIncludedFile unit options.checkReference
    rw [expressionDetector, collect_eq_run, run_eq_select, referencePass,
      if_neg Bool.false_ne_true, ← refined]
    cases selected :
        select isInIncludedFile unit.events (unit.start options.checkReference).visitor with
    | error fault => rfl
    | ok result =>
      obtain ⟨candidates, visitor⟩ := result
      obtain ⟨declStr, name, declared, included⟩ := select_unit_hfInfo isInIncludedFile selected
      exact handleTranslationUnit_eq_referenceOutcome positive
        (select_unit_latchable isInIncludedFile selected) declStr name
        (declared.trans (referenceHFInfo_functionLoc? unit options.checkReference).symm)
        (included.trans (referenceHFInfo_headerLoc? unit options.checkReference).symm)

/-- **The pass is the reference pass**: for every counter of at least one, it ends as the
reference outcome of the reference collection's candidates, none for a C++ program, with the
anchor locations read off the program, and fails exactly where the reference fails. -/
theorem expressionDetector_eq_referencePass (isInIncludedFile : Expr → Bool)
    (isCXXLangOpt : Bool) (options : PassOptions) (ctx : RewriteContext)
    (hasErrorOccurred : Bool) (unit : TranslationUnit) (positive : 1 ≤ options.counter) :
    expressionDetector isInIncludedFile isCXXLangOpt options ctx hasErrorOccurred unit =
      referencePass isInIncludedFile isCXXLangOpt options ctx hasErrorOccurred unit :=
  expressionDetector_referencePass isInIncludedFile isCXXLangOpt options ctx hasErrorOccurred unit
    positive

theorem expressionDetector_eq_referencePass_returnX :
    expressionDetector (fun _ => false) false ⟨1, false, false, "", false, ""⟩ returnXContext
        false returnXUnit =
      referencePass (fun _ => false) false ⟨1, false, false, "", false, ""⟩ returnXContext
        false returnXUnit :=
  expressionDetector_eq_referencePass (fun _ => false) false ⟨1, false, false, "", false, ""⟩
    returnXContext false returnXUnit le_rfl

/-! ## Print mode and reference mode -/

/-- Given the same candidates, the two modes end alike: the same reported error, the same
direct replacement, and the capture of the same expression before the same statement under
the same temporary. -/
theorem referenceOutcome_modes {options : PassOptions} {ctx : RewriteContext}
    {hasErrorOccurred : Bool} {hfInfo hfInfo' : HFInfo} {candidates : List Candidate}
    {printed checked : TransResult}
    (printOk : referenceOutcome { options with checkReference := false } ctx hasErrorOccurred
      hfInfo candidates = .ok printed)
    (checkOk : referenceOutcome { options with checkReference := true } ctx hasErrorOccurred
      hfInfo' candidates = .ok checked) :
    printed.transError = checked.transError ∧
      (options.doReplacement = true → printed.edits = checked.edits) ∧
      ∀ S E name needParen,
        (∃ text, Edit.addStringBeforeStmtAndReplaceExpr S text E name needParen ∈ printed.edits) ↔
          ∃ text,
            Edit.addStringBeforeStmtAndReplaceExpr S text E name needParen ∈ checked.edits := by
  unfold referenceOutcome at printOk checkOk
  by_cases query : options.queryInstanceOnly = true
  · rw [if_pos query] at printOk checkOk
    cases printOk; cases checkOk
    exact ⟨rfl, fun _ => rfl, fun _ _ _ _ => Iff.rfl⟩
  rw [if_neg query] at printOk checkOk
  split at printOk
  · next theStmt theExpr found =>
    rw [found] at checkOk
    obtain ⟨printEdits, printRewrite, rfl⟩ := Fault.map_eq_ok printOk
    obtain ⟨checkEdits, checkRewrite, rfl⟩ := Fault.map_eq_ok checkOk
    by_cases replacing : options.doReplacement = true
    · rw [if_pos replacing] at printRewrite checkRewrite
      cases printRewrite; cases checkRewrite
      exact ⟨rfl, fun _ => rfl, fun _ _ _ _ => Iff.rfl⟩
    · rw [if_neg replacing] at printRewrite checkRewrite
      exact ⟨rfl, fun replaced => absurd replaced replacing, fun S E name needParen =>
        (doRewrite_captures printRewrite S E name needParen).trans
          (doRewrite_captures checkRewrite S E name needParen).symm⟩
  · next unfound =>
    split at checkOk
    · next theStmt theExpr found => exact absurd found (unfound _ _ _)
    · cases printOk; cases checkOk
      exact ⟨rfl, fun _ => rfl, fun _ _ _ _ => Iff.rfl⟩

/-- **Print mode and reference mode instrument the same expression**: for every program,
C or C++, and every counter of at least one, when the pass ends in both modes, it reports the
same error in both, makes the same direct replacement, and otherwise captures the same
expression before the same statement under the same temporary name. The modes number the
candidates alike, so a value printed for an instance is checked at that instance. -/
theorem expressionDetector_modes_agree (isInIncludedFile : Expr → Bool) (isCXXLangOpt : Bool)
    (options : PassOptions) (ctx : RewriteContext) (hasErrorOccurred : Bool)
    (unit : TranslationUnit) (positive : 1 ≤ options.counter) {printed checked : TransResult}
    (printOk : expressionDetector isInIncludedFile isCXXLangOpt
      { options with checkReference := false } ctx hasErrorOccurred unit = .ok printed)
    (checkOk : expressionDetector isInIncludedFile isCXXLangOpt
      { options with checkReference := true } ctx hasErrorOccurred unit = .ok checked) :
    printed.transError = checked.transError ∧
      (options.doReplacement = true → printed.edits = checked.edits) ∧
      ∀ S E name needParen,
        (∃ text, Edit.addStringBeforeStmtAndReplaceExpr S text E name needParen ∈ printed.edits) ↔
          ∃ text,
            Edit.addStringBeforeStmtAndReplaceExpr S text E name needParen ∈ checked.edits := by
  rw [expressionDetector_referencePass isInIncludedFile isCXXLangOpt
    { options with checkReference := false } ctx hasErrorOccurred unit positive,
    referencePass] at printOk
  rw [expressionDetector_referencePass isInIncludedFile isCXXLangOpt
    { options with checkReference := true } ctx hasErrorOccurred unit positive,
    referencePass] at checkOk
  obtain ⟨candidates, collected, printOk⟩ := Fault.bind_eq_ok printOk
  rw [collected] at checkOk
  exact referenceOutcome_modes printOk checkOk

theorem expressionDetector_modes_agree_returnX :
    ∃ printed checked,
      expressionDetector (fun _ => false) false ⟨1, false, false, "0", false, ""⟩ returnXContext
          false returnXUnit = .ok printed ∧
        expressionDetector (fun _ => false) false ⟨1, false, true, "0", false, ""⟩ returnXContext
          false returnXUnit = .ok checked ∧
        printed.transError = checked.transError ∧
        (false = true → printed.edits = checked.edits) ∧
        ∀ S E name needParen,
          (∃ text, Edit.addStringBeforeStmtAndReplaceExpr S text E name needParen ∈
              printed.edits) ↔
            ∃ text, Edit.addStringBeforeStmtAndReplaceExpr S text E name needParen ∈
              checked.edits :=
  ⟨_, _, rfl, rfl, expressionDetector_modes_agree (fun _ => false) false
    ⟨1, false, false, "0", false, ""⟩ returnXContext false returnXUnit le_rfl rfl rfl⟩

end ClangDelta
