import ExpressionDetector.Rewrite
import ExpressionDetector.Walker
import Mathlib.Data.List.Nodup

/-!
# The pass

The pass runs in three phases. While Clang preprocesses, `IncludesPPCallbacks` notes the
first `#include` of the reporting function's header in the main file. While Clang parses,
`HandleTopLevelDecl` runs the collection phase over each top-level declaration, or, for a
C++ program, resets `ValidInstanceNum` and collects nothing. At the end,
`HandleTranslationUnit` reports `TransMaxInstanceError` when the counter exceeds
`ValidInstanceNum`, asserts that a triple was latched, and requests the edits of
`doRewrite` (or a plain replacement).

Over a C program, the collection phase is one run over the events of every top-level
declaration (`collect_eq_run`). Its candidates are the calls `select` accepts, which reads no
counter; it counts them, and it latches the `c`-th one exactly when `c ≤ K`, where `K` is their number; the
latch is never overwritten; and `HandleTranslationUnit` reports `TransMaxInstanceError`
without an edit exactly when `c > K`, and otherwise never fails its three assertions
(`expressionDetector_latches_counter`). Over a C++ program `K = 0`.

Two programs stop the pass. In `void f(int n, int a[n]) {}` the bound `n` reaches
`isValidExpr` before any statement is current
(`expressionDetector_vla_parameter_dereferences_null`), and an enumeration variable latched in
print mode stops the pass in `getFormatString` (`expressionDetector_enum_dereferences_null`).
These are the only two ways it stops: for a counter of at least one, a failure is a null
`CurrentStmt` in `isValidExpr`, or a failure of `getFormatString` in print mode
(`expressionDetector_fault`).

`HFInfo` remembers the first inclusion of the header in the main file and the first
`FunctionDecl` named as the reporting function (`foldl_inclusionDirective`, `select_hfInfo`),
so a rewrite declares the function exactly when the latched statement begins before both
(`expressionDetector_declares_reporting_function`).
-/

set_option autoImplicit false

namespace ClangDelta

/-- The options of the pass: the requested counter, query-only mode, reference mode with its
reference value, and direct replacement with its text. -/
structure PassOptions where
  counter : Nat
  queryInstanceOnly : Bool
  checkReference : Bool
  referenceValue : String
  doReplacement : Bool
  replacement : String

/-- The `TransError` the pass reports. -/
inductive TransError
  | success
  | maxInstanceError
  | internalError
  deriving DecidableEq, Repr

/-- What `HandleTranslationUnit` ends with: the error it reports and the edits it requests. -/
structure TransResult where
  transError : TransError
  edits : List Edit
  deriving DecidableEq

/-- `ExpressionDetector::HandleTranslationUnit`; `hasErrorOccurred` stands for the front
end's diagnostics after the rewrite. -/
def handleTranslationUnit (options : PassOptions) (ctx : RewriteContext)
    (hasErrorOccurred : Bool) (st : CollectionState) : Except Fault TransResult :=
  if options.queryInstanceOnly then pure ⟨.success, []⟩
  else if options.counter > st.counting.validInstanceNum then pure ⟨.maxInstanceError, []⟩
  else
    match st.counting.theFunc, st.counting.theStmt, st.counting.theExpr with
    | none, _, _ => throw (.transAssert "NULL TheFunc!")
    | some _, none, _ => throw (.transAssert "NULL TheStmt!")
    | some _, some _, none => throw (.transAssert "NULL TheExpr")
    | some _, some theStmt, some theExpr =>
      (fun edits => ⟨if hasErrorOccurred then .internalError else .success, edits⟩) <$>
        if options.doReplacement then pure [Edit.replaceExpr theExpr options.replacement]
        else
          doRewrite options.checkReference options.referenceValue st.visitor.hfInfo ctx theStmt
            theExpr

/-! ## The translation unit -/

/-- An `#include` directive as the preprocessor reports it. -/
structure InclusionDirective where
  hashLoc : Nat
  isInMainFile : Bool
  fileName : String

/-- A translation unit as the pass meets it: the `#include` directives, and for each
top-level declaration group the `FunctionDecl`s the collection visitor reaches in it. -/
structure TranslationUnit where
  inclusionDirectives : List InclusionDirective
  topLevelDecls : List (List FunctionVisit)

namespace TranslationUnit

/-- The events of the collection phase over a C program. -/
def events (unit : TranslationUnit) : List Event :=
  unit.topLevelDecls.flatMap fun group => group.flatMap FunctionVisit.events

/-- The state before the first top-level declaration. The `#include` directives only set
`HasHeader` and `HeaderLoc`, which the collection phase does not read, so they are taken
first. -/
def start (unit : TranslationUnit) (checkReference : Bool) : CollectionState :=
  ⟨Counting.initial,
    { VisitorState.initial checkReference with
      hfInfo := unit.inclusionDirectives.foldl
        (fun hfInfo directive =>
          hfInfo.inclusionDirective directive.hashLoc directive.isInMainFile directive.fileName)
        (HFInfo.initial checkReference) }⟩

/-- The `FunctionDecl`s the collection visitor reaches, in order. -/
def functionDecls (unit : TranslationUnit) : List FunctionDecl :=
  unit.topLevelDecls.flatMap fun group => group.map FunctionVisit.func

end TranslationUnit

section Pass

variable (isInIncludedFile : Expr → Bool) (isCXXLangOpt : Bool)

/-- `ExpressionDetector::HandleTopLevelDecl(D)`: for C++ `ValidInstanceNum` is reset and
nothing is traversed; otherwise the collection visitor traverses the group. -/
def handleTopLevelDecl (counter : Nat) (group : List FunctionVisit) (st : CollectionState) :
    Except Fault CollectionState :=
  if isCXXLangOpt then pure { st with counting := { st.counting with validInstanceNum := 0 } }
  else run isInIncludedFile counter (group.flatMap FunctionVisit.events) st

/-- The preprocessing and parsing of a translation unit: the collection phase. -/
def collect (options : PassOptions) (unit : TranslationUnit) : Except Fault CollectionState :=
  unit.topLevelDecls.foldlM
    (fun st group => handleTopLevelDecl isInIncludedFile isCXXLangOpt options.counter group st)
    (unit.start options.checkReference)

/-- The whole pass over a translation unit. -/
def expressionDetector (options : PassOptions) (ctx : RewriteContext) (hasErrorOccurred : Bool)
    (unit : TranslationUnit) : Except Fault TransResult :=
  collect isInIncludedFile isCXXLangOpt options unit >>=
    handleTranslationUnit options ctx hasErrorOccurred

end Pass

/-! ## The collection phase -/

theorem handleTopLevelDecl_c (isInIncludedFile : Expr → Bool) (counter : Nat)
    (group : List FunctionVisit) (st : CollectionState) :
    handleTopLevelDecl isInIncludedFile false counter group st =
      run isInIncludedFile counter (group.flatMap FunctionVisit.events) st :=
  rfl

theorem foldlM_handleTopLevelDecl_eq_run (isInIncludedFile : Expr → Bool) (counter : Nat) :
    ∀ (groups : List (List FunctionVisit)) (st : CollectionState),
      groups.foldlM (fun st group => handleTopLevelDecl isInIncludedFile false counter group st) st =
        run isInIncludedFile counter (groups.flatMap fun group => group.flatMap FunctionVisit.events)
          st
  | [], _ => rfl
  | group :: groups, st => by
    rw [List.foldlM_cons, handleTopLevelDecl_c, List.flatMap_cons, run_append]
    cases run isInIncludedFile counter (group.flatMap FunctionVisit.events) st with
    | error fault => rfl
    | ok st' => exact foldlM_handleTopLevelDecl_eq_run isInIncludedFile counter groups st'

/-- **Over a C program the collection phase is one run over the events of every top-level
declaration.** -/
theorem collect_eq_run (isInIncludedFile : Expr → Bool) (options : PassOptions)
    (unit : TranslationUnit) :
    collect isInIncludedFile false options unit =
      run isInIncludedFile options.counter unit.events (unit.start options.checkReference) :=
  foldlM_handleTopLevelDecl_eq_run isInIncludedFile options.counter unit.topLevelDecls _

theorem foldlM_handleTopLevelDecl_cxx (isInIncludedFile : Expr → Bool) (counter : Nat) :
    ∀ (groups : List (List FunctionVisit)) (st : CollectionState),
      st.counting.validInstanceNum = 0 →
        groups.foldlM (fun st group => handleTopLevelDecl isInIncludedFile true counter group st)
          st = .ok st
  | [], _, _ => rfl
  | _ :: groups, ⟨⟨_, _, _, _⟩, _⟩, rfl =>
    foldlM_handleTopLevelDecl_cxx isInIncludedFile counter groups _ rfl

/-- Over a C++ program the collection phase ends where it starts: nothing counted, nothing
latched. -/
theorem collect_cxx (isInIncludedFile : Expr → Bool) (options : PassOptions)
    (unit : TranslationUnit) :
    collect isInIncludedFile true options unit = .ok (unit.start options.checkReference) :=
  foldlM_handleTopLevelDecl_cxx isInIncludedFile options.counter unit.topLevelDecls _ rfl

/-! ## `HandleTranslationUnit` -/

section HandleTranslationUnit

variable {options : PassOptions} {ctx : RewriteContext} {hasErrorOccurred : Bool}
  {st : CollectionState}

/-- Once the counter is reached, what `HandleTranslationUnit` ends with is either a failure or
no `TransMaxInstanceError`. -/
theorem handleTranslationUnit_transError (notQuery : options.queryInstanceOnly = false)
    (reached : options.counter ≤ st.counting.validInstanceNum) {result : TransResult}
    (ended : handleTranslationUnit options ctx hasErrorOccurred st = .ok result) :
    result.transError ≠ .maxInstanceError := by
  unfold handleTranslationUnit at ended
  rw [notQuery, if_neg Bool.false_ne_true, if_neg (Nat.not_lt.mpr reached)] at ended
  split at ended
  iterate 3 cases ended
  obtain ⟨edits, -, rfl⟩ := Fault.map_eq_ok ended
  cases hasErrorOccurred <;> nofun

/-- **Outside query-only mode, `HandleTranslationUnit` reports `TransMaxInstanceError` with no
edit exactly when the counter exceeds `ValidInstanceNum`.** -/
theorem handleTranslationUnit_maxInstanceError_iff (notQuery : options.queryInstanceOnly = false) :
    handleTranslationUnit options ctx hasErrorOccurred st = .ok ⟨.maxInstanceError, []⟩ ↔
      st.counting.validInstanceNum < options.counter := by
  by_cases past : st.counting.validInstanceNum < options.counter
  · refine iff_of_true ?_ past
    unfold handleTranslationUnit
    rw [notQuery, if_neg Bool.false_ne_true, if_pos past]
    rfl
  · exact iff_of_false (fun ended => handleTranslationUnit_transError notQuery
      (Nat.not_lt.mp past) ended rfl) past

/-- `HandleTranslationUnit` fails only outside query-only mode with the counter reached, and,
once the triple is latched, only inside `getFormatString` in print mode: the three
`TransAssert`s hold. -/
theorem handleTranslationUnit_fault {fault : Fault}
    (failed : handleTranslationUnit options ctx hasErrorOccurred st = .error fault) :
    options.queryInstanceOnly = false ∧ options.counter ≤ st.counting.validInstanceNum ∧
      (st.counting.theFunc.isSome → st.counting.theStmt.isSome → st.counting.theExpr.isSome →
        options.doReplacement = false ∧ options.checkReference = false ∧
          (fault = .nullDereference "BT" ∨ fault = .transAssert "Bad BuiltinType!")) := by
  unfold handleTranslationUnit at failed
  split at failed
  · cases failed
  split at failed
  · cases failed
  rename_i query past
  refine ⟨by simpa using query, by omega, fun funcLatched stmtLatched exprLatched => ?_⟩
  obtain ⟨theFunc, funcEq⟩ := Option.isSome_iff_exists.mp funcLatched
  obtain ⟨theStmt, stmtEq⟩ := Option.isSome_iff_exists.mp stmtLatched
  obtain ⟨theExpr, exprEq⟩ := Option.isSome_iff_exists.mp exprLatched
  rw [funcEq, stmtEq, exprEq] at failed
  have rewritten := Fault.map_eq_error failed
  split at rewritten
  · cases rewritten
  · next printing => exact ⟨by simpa using printing, doRewrite_fault rewritten⟩

/-- Outside direct replacement, the edits `HandleTranslationUnit` requests, when there are any,
are those of `doRewrite` on the latched statement and expression. -/
theorem handleTranslationUnit_edits (printing : options.doReplacement = false)
    {result : TransResult} (ended : handleTranslationUnit options ctx hasErrorOccurred st = .ok result)
    (edited : result.edits ≠ []) :
    ∃ theStmt theExpr, doRewrite options.checkReference options.referenceValue st.visitor.hfInfo
      ctx theStmt theExpr = .ok result.edits := by
  unfold handleTranslationUnit at ended
  split at ended
  · cases ended; exact absurd rfl edited
  split at ended
  · cases ended; exact absurd rfl edited
  split at ended
  iterate 3 cases ended
  obtain ⟨edits, rewritten, rfl⟩ := Fault.map_eq_ok ended
  simp only [printing, Bool.false_eq_true, if_false] at rewritten
  exact ⟨_, _, rewritten⟩

end HandleTranslationUnit

/-! ## What the counting latches -/

namespace Counting

variable {candidates : List Candidate} {counter : Nat}

theorem foldl_count_initial_validInstanceNum :
    (candidates.foldl (count counter) initial).validInstanceNum = candidates.length := by
  rw [foldl_count_validInstanceNum]
  exact Nat.zero_add _

theorem foldl_count_initial_latched (positive : 1 ≤ counter)
    (within : counter ≤ candidates.length) :
    (candidates.foldl (count counter) initial).latch = candidates[counter - 1].latch := by
  rw [foldl_count_initial_latch counter positive, List.getElem?_eq_getElem]
  rfl

theorem foldl_count_initial_unlatched (beyond : candidates.length < counter) :
    (candidates.foldl (count counter) initial).latch = (none, none, none) := by
  rw [foldl_count_initial_latch counter (by omega), List.getElem?_eq_none (by omega)]
  rfl

/-- Counting from the initial state latches an expression exactly when the counter is among
the candidates. -/
theorem foldl_count_initial_theExpr_isSome (positive : 1 ≤ counter) :
    (candidates.foldl (count counter) initial).theExpr.isSome ↔ counter ≤ candidates.length := by
  by_cases within : counter ≤ candidates.length
  · have latched := congrArg (fun latch => latch.2.2) (foldl_count_initial_latched positive within)
    exact iff_of_true (by simp only [latch, Candidate.latch] at latched; rw [latched]; rfl) within
  · have unlatched := congrArg (fun latch => latch.2.2)
      (@foldl_count_initial_unlatched candidates counter (by omega))
    exact iff_of_false (by simp only [latch] at unlatched; rw [unlatched]; nofun) within

/-- Distinct `VisitExpr` calls give distinct counters distinct latched triples. -/
theorem foldl_count_initial_latch_injective
    (distinct : (candidates.map Candidate.call).Nodup) {counter' : Nat}
    (positive : 1 ≤ counter) (positive' : 1 ≤ counter') (within : counter ≤ candidates.length)
    (within' : counter' ≤ candidates.length)
    (same : (candidates.foldl (count counter) initial).latch =
      (candidates.foldl (count counter') initial).latch) :
    counter = counter' := by
  rw [foldl_count_initial_latched positive within, foldl_count_initial_latched positive' within']
    at same
  have bound : counter - 1 < (candidates.map Candidate.call).length := by simp; omega
  have bound' : counter' - 1 < (candidates.map Candidate.call).length := by simp; omega
  have calls : (candidates.map Candidate.call)[counter - 1] =
      (candidates.map Candidate.call)[counter' - 1] := by
    simp only [Candidate.latch, Prod.mk.injEq, Option.some.injEq] at same
    simp only [List.getElem_map, Candidate.call, same]
  have := distinct.getElem_inj_iff.mp calls
  omega

end Counting

/-! ## The collection phase counts its candidates and latches the requested one -/

theorem TranslationUnit.events_eq_flatten (unit : TranslationUnit) :
    unit.events = unit.topLevelDecls.flatten.flatMap FunctionVisit.events := by
  rw [← List.flatMap_id, List.flatMap_assoc]
  rfl

section Latching

variable (isInIncludedFile : Expr → Bool) {unit : TranslationUnit} {checkReference : Bool}
  {candidates : List Candidate} {visitor : VisitorState}

/-- Every candidate of a C program names its function and its statement. -/
theorem select_unit_latchable
    (selected : select isInIncludedFile unit.events (unit.start checkReference).visitor =
      .ok (candidates, visitor)) :
    ∀ candidate ∈ candidates, candidate.func.isSome ∧ candidate.stmt.isSome := by
  rw [unit.events_eq_flatten] at selected
  have named := (select_functionVisits_func isInIncludedFile rfl selected).2
  rw [← unit.events_eq_flatten] at selected
  exact fun candidate mem =>
    ⟨named candidate mem, (select_candidates isInIncludedFile selected).2 candidate mem⟩

/-- Once the counter is among a C program's candidates, the whole triple is latched. -/
theorem select_unit_latched {counter : Nat} (positive : 1 ≤ counter)
    (selected : select isInIncludedFile unit.events (unit.start checkReference).visitor =
      .ok (candidates, visitor))
    (within : counter ≤ candidates.length) :
    let counting := candidates.foldl (Counting.count counter) Counting.initial
    counting.theFunc.isSome ∧ counting.theStmt.isSome ∧ counting.theExpr.isSome := by
  obtain ⟨funcSome, stmtSome⟩ := select_unit_latchable isInIncludedFile selected _
    (List.getElem_mem (by omega : counter - 1 < candidates.length))
  have latched := Counting.foldl_count_initial_latched positive within
  simp only [Counting.latch, Candidate.latch, Prod.mk.injEq] at latched
  exact ⟨latched.1 ▸ funcSome, latched.2.1 ▸ stmtSome, latched.2.2 ▸ rfl⟩

/-- A latch set by a prefix of the events of a C program is the one the run ends with. -/
theorem run_unit_latch_stable {counter : Nat} {pre post : List Event} {st₁ st₂ : CollectionState}
    (split : unit.events = pre ++ post)
    (whole : run isInIncludedFile counter unit.events (unit.start checkReference) = .ok st₂)
    (first : run isInIncludedFile counter pre (unit.start checkReference) = .ok st₁)
    (latched : st₁.counting.theExpr.isSome) :
    st₁.counting.latch = st₂.counting.latch := by
  rw [split, run_append, first] at whole
  exact (run_latch_stable isInIncludedFile first latched whole).symm

end Latching

/-- **The collection phase counts its candidates and latches the requested one.** Over a C++
program nothing is counted. Over a C program the accepted `VisitExpr` calls do not depend
on the counter: they are the candidates of `select`, which decides each call by `acceptExpr`
and reads no counter. The phase fails where `select` fails, for every counter, or it counts
the candidates `select` yields, among the calls and in their order. For each counter `c ≥ 1`
it then ends with `ValidInstanceNum = K`, the number of candidates, and latches the `c`-th
candidate's triple, which is set exactly when `c ≤ K` and is never overwritten once set.
Outside query-only mode `HandleTranslationUnit` reports `TransMaxInstanceError` with no edit
exactly when `c > K`; for `c ≤ K` it fails only inside `getFormatString`, never on a
`TransAssert` of the latch. When no call repeats, distinct counters latch distinct
triples. -/
theorem expressionDetector_latches_counter (isInIncludedFile : Expr → Bool)
    (unit : TranslationUnit) (checkReference : Bool) :
    (∀ options : PassOptions, (fun st => st.counting.validInstanceNum) <$>
      collect isInIncludedFile true options unit = .ok 0) ∧
    ((∃ fault, select isInIncludedFile unit.events (unit.start checkReference).visitor =
          .error fault ∧
        ∀ options : PassOptions, options.checkReference = checkReference →
          collect isInIncludedFile false options unit = .error fault) ∨
      ∃ (candidates : List Candidate) (visitor : VisitorState),
        select isInIncludedFile unit.events (unit.start checkReference).visitor =
          .ok (candidates, visitor) ∧
        (candidates.map Candidate.call).Sublist (unit.events.filterMap Event.call?) ∧
        ((unit.events.filterMap Event.call?).Nodup → ∀ counter counter' : Nat,
          1 ≤ counter → 1 ≤ counter' → counter ≤ candidates.length →
            counter' ≤ candidates.length → counter ≠ counter' →
              (candidates.foldl (Counting.count counter) Counting.initial).latch ≠
                (candidates.foldl (Counting.count counter') Counting.initial).latch) ∧
        ∀ options : PassOptions, options.checkReference = checkReference →
          1 ≤ options.counter →
            let counting := candidates.foldl (Counting.count options.counter) Counting.initial
            collect isInIncludedFile false options unit = .ok ⟨counting, visitor⟩ ∧
            counting.validInstanceNum = candidates.length ∧
            counting.latch =
              ((candidates[options.counter - 1]?).map Candidate.latch).getD (none, none, none) ∧
            (counting.theExpr.isSome ↔ options.counter ≤ candidates.length) ∧
            (∀ (pre post : List Event) (st : CollectionState), unit.events = pre ++ post →
              run isInIncludedFile options.counter pre (unit.start checkReference) = .ok st →
                st.counting.theExpr.isSome → st.counting.latch = counting.latch) ∧
            (options.queryInstanceOnly = false → ∀ ctx hasErrorOccurred,
              (handleTranslationUnit options ctx hasErrorOccurred ⟨counting, visitor⟩ =
                  .ok ⟨.maxInstanceError, []⟩ ↔ candidates.length < options.counter) ∧
              (options.counter ≤ candidates.length → ∀ fault,
                handleTranslationUnit options ctx hasErrorOccurred ⟨counting, visitor⟩ =
                    .error fault →
                  fault = .nullDereference "BT" ∨ fault = .transAssert "Bad BuiltinType!"))) := by
  refine ⟨fun options => by rw [collect_cxx]; rfl, ?_⟩
  cases selected : select isInIncludedFile unit.events (unit.start checkReference).visitor with
  | error fault =>
    refine .inl ⟨fault, rfl, fun options same => ?_⟩
    rw [collect_eq_run, run_eq_select, same, selected]
    rfl
  | ok result =>
    obtain ⟨candidates, visitor⟩ := result
    refine .inr ⟨candidates, visitor, rfl, (select_candidates isInIncludedFile selected).1,
      fun distinct counter counter' positive positive' within within' different same =>
        different (Counting.foldl_count_initial_latch_injective
          (distinct.sublist (select_candidates isInIncludedFile selected).1)
          positive positive' within within' same),
      fun options same positive => ?_⟩
    subst same
    have ran : run isInIncludedFile options.counter unit.events
        (unit.start options.checkReference) =
          .ok ⟨candidates.foldl (Counting.count options.counter) Counting.initial, visitor⟩ :=
      run_initial isInIncludedFile options.counter selected
    refine ⟨(collect_eq_run isInIncludedFile options unit).trans ran, ?_,
      foldl_count_initial_latch options.counter positive candidates,
      Counting.foldl_count_initial_theExpr_isSome positive,
      fun pre post st split first latched =>
        run_unit_latch_stable isInIncludedFile split ran first latched,
      fun notQuery ctx hasErrorOccurred => ⟨?_, fun within fault failed => ?_⟩⟩
    · exact Counting.foldl_count_initial_validInstanceNum
    · rw [handleTranslationUnit_maxInstanceError_iff notQuery,
        Counting.foldl_count_initial_validInstanceNum]
    · obtain ⟨funcSome, stmtSome, exprSome⟩ :=
        select_unit_latched isInIncludedFile positive selected within
      exact ((handleTranslationUnit_fault failed).2.2 funcSome stmtSome exprSome).2.2

/-! ## Two programs the pass stops on -/

/-- `void f(int n, int a[n]) {}` as a translation unit. -/
def vlaUnit : TranslationUnit := ⟨[], [[FunctionVisit.ofFunctionDecl vlaFunction]]⟩

/-- **The bound of a variable-length array parameter reaches `isValidExpr` with a null
statement**: on `void f(int n, int a[n]) {}` the pass dereferences the null `CurrentStmt`,
whatever its options. -/
theorem expressionDetector_vla_parameter_dereferences_null (options : PassOptions)
    (ctx : RewriteContext) (hasErrorOccurred : Bool) :
    expressionDetector (fun _ => false) false options ctx hasErrorOccurred vlaUnit =
      .error (.nullDereference "S") :=
  rfl

/-- `enum color c;`, the enumeration variable of the program below. -/
def colorRef : Expr := .node 10 (.declRef ⟨1, "c", .var⟩) (.enum "color" true false) []

/-- `return c;`, with the conversions Clang inserts to return `c` as an `int`. -/
def returnColor : Stmt :=
  .returnStmt 3 (some (.node 12 (.implicitCast .integralCast) (.builtin .int)
    [.node 11 (.implicitCast .lValueToRValue) (.enum "color" true false) [colorRef]]))

/-- `enum color { red }; enum color c; int f(void) { return c; }`: only the definition of `f`
reaches `VisitFunctionDecl`. -/
def enumUnit : TranslationUnit :=
  ⟨[], [[], [], [FunctionVisit.ofFunctionDecl
    ⟨⟨2, "f", .function false⟩, 0, false, [], [], some (.compound 4 [returnColor])⟩]]⟩

/-- **An enumeration variable latched in print mode stops the pass**: `c` in `return c;` is
the first candidate, and `getFormatString` dereferences the null `BuiltinType` of its
type. -/
theorem expressionDetector_enum_dereferences_null (referenceValue replacement : String)
    (ctx : RewriteContext) (hasErrorOccurred : Bool) :
    expressionDetector (fun _ => false) false ⟨1, false, false, referenceValue, false, replacement⟩
        ctx hasErrorOccurred enumUnit =
      .error (.nullDereference "BT") :=
  rfl

/-! ## Every way the pass stops -/

/-- **The pass stops in two ways only.** For a counter of at least one, a failed run of the
pass is over a C program, and either `isValidExpr` dereferences a null `CurrentStmt`, or, in
print mode (no query, no reference check, no direct replacement), `getFormatString` fails on
the latched expression's type. The three `TransAssert`s of the latch never fire. -/
theorem expressionDetector_fault (isInIncludedFile : Expr → Bool) (isCXXLangOpt : Bool)
    (options : PassOptions) (ctx : RewriteContext) (hasErrorOccurred : Bool)
    (unit : TranslationUnit) (positive : 1 ≤ options.counter) {fault : Fault}
    (failed : expressionDetector isInIncludedFile isCXXLangOpt options ctx hasErrorOccurred unit =
      .error fault) :
    isCXXLangOpt = false ∧
      (fault = .nullDereference "S" ∨
        options.queryInstanceOnly = false ∧ options.checkReference = false ∧
          options.doReplacement = false ∧
            (fault = .nullDereference "BT" ∨ fault = .transAssert "Bad BuiltinType!")) := by
  cases isCXXLangOpt with
  | true =>
    rw [expressionDetector, collect_cxx] at failed
    have reached := (handleTranslationUnit_fault
      (show handleTranslationUnit options ctx hasErrorOccurred _ = _ from failed)).2.1
    exact absurd reached (by show ¬options.counter ≤ 0; omega)
  | false =>
    refine ⟨rfl, ?_⟩
    rw [expressionDetector, collect_eq_run] at failed
    rcases Fault.bind_eq_error failed with ranFailed | ⟨st, ran, handled⟩
    · exact .inl (run_fault isInIncludedFile options.counter ranFailed)
    obtain ⟨notQuery, reached, latchedFault⟩ := handleTranslationUnit_fault handled
    obtain ⟨candidates, selected, counting⟩ := run_eq_ok isInIncludedFile ran
    have counted : st.counting =
        candidates.foldl (Counting.count options.counter) Counting.initial := counting
    rw [counted, Counting.foldl_count_initial_validInstanceNum] at reached
    rw [counted] at latchedFault
    obtain ⟨funcSome, stmtSome, exprSome⟩ :=
      select_unit_latched isInIncludedFile positive selected reached
    obtain ⟨printing, noReference, inFormat⟩ := latchedFault funcSome stmtSome exprSome
    exact .inr ⟨notQuery, noReference, printing, inFormat⟩

/-- The enumeration program in print mode fails inside `getFormatString`. -/
theorem expressionDetector_fault_enumUnit :
    ∃ fault, expressionDetector (fun _ => false) false ⟨1, false, false, "", false, ""⟩
        ⟨"c", "enum color", 0, 0, 3⟩ false enumUnit = .error fault ∧
      (fault = .nullDereference "S" ∨ fault = .nullDereference "BT" ∨
        fault = .transAssert "Bad BuiltinType!") :=
  ⟨_, rfl, (expressionDetector_fault (fun _ => false) false ⟨1, false, false, "", false, ""⟩
    ⟨"c", "enum color", 0, 0, 3⟩ false enumUnit le_rfl rfl).2.imp_right fun printMode =>
      printMode.2.2.2⟩

/-! ## The declaration of the reporting function -/

theorem FunctionVisit.events_functionDecls (visit : FunctionVisit) :
    visit.events.filterMap Event.functionDecl? = [visit.func] := by
  unfold FunctionVisit.events
  split <;> simp [Event.functionDecl?, List.filterMap_map, Function.comp_def]

theorem TranslationUnit.events_functionDecls (unit : TranslationUnit) :
    unit.events.filterMap Event.functionDecl? = unit.functionDecls := by
  simp only [TranslationUnit.events, TranslationUnit.functionDecls, List.filterMap_flatMap,
    FunctionVisit.events_functionDecls, List.map_eq_flatMap]

/-- The `#include` directives set only the header's fields, `HasHeader` and `HeaderLoc`
recording the first inclusion of the header in the main file. -/
theorem foldl_inclusionDirective :
    ∀ (directives : List InclusionDirective) (hfInfo : HFInfo),
      (∃ hasHeader headerLoc, directives.foldl (fun hfInfo directive =>
          hfInfo.inclusionDirective directive.hashLoc directive.isInMainFile directive.fileName)
          hfInfo = { hfInfo with hasHeader := hasHeader, headerLoc := headerLoc }) ∧
      (directives.foldl (fun hfInfo directive =>
          hfInfo.inclusionDirective directive.hashLoc directive.isInMainFile directive.fileName)
          hfInfo).headerLoc? =
        hfInfo.headerLoc?.or ((directives.find? fun directive =>
          directive.isInMainFile && directive.fileName == hfInfo.headerName).map
            InclusionDirective.hashLoc)
  | [], _ => ⟨⟨_, _, rfl⟩, Option.or_none.symm⟩
  | directive :: directives, hfInfo => by
    obtain ⟨⟨hasHeader₁, headerLoc₁, frame₁⟩, noted₁⟩ :=
      hfInfo.inclusionDirective_spec directive.hashLoc directive.isInMainFile directive.fileName
    obtain ⟨⟨hasHeader, headerLoc, frame⟩, noted⟩ := foldl_inclusionDirective directives
      (hfInfo.inclusionDirective directive.hashLoc directive.isInMainFile directive.fileName)
    refine ⟨⟨hasHeader, headerLoc, by rw [List.foldl_cons, frame, frame₁]⟩, ?_⟩
    have sameName : (hfInfo.inclusionDirective directive.hashLoc directive.isInMainFile
        directive.fileName).headerName = hfInfo.headerName := by rw [frame₁]
    rw [List.foldl_cons, noted, noted₁, sameName, Option.or_assoc]
    congr 1
    cases named : directive.isInMainFile && directive.fileName == hfInfo.headerName <;>
      simp [List.find?_cons, named]

/-- **After the collection phase over a C program, `HFInfo` holds the first `FunctionDecl` named
as the reporting function that the visitor reached and the first inclusion of its header in
the main file**, with the declaration text `Initialize` set. -/
theorem select_unit_hfInfo (isInIncludedFile : Expr → Bool) {unit : TranslationUnit}
    {checkReference : Bool} {candidates : List Candidate} {visitor : VisitorState}
    (selected : select isInIncludedFile unit.events (unit.start checkReference).visitor =
      .ok (candidates, visitor)) :
    visitor.hfInfo.functionDeclStr = (HFInfo.initial checkReference).functionDeclStr ∧
    visitor.hfInfo.functionName = (HFInfo.initial checkReference).functionName ∧
    visitor.hfInfo.functionLoc? = (unit.functionDecls.find? fun FD =>
      FD.decl.name == (HFInfo.initial checkReference).functionName).map FunctionDecl.loc ∧
    visitor.hfInfo.headerLoc? = (unit.inclusionDirectives.find? fun directive =>
      directive.isInMainFile && directive.fileName == (HFInfo.initial checkReference).headerName).map
        InclusionDirective.hashLoc := by
  obtain ⟨⟨hasFunction, functionLoc, final⟩, declared⟩ := select_hfInfo isInIncludedFile selected
  obtain ⟨⟨hasHeader, headerLoc, started⟩, included⟩ :=
    foldl_inclusionDirective unit.inclusionDirectives (HFInfo.initial checkReference)
  have startedAt : (unit.start checkReference).visitor.hfInfo = _ := started
  rw [startedAt] at declared
  refine ⟨by rw [final, startedAt], by rw [final, startedAt], ?_, ?_⟩
  · rw [declared, unit.events_functionDecls]
    cases checkReference <;> rfl
  · rw [final]
    refine included.trans ?_
    cases checkReference <;> rfl

/-- `int x;`. -/
def globalX : NamedDecl := ⟨1, "x", .var⟩

/-- `x` in `return x;`. -/
def returnedX : Expr := .node 10 (.declRef globalX) (.builtin .int) []

/-- `return x;`. -/
def returnX : Stmt :=
  .returnStmt 3 (some (.node 11 (.implicitCast .lValueToRValue) (.builtin .int) [returnedX]))

/-- `int x; int f(void) { return x; }`. -/
def returnXUnit : TranslationUnit :=
  ⟨[], [[], [FunctionVisit.ofFunctionDecl
    ⟨⟨2, "f", .function false⟩, 10, false, [], [], some (.compound 4 [returnX])⟩]]⟩

/-- What `getExprString`, the printed type and the name queries give on that program. -/
def returnXContext : RewriteContext := ⟨"x", "int", 0, 0, 20⟩

/-- **Outside direct replacement, a rewrite declares the reporting function at the top of the
file exactly when the latched statement begins before the first `FunctionDecl` named as the
function that the collection visitor reaches, and before the first inclusion of its header
in the main file.** -/
theorem expressionDetector_declares_reporting_function (isInIncludedFile : Expr → Bool)
    (options : PassOptions) (ctx : RewriteContext) (hasErrorOccurred : Bool)
    (unit : TranslationUnit) (printing : options.doReplacement = false) {result : TransResult}
    (ended : expressionDetector isInIncludedFile false options ctx hasErrorOccurred unit =
      .ok result)
    (edited : result.edits ≠ []) :
    Edit.insertText 0 ((HFInfo.initial options.checkReference).functionDeclStr ++ ";\n") ∈
        result.edits ↔
      (∀ FD ∈ unit.functionDecls.find? (fun FD =>
          FD.decl.name == (HFInfo.initial options.checkReference).functionName),
        ctx.stmtBeginLoc < FD.loc) ∧
      ∀ directive ∈ unit.inclusionDirectives.find? (fun directive => directive.isInMainFile &&
          directive.fileName == (HFInfo.initial options.checkReference).headerName),
        ctx.stmtBeginLoc < directive.hashLoc := by
  rw [expressionDetector, collect_eq_run] at ended
  obtain ⟨st, ran, handled⟩ := Fault.bind_eq_ok ended
  obtain ⟨theStmt, theExpr, rewritten⟩ := handleTranslationUnit_edits printing handled edited
  obtain ⟨candidates, selected, -⟩ := run_eq_ok isInIncludedFile ran
  obtain ⟨declStr, -, declared, included⟩ := select_unit_hfInfo isInIncludedFile selected
  rw [← declStr, doRewrite_declares rewritten, shouldAddFunctionDecl_iff, declared, included,
    Option.forall_mem_map, Option.forall_mem_map]

/-- On `int x; int f(void) { return x; }` the rewrite declares `printf`: the program neither
declares it nor includes its header. -/
theorem expressionDetector_declares_reporting_function_returnX :
    ∃ result : TransResult,
      expressionDetector (fun _ => false) false ⟨1, false, false, "", false, ""⟩ returnXContext
          false returnXUnit = .ok result ∧ result.edits ≠ [] ∧
        (Edit.insertText 0 ((HFInfo.initial false).functionDeclStr ++ ";\n") ∈ result.edits ↔
          (∀ FD ∈ returnXUnit.functionDecls.find? (fun FD =>
              FD.decl.name == (HFInfo.initial false).functionName),
            returnXContext.stmtBeginLoc < FD.loc) ∧
          ∀ directive ∈ returnXUnit.inclusionDirectives.find? (fun directive =>
              directive.isInMainFile && directive.fileName == (HFInfo.initial false).headerName),
            returnXContext.stmtBeginLoc < directive.hashLoc) :=
  ⟨_, rfl, nofun, expressionDetector_declares_reporting_function (fun _ => false)
    ⟨1, false, false, "", false, ""⟩ returnXContext false returnXUnit rfl rfl nofun⟩

end ClangDelta
