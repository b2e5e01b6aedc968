import ExpressionDetector.Pass

/-!
# The preprocessor's callbacks among the declarations

The front end drives the pass through two channels. The preprocessor calls
`IncludesPPCallbacks::InclusionDirective` for every `#include` it meets, and the parser hands
each top-level declaration group to `HandleTopLevelDecl`, whose collection visitor makes the
events of the collection phase. The two arrive interleaved, in the order the front end reads
the file: an `#include` may follow declarations.

The model of the pass takes the directives first (`TranslationUnit.start`). That is no loss:
the callback writes only `HasHeader` and `HeaderLoc`, which no event of the collection phase
reads, and no event writes them, so one directive and one event commute
(`step_inclusionDirective`). Along any interleaving of the program's directives with its
events the collection phase ends as the model's does (`runFrontEnd_eq_run`), and so does the
whole pass (`expressionDetector_interleaved`).
-/

set_option autoImplicit false

namespace ClangDelta

/-- What the front end hands the pass, in the order it produces it: a call of the
preprocessor's `InclusionDirective`, or an event of the collection visitor. -/
inductive FrontEndEvent
  | inclusionDirective (directive : InclusionDirective)
  | collection (event : Event)

/-- The directive of a front-end event, if it is one. -/
def FrontEndEvent.directive? : FrontEndEvent → Option InclusionDirective
  | .inclusionDirective directive => some directive
  | .collection _ => none

/-- The collection event of a front-end event, if it is one. -/
def FrontEndEvent.event? : FrontEndEvent → Option Event
  | .inclusionDirective _ => none
  | .collection event => some event

/-- `IncludesPPCallbacks::InclusionDirective` on the pass's state. -/
def CollectionState.inclusionDirective (st : CollectionState) (directive : InclusionDirective) :
    CollectionState :=
  { st with visitor := { st.visitor with hfInfo := (st.visitor.hfInfo.inclusionDirective
      directive.hashLoc directive.isInMainFile directive.fileName) } }

section FrontEnd

variable (isInIncludedFile : Expr → Bool)

/-- The collection phase of a C program as the front end drives it: the preprocessor's
callbacks interleaved with the events of the collection visitor. -/
def runFrontEnd (counter : Nat) :
    List FrontEndEvent → CollectionState → Except Fault CollectionState
  | [], st => pure st
  | .inclusionDirective directive :: trace, st =>
    runFrontEnd counter trace (st.inclusionDirective directive)
  | .collection event :: trace, st =>
    step isInIncludedFile counter event st >>= runFrontEnd counter trace

/-! ## One directive and one event commute -/

/-- An `#include` leaves the fields `VisitFunctionDecl` reads. -/
theorem HFInfo.inclusionDirective_functionFields (hfInfo : HFInfo) (hashLoc : Nat)
    (isInMainFile : Bool) (fileName : String) :
    (hfInfo.inclusionDirective hashLoc isInMainFile fileName).hasFunction = hfInfo.hasFunction ∧
      (hfInfo.inclusionDirective hashLoc isInMainFile fileName).functionName =
        hfInfo.functionName := by
  unfold HFInfo.inclusionDirective; split_ifs <;> exact ⟨rfl, rfl⟩

/-- Noting the reporting function and noting the header touch different fields. -/
theorem HFInfo.inclusionDirective_noteFunction (hfInfo : HFInfo) (hashLoc : Nat)
    (isInMainFile : Bool) (fileName : String) (functionLoc : Nat) :
    { hfInfo with hasFunction := true, functionLoc }.inclusionDirective hashLoc isInMainFile
        fileName =
      { hfInfo.inclusionDirective hashLoc isInMainFile fileName with
        hasFunction := true, functionLoc } := by
  unfold HFInfo.inclusionDirective; split_ifs <;> rfl

theorem visitFunctionDecl_inclusionDirective (FD : FunctionDecl) (visitor : VisitorState)
    (directive : InclusionDirective) :
    { visitor with hfInfo := (visitor.hfInfo.inclusionDirective directive.hashLoc
        directive.isInMainFile directive.fileName) }.visitFunctionDecl FD =
      { visitor.visitFunctionDecl FD with
        hfInfo := ((visitor.visitFunctionDecl FD).hfInfo.inclusionDirective directive.hashLoc
          directive.isInMainFile directive.fileName) } := by
  obtain ⟨hasFunction, functionName⟩ := HFInfo.inclusionDirective_functionFields
    visitor.hfInfo directive.hashLoc directive.isInMainFile directive.fileName
  simp only [VisitorState.visitFunctionDecl]
  rw [← HFInfo.inclusionDirective_noteFunction, hasFunction, functionName]
  split_ifs <;> rfl

/-- **One event of the collection phase commutes with one `#include`.** -/
theorem step_inclusionDirective (counter : Nat) (event : Event) (st : CollectionState)
    (directive : InclusionDirective) :
    step isInIncludedFile counter event (st.inclusionDirective directive) =
      (·.inclusionDirective directive) <$> step isInIncludedFile counter event st := by
  cases event with
  | visitFunctionDecl FD =>
    simp only [step, CollectionState.inclusionDirective]
    rw [visitFunctionDecl_inclusionDirective]
    rfl
  | visitExpr S E =>
    simp only [step, visitExpr, CollectionState.inclusionDirective]
    cases acceptExpr isInIncludedFile S E st.visitor.caches with
    | error fault => rfl
    | ok result =>
      obtain ⟨valid, caches⟩ := result
      cases valid <;> rfl
  | endFunctionDecl => rfl

theorem step_foldl_inclusionDirective (counter : Nat) (event : Event) :
    ∀ (directives : List InclusionDirective) (st : CollectionState),
      step isInIncludedFile counter event (directives.foldl CollectionState.inclusionDirective st) =
        (directives.foldl CollectionState.inclusionDirective ·) <$>
          step isInIncludedFile counter event st
  | [], st => (id_map (step isInIncludedFile counter event st)).symm
  | directive :: directives, st => by
    rw [List.foldl_cons, step_foldl_inclusionDirective counter event directives,
      step_inclusionDirective, ← comp_map]
    rfl

/-! ## Any interleaving -/

/-- Along any trace, the collection phase runs the trace's events from the state its
directives make. -/
theorem runFrontEnd_eq_run_foldl (counter : Nat) :
    ∀ (trace : List FrontEndEvent) (st : CollectionState),
      runFrontEnd isInIncludedFile counter trace st =
        run isInIncludedFile counter (trace.filterMap FrontEndEvent.event?)
          ((trace.filterMap FrontEndEvent.directive?).foldl CollectionState.inclusionDirective st)
  | [], _ => rfl
  | .inclusionDirective directive :: trace, st => runFrontEnd_eq_run_foldl counter trace _
  | .collection event :: trace, st => by
    simp only [runFrontEnd, List.filterMap_cons, FrontEndEvent.event?, FrontEndEvent.directive?,
      run, step_foldl_inclusionDirective]
    cases step isInIncludedFile counter event st with
    | error fault => rfl
    | ok st' => exact runFrontEnd_eq_run_foldl counter trace st'

theorem foldl_inclusionDirective_start (checkReference : Bool) :
    ∀ (directives : List InclusionDirective) (hfInfo : HFInfo),
      directives.foldl CollectionState.inclusionDirective
          ⟨Counting.initial, { VisitorState.initial checkReference with hfInfo }⟩ =
        ⟨Counting.initial, { VisitorState.initial checkReference with
          hfInfo := directives.foldl (fun hfInfo directive => hfInfo.inclusionDirective
            directive.hashLoc directive.isInMainFile directive.fileName) hfInfo }⟩
  | [], _ => rfl
  | _ :: directives, _ => foldl_inclusionDirective_start checkReference directives _

/-- **The collection phase ends alike along every interleaving**: for any order in which the
front end interleaves a C program's `#include` directives with the events of its
declarations, keeping the order within each, the collection phase from the pass's initial
state ends as the model's, which takes the directives first. -/
theorem runFrontEnd_eq_run (unit : TranslationUnit) (checkReference : Bool) (counter : Nat)
    (trace : List FrontEndEvent)
    (directives : trace.filterMap FrontEndEvent.directive? = unit.inclusionDirectives)
    (events : trace.filterMap FrontEndEvent.event? = unit.events) :
    runFrontEnd isInIncludedFile counter trace
        ⟨Counting.initial, VisitorState.initial checkReference⟩ =
      run isInIncludedFile counter unit.events (unit.start checkReference) := by
  rw [runFrontEnd_eq_run_foldl, directives, events]
  exact congrArg _ (foldl_inclusionDirective_start checkReference _ _)

/-- **The pass ends alike along every interleaving** of a C program's `#include` directives
with its declarations. -/
theorem expressionDetector_interleaved (options : PassOptions) (ctx : RewriteContext)
    (hasErrorOccurred : Bool) (unit : TranslationUnit) (trace : List FrontEndEvent)
    (directives : trace.filterMap FrontEndEvent.directive? = unit.inclusionDirectives)
    (events : trace.filterMap FrontEndEvent.event? = unit.events) :
    (runFrontEnd isInIncludedFile options.counter trace
        ⟨Counting.initial, VisitorState.initial options.checkReference⟩ >>=
      handleTranslationUnit options ctx hasErrorOccurred) =
      expressionDetector isInIncludedFile false options ctx hasErrorOccurred unit := by
  rw [runFrontEnd_eq_run isInIncludedFile unit options.checkReference options.counter trace
    directives events, expressionDetector, collect_eq_run]

/-- `int x; int f(void) { return x; }` followed by `#include <stdio.h>`. -/
def lateIncludeUnit : TranslationUnit :=
  ⟨[⟨40, true, "stdio.h"⟩], returnXUnit.topLevelDecls⟩

/-- The order the front end reads `lateIncludeUnit` in: the declarations, then the
`#include`. -/
def lateIncludeTrace : List FrontEndEvent :=
  returnXUnit.events.map .collection ++ [.inclusionDirective ⟨40, true, "stdio.h"⟩]

theorem expressionDetector_interleaved_lateInclude :
    lateIncludeTrace.filterMap FrontEndEvent.directive? = lateIncludeUnit.inclusionDirectives ∧
      lateIncludeTrace.filterMap FrontEndEvent.event? = lateIncludeUnit.events ∧
      (runFrontEnd (fun _ => false) 1 lateIncludeTrace
          ⟨Counting.initial, VisitorState.initial false⟩ >>=
        handleTranslationUnit ⟨1, false, false, "", false, ""⟩ returnXContext false) =
        expressionDetector (fun _ => false) false ⟨1, false, false, "", false, ""⟩ returnXContext
          false lateIncludeUnit :=
  ⟨rfl, rfl, expressionDetector_interleaved (fun _ => false) ⟨1, false, false, "", false, ""⟩
    returnXContext false lateIncludeUnit lateIncludeTrace rfl rfl⟩

end FrontEnd

end ClangDelta
