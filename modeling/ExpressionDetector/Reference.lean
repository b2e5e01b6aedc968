import ExpressionDetector.Filter

/-!
# The filter against its reference

The reference filter of the validity rules keeps no memo table: it recomputes the write set
and the named temporaries of `S` on every query, and it deduplicates `E` only against the
expressions it accepted for `S` earlier in the same function (`referenceIsValidExpr`). The
implementation differs in two places: it memoises both collectors per statement across the
whole run, and it appends `E` to `UniqueExprs[S]` before the capture check, so that
`UniqueExprs[S]` also holds expressions the capture check rejected.

Neither difference changes a decision (`filterFunctions_eq_referenceFunctions`). The memo
tables are sound. An expression of `UniqueExprs[S]` that was not accepted is captured, and
since the oracle is transitive a query identical to it is captured as well: the reference
rejects it at the capture check where the implementation rejects it at the dedup check. The
simulation relation `FilterSimulation` says this, and every query preserves it
(`FilterSimulation.isValidExpr`).

Over a run of the filter from any tables, no two accepted queries of one statement are
identical, in either order (`acceptedQueries_pairwise_not_identical`): every acceptance is
recorded in `UniqueExprs[S]`, which only grows, and every later query of `S` is checked
against it. The collection phase runs the filter this way over each function.
-/

set_option autoImplicit false

namespace ClangDelta

theorem mem_update_append {f : Stmt → List Expr} {S S' : Stmt} {E R : Expr} :
    R ∈ Function.update f S (f S ++ [E]) S' ↔ R ∈ f S' ∨ (S' = S ∧ R = E) := by
  by_cases same : S' = S
  · subst same
    simp
  · simp [Function.update_noteq same, same]

/-! ## The reference filter -/

/-- The validity rules without memo tables: the local checks, the write set and the named
temporaries recomputed from `S`, and the dedup against the expressions `accepted` for `S`
so far in the function. -/
def referenceIsValidExpr (processedExprs : NamedDecl → Option Expr)
    (accepted : Stmt → List Expr) (S : Stmt) (E : Expr) : Bool :=
  !rejectsLocally S E && !(LocalUOBOVisitor.traverseStmt S).contains E &&
    !(accepted S).any (fun A => isIdenticalExpr (some A) (some E)) &&
    !hasIdenticalExpr processedExprs (LocalTmpVarCollector.traverseStmt tmpVarNamePrefix S) E

/-- The accepted lists after one query of the reference filter. -/
def referenceAccept (processedExprs : NamedDecl → Option Expr) (accepted : Stmt → List Expr)
    (S : Stmt) (E : Expr) : Stmt → List Expr :=
  if referenceIsValidExpr processedExprs accepted S E then
    Function.update accepted S (accepted S ++ [E])
  else accepted

/-- The reference filter over the queries of one function. -/
def referenceRun (processedExprs : NamedDecl → Option Expr) :
    (Stmt → List Expr) → List (Stmt × Expr) → List Bool
  | _, [] => []
  | accepted, (S, E) :: queries =>
    referenceIsValidExpr processedExprs accepted S E ::
      referenceRun processedExprs (referenceAccept processedExprs accepted S E) queries

/-- The reference filter over a run of function bodies, each with its temporaries and from
no acceptance. -/
def referenceFunctions
    (functions : List ((NamedDecl → Option Expr) × List (Stmt × Expr))) : List (List Bool) :=
  functions.map fun function => referenceRun function.1 (fun _ => []) function.2

/-! ## The implementation over a run -/

/-- The implementation over the queries of one function: the decisions and the tables after
them. -/
def filterRun : Caches → List (Stmt × Expr) → List Bool × Caches
  | caches, [] => ([], caches)
  | caches, (S, E) :: queries =>
    let (valid, caches) := isValidExpr S E caches
    let (decisions, caches) := filterRun caches queries
    (valid :: decisions, caches)

theorem filterRun_cons (caches : Caches) (S : Stmt) (E : Expr) (queries : List (Stmt × Expr)) :
    filterRun caches ((S, E) :: queries) =
      ((isValidExpr S E caches).1 :: (filterRun (isValidExpr S E caches).2 queries).1,
        (filterRun (isValidExpr S E caches).2 queries).2) :=
  rfl

/-- The implementation over a run of function bodies: before each body `ProcessedExprs` holds
its temporaries, after it `UniqueExprs` and `ProcessedExprs` are cleared, and the memo tables
persist throughout. -/
def filterFunctions :
    Caches → List ((NamedDecl → Option Expr) × List (Stmt × Expr)) → List (List Bool)
  | _, [] => []
  | caches, (processedExprs, queries) :: functions =>
    let run := filterRun { caches with processedExprs } queries
    run.1 :: filterFunctions
      { run.2 with uniqueExprs := fun _ => [], processedExprs := fun _ => none } functions

/-! ## Simulation -/

/-- The implementation's tables against the reference's accepted lists within one function:
the memo tables are sound and hold this function's temporaries, every accepted expression
is in `UniqueExprs`, and every expression of `UniqueExprs` is accepted or captured. -/
structure FilterSimulation (processedExprs : NamedDecl → Option Expr) (caches : Caches)
    (accepted : Stmt → List Expr) : Prop where
  sound : caches.Sound
  processed : caches.processedExprs = processedExprs
  accepted_unique : ∀ S E, E ∈ accepted S → E ∈ caches.uniqueExprs S
  unique_accepted_or_captured : ∀ S R, R ∈ caches.uniqueExprs S →
    R ∈ accepted S ∨
      hasIdenticalExpr processedExprs (LocalTmpVarCollector.traverseStmt tmpVarNamePrefix S) R

namespace FilterSimulation

variable {processedExprs : NamedDecl → Option Expr} {caches : Caches}
  {accepted : Stmt → List Expr}

/-- A function starts with no acceptance and an empty `UniqueExprs`. -/
theorem start (sound : caches.Sound) (empty : caches.uniqueExprs = fun _ => []) :
    FilterSimulation processedExprs { caches with processedExprs } fun _ => [] :=
  ⟨⟨sound.invalidExprs, sound.tmpVars⟩, rfl, fun _ _ mem => absurd mem (List.not_mem_nil _),
    fun _ _ mem => by simp [empty] at mem⟩

/-- Under the simulation the two dedup checks agree up to the capture check: an expression of
`UniqueExprs[S]` identical to `E` is accepted, or it makes `E` captured. -/
theorem duplicate_or_captured_iff (simulation : FilterSimulation processedExprs caches accepted)
    (S : Stmt) (E : Expr) :
    ((caches.uniqueExprs S).any (fun I => isIdenticalExpr (some I) (some E)) ||
        hasIdenticalExpr processedExprs (LocalTmpVarCollector.traverseStmt tmpVarNamePrefix S) E) =
      ((accepted S).any (fun A => isIdenticalExpr (some A) (some E)) ||
        hasIdenticalExpr processedExprs (LocalTmpVarCollector.traverseStmt tmpVarNamePrefix S) E) := by
  refine Bool.eq_iff_iff.mpr ⟨fun implementation => ?_, fun reference => ?_⟩
  · simp only [Bool.or_eq_true, List.any_eq_true, isIdenticalExpr_some] at implementation ⊢
    rcases implementation with ⟨I, mem, identical⟩ | captured
    · rcases simulation.unique_accepted_or_captured S I mem with acceptedI | capturedI
      · exact .inl ⟨I, acceptedI, identical⟩
      · exact .inr (hasIdenticalExpr_of_isIdenticalExpr capturedI identical)
    · exact .inr captured
  · simp only [Bool.or_eq_true, List.any_eq_true, isIdenticalExpr_some] at reference ⊢
    rcases reference with ⟨A, mem, identical⟩ | captured
    · exact .inl ⟨A, simulation.accepted_unique S A mem, identical⟩
    · exact .inr captured

/-- One query: both filters decide alike. -/
theorem isValidExpr_fst_eq (simulation : FilterSimulation processedExprs caches accepted)
    {S : Stmt} {E : Expr} :
    (isValidExpr S E caches).1 = referenceIsValidExpr processedExprs accepted S E := by
  have agree := simulation.duplicate_or_captured_iff S E
  rw [isValidExpr_fst simulation.sound, simulation.processed, referenceIsValidExpr]
  cases rejectsLocally S E <;> cases (LocalUOBOVisitor.traverseStmt S).contains E <;>
    simp only [Bool.not_true, Bool.not_false, Bool.false_and, Bool.true_and, Bool.and_assoc,
      ← Bool.not_or, agree]

/-- One query preserves the simulation. -/
theorem isValidExpr (simulation : FilterSimulation processedExprs caches accepted)
    {S : Stmt} {E : Expr} :
    FilterSimulation processedExprs (ClangDelta.isValidExpr S E caches).2
      (referenceAccept processedExprs accepted S E) := by
  have sameDecision : (ClangDelta.isValidExpr S E caches).1 =
      referenceIsValidExpr processedExprs accepted S E :=
    simulation.isValidExpr_fst_eq
  have referenceMono :
      ∀ {S' R}, R ∈ accepted S' → R ∈ referenceAccept processedExprs accepted S E S' := by
    intro S' R mem
    unfold referenceAccept
    split_ifs
    · exact mem_update_append.mpr (.inl mem)
    · exact mem
  refine ⟨isValidExpr_sound simulation.sound,
    (isValidExpr_processedExprs simulation.sound).trans simulation.processed,
    fun S' E' mem => ?_, fun S' R mem => ?_⟩
  · unfold referenceAccept at mem
    split_ifs at mem with valid
    · rcases mem_update_append.mp mem with old | ⟨rfl, rfl⟩
      · exact isValidExpr_uniqueExprs_mono (simulation.accepted_unique S' E' old)
      · rw [(isValidExpr_uniqueExprs_of_accepted (sameDecision.trans valid)).2]
        exact mem_update_append.mpr (.inr ⟨rfl, rfl⟩)
    · exact isValidExpr_uniqueExprs_mono (simulation.accepted_unique S' E' mem)
  · rw [isValidExpr_uniqueExprs simulation.sound] at mem
    split_ifs at mem with passes
    · rcases mem_update_append.mp mem with old | ⟨rfl, rfl⟩
      · exact (simulation.unique_accepted_or_captured S' R old).imp_left referenceMono
      · cases captured : hasIdenticalExpr processedExprs
          (LocalTmpVarCollector.traverseStmt tmpVarNamePrefix S') R
        · have valid : referenceIsValidExpr processedExprs accepted S' R = true := by
            rw [← sameDecision, isValidExpr_fst simulation.sound, passes, simulation.processed,
              captured]
            rfl
          left
          unfold referenceAccept
          rw [if_pos valid]
          exact mem_update_append.mpr (.inr ⟨rfl, rfl⟩)
        · exact .inr rfl
    · exact (simulation.unique_accepted_or_captured S' R mem).imp_left referenceMono

/-- Over the queries of one function the implementation decides as the reference, and its
tables stay sound. -/
theorem run {processedExprs : NamedDecl → Option Expr} :
    ∀ {caches : Caches} {accepted : Stmt → List Expr} (queries : List (Stmt × Expr)),
      FilterSimulation processedExprs caches accepted →
        (filterRun caches queries).1 = referenceRun processedExprs accepted queries ∧
          (filterRun caches queries).2.Sound
  | _, _, [], simulation => ⟨rfl, simulation.sound⟩
  | _, _, (_, _) :: queries, simulation => by
    obtain ⟨decisions, sound⟩ := run queries simulation.isValidExpr
    rw [filterRun_cons, referenceRun, simulation.isValidExpr_fst_eq, decisions]
    exact ⟨rfl, sound⟩

end FilterSimulation

theorem filterFunctions_eq_referenceFunctions_of_sound :
    ∀ {caches : Caches}, caches.Sound → caches.uniqueExprs = (fun _ => []) →
      ∀ functions, filterFunctions caches functions = referenceFunctions functions
  | _, _, _, [] => rfl
  | caches, sound, empty, (processedExprs, queries) :: functions => by
    have simulation : FilterSimulation processedExprs { caches with processedExprs } fun _ => [] :=
      FilterSimulation.start sound empty
    obtain ⟨decisions, sound'⟩ := simulation.run queries
    have reset : Caches.Sound { (filterRun { caches with processedExprs } queries).2 with
        uniqueExprs := fun _ => [], processedExprs := fun _ => none } :=
      ⟨sound'.invalidExprs, sound'.tmpVars⟩
    have rest := filterFunctions_eq_referenceFunctions_of_sound reset rfl functions
    rw [filterFunctions, decisions, rest]
    rfl

/-- **The memoising filter accepts exactly what the reference filter accepts**: over any run
of function bodies, each with its capture temporaries fixed beforehand and any sequence of
queries, from the empty tables. -/
theorem filterFunctions_eq_referenceFunctions
    (functions : List ((NamedDecl → Option Expr) × List (Stmt × Expr))) :
    filterFunctions Caches.empty functions = referenceFunctions functions :=
  filterFunctions_eq_referenceFunctions_of_sound Caches.empty_sound rfl functions

/-! ## Accepted expressions of one statement -/

/-- The queries a run of the filter accepts, in order. -/
def acceptedQueries : Caches → List (Stmt × Expr) → List (Stmt × Expr)
  | _, [] => []
  | caches, (S, E) :: queries =>
    let rest := acceptedQueries (isValidExpr S E caches).2 queries
    if (isValidExpr S E caches).1 then (S, E) :: rest else rest

/-- An expression of `UniqueExprs[S]` is identical to no expression a later query of `S`
gets accepted. -/
theorem acceptedQueries_not_identical_of_mem :
    ∀ (queries : List (Stmt × Expr)) {caches : Caches} {S : Stmt} {E : Expr},
      E ∈ caches.uniqueExprs S → ∀ later ∈ acceptedQueries caches queries, later.1 = S →
        isIdenticalNonNull E later.2 = false
  | [], _, _, _, _, _, mem, _ => absurd mem (List.not_mem_nil _)
  | (S', E') :: queries, caches, S, E, unique, later, mem, sameStmt => by
    have afterwards := acceptedQueries_not_identical_of_mem queries
      (isValidExpr_uniqueExprs_mono unique : E ∈ (isValidExpr S' E' caches).2.uniqueExprs S)
    simp only [acceptedQueries] at mem
    split_ifs at mem with valid
    · rcases List.mem_cons.mp mem with rfl | rest
      · subst sameStmt
        exact (isValidExpr_uniqueExprs_of_accepted valid).1 _ unique
      · exact afterwards later rest sameStmt
    · exact afterwards later mem sameStmt

/-- **Over a run of the filter no two accepted queries of one statement are identical, in
either order**, whatever the tables at the run's start. -/
theorem acceptedQueries_pairwise_not_identical (caches : Caches)
    (queries : List (Stmt × Expr)) :
    (acceptedQueries caches queries).Pairwise fun first later => first.1 = later.1 →
      isIdenticalExpr (some first.2) (some later.2) = false ∧
        isIdenticalExpr (some later.2) (some first.2) = false := by
  induction queries generalizing caches with
  | nil => exact .nil
  | cons query queries ih =>
    obtain ⟨S, E⟩ := query
    simp only [acceptedQueries]
    split_ifs with valid
    · refine .cons (fun later mem sameStmt => ?_) (ih _)
      have recorded : E ∈ (isValidExpr S E caches).2.uniqueExprs S := by
        rw [(isValidExpr_uniqueExprs_of_accepted valid).2]
        exact mem_update_append.mpr (.inr ⟨rfl, rfl⟩)
      have notIdentical :=
        acceptedQueries_not_identical_of_mem queries recorded later mem sameStmt.symm
      simp only [isIdenticalExpr_some]
      exact ⟨notIdentical, (isIdenticalNonNull_comm _ _).trans notIdentical⟩
    · exact ih _

end ClangDelta
