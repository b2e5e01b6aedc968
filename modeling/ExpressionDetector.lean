import ExpressionDetector.Clang.Type
import ExpressionDetector.Clang.Expr
import ExpressionDetector.Clang.Stmt
import ExpressionDetector.Identical
import ExpressionDetector.Collectors
import ExpressionDetector.Filter
import ExpressionDetector.Reference
import ExpressionDetector.Collection
import ExpressionDetector.Walker
import ExpressionDetector.Rewrite
import ExpressionDetector.Pass
import ExpressionDetector.FrontEnd
import ExpressionDetector.ReferenceCollection
import ExpressionDetector.Candidates
import ExpressionDetector.Rerun
