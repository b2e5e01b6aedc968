/-!
# The C types the pass inspects

The pass reads the static type of an expression in two places. `VisitExpr` admits an
expression only when `Type::isIntegerType` or `Type::isFloatingType` holds of it, and in
print mode `doRewrite` passes `getUnqualifiedDesugaredType()` through `dyn_cast<BuiltinType>`
to pick a `printf` conversion. Both look through sugar: typedefs and qualifiers.

This module models the part of Clang's type lattice those queries distinguish. Builtin kinds
are listed in the order of Clang's `BuiltinTypes.def`, because Clang decides "integer" and
"floating" by a range of that order (`BuiltinKind.isInteger`, `BuiltinKind.isFloating`).
Enumerations, `_BitInt(N)`, `_Complex`, pointers, arrays, records and functions are the other
canonical shapes; `typedef` and `qualified` are the sugar. The Embedded-C fixed-point kinds,
which sit between `int128` and `half` in Clang's order, and the target-specific kinds are left
out: they are neither integer nor floating, so neither query changes on them.
-/

set_option autoImplicit false

namespace ClangDelta

/-- The kinds of `BuiltinType` that C code can meet, in the order of Clang's
`BuiltinTypes.def`. -/
inductive BuiltinKind
  | void
  | bool | charU | uChar | wCharU | char8 | char16 | char32
  | uShort | uInt | uLong | uLongLong | uInt128
  | charS | sChar | wCharS | short | int | long | longLong | int128
  | half | float | double | longDouble | float16 | bFloat16 | float128 | ibm128
  | nullPtr
  deriving DecidableEq, Repr

namespace BuiltinKind

/-- `BT->getKind() >= BuiltinType::Bool && BT->getKind() <= BuiltinType::Int128`. -/
def isInteger (kind : BuiltinKind) : Bool :=
  decide (bool.toCtorIdx ≤ kind.toCtorIdx ∧ kind.toCtorIdx ≤ int128.toCtorIdx)

/-- `BT->getKind() >= BuiltinType::Half && BT->getKind() <= BuiltinType::Ibm128`. -/
def isFloating (kind : BuiltinKind) : Bool :=
  decide (half.toCtorIdx ≤ kind.toCtorIdx ∧ kind.toCtorIdx ≤ ibm128.toCtorIdx)

end BuiltinKind

/-- The qualifiers a `QualType` carries. -/
structure Qualifiers where
  isConst : Bool
  isVolatile : Bool
  isRestrict : Bool
  deriving DecidableEq, Repr

/-- A C type: the canonical shapes the pass can meet, and the sugar Clang keeps over them. -/
inductive CType
  | builtin (kind : BuiltinKind)
  | enum (name : String) (isComplete : Bool) (isScoped : Bool)
  | bitInt (isUnsigned : Bool) (numBits : Nat)
  | complex (element : CType)
  | pointer (pointee : CType)
  | array (element : CType)
  | record (name : String)
  | function (result : CType)
  | typedef (name : String) (underlying : CType)
  | qualified (quals : Qualifiers) (base : CType)
  deriving DecidableEq, Repr

namespace CType

/-- `Type::isIntegerType`, read on the canonical type: builtin kinds from `bool` to
`int128`, complete unscoped enumerations, and `_BitInt(N)`. -/
def isIntegerType : CType → Bool
  | builtin kind => kind.isInteger
  | enum _ isComplete isScoped => isComplete && !isScoped
  | bitInt _ _ => true
  | typedef _ underlying => underlying.isIntegerType
  | qualified _ base => base.isIntegerType
  | _ => false

/-- `Type::isFloatingType`, read on the canonical type: builtin kinds from `half` to
`ibm128`, and `_Complex` of a floating type. -/
def isFloatingType : CType → Bool
  | builtin kind => kind.isFloating
  | complex element => element.isFloatingType
  | typedef _ underlying => underlying.isFloatingType
  | qualified _ base => base.isFloatingType
  | _ => false

/-- `Type::getUnqualifiedDesugaredType`: the type with its top-level sugar and qualifiers
removed. -/
def getUnqualifiedDesugaredType : CType → CType
  | typedef _ underlying => underlying.getUnqualifiedDesugaredType
  | qualified _ base => base.getUnqualifiedDesugaredType
  | type => type

/-- `dyn_cast<BuiltinType>`: the builtin kind, when the type node is a builtin type. -/
def asBuiltinType : CType → Option BuiltinKind
  | builtin kind => some kind
  | _ => none

/-- `QualType::isVolatileQualified`: a `volatile` qualifier on the type or on the type a
typedef names. -/
def isVolatileQualified : CType → Bool
  | qualified quals base => quals.isVolatile || base.isVolatileQualified
  | typedef _ underlying => underlying.isVolatileQualified
  | _ => false

/-- Desugaring leaves a type that is neither a typedef nor qualified. -/
theorem getUnqualifiedDesugaredType_idem (type : CType) :
    type.getUnqualifiedDesugaredType.getUnqualifiedDesugaredType =
      type.getUnqualifiedDesugaredType := by
  induction type <;> simp only [getUnqualifiedDesugaredType, *]

/-- `isIntegerType` reads the canonical type, so it does not see the sugar. -/
theorem isIntegerType_getUnqualifiedDesugaredType (type : CType) :
    type.getUnqualifiedDesugaredType.isIntegerType = type.isIntegerType := by
  induction type <;> simp only [getUnqualifiedDesugaredType, isIntegerType, *]

/-- `isFloatingType` reads the canonical type, so it does not see the sugar. -/
theorem isFloatingType_getUnqualifiedDesugaredType (type : CType) :
    type.getUnqualifiedDesugaredType.isFloatingType = type.isFloatingType := by
  induction type <;> simp only [getUnqualifiedDesugaredType, isFloatingType, *]

end CType

end ClangDelta
