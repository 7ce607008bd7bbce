/-!
# Kinds

The numbered kinds that declarations, types, tokens and the like are sorted into. Each family of kinds
is a table of numbers and names. A number is looked up as a place in the table, and a negative one
counts from the table's end.
-/

namespace GirDoc.Ast

/-- The families of kinds. -/
inductive Family where
  | cursor
  | type
  | templateArgument
  | access
  | refQualifier
  | storage
  | token
  deriving Repr, DecidableEq, Inhabited

/-- A kind: its family, number and name. -/
structure Kind where
  family : Family
  id : Nat
  name : String
  deriving Repr, DecidableEq, Inhabited

/-- Why a number stands for no kind. -/
inductive KindFailure where
  /-- The place of the table is empty, or the table ends before it. -/
  | unknown
  /-- The number lies before the start of the table. -/
  | beforeTable
  deriving Repr, DecidableEq

/-- Names with consecutive numbers from `first` on. -/
def run (first : Nat) (names : List String) : List (Nat × String) :=
  names.zipIdx.map fun (name, i) => (first + i, name)

/-- The kinds of syntax tree nodes. -/
def cursorKinds : List (Nat × String) :=
  run 1 [
    "UNEXPOSED_DECL", "STRUCT_DECL", "UNION_DECL", "CLASS_DECL", "ENUM_DECL", "FIELD_DECL",
    "ENUM_CONSTANT_DECL", "FUNCTION_DECL", "VAR_DECL", "PARM_DECL", "OBJC_INTERFACE_DECL",
    "OBJC_CATEGORY_DECL", "OBJC_PROTOCOL_DECL", "OBJC_PROPERTY_DECL", "OBJC_IVAR_DECL",
    "OBJC_INSTANCE_METHOD_DECL", "OBJC_CLASS_METHOD_DECL", "OBJC_IMPLEMENTATION_DECL",
    "OBJC_CATEGORY_IMPL_DECL", "TYPEDEF_DECL", "CXX_METHOD", "NAMESPACE", "LINKAGE_SPEC",
    "CONSTRUCTOR", "DESTRUCTOR", "CONVERSION_FUNCTION", "TEMPLATE_TYPE_PARAMETER",
    "TEMPLATE_NON_TYPE_PARAMETER", "TEMPLATE_TEMPLATE_PARAMETER", "FUNCTION_TEMPLATE",
    "CLASS_TEMPLATE", "CLASS_TEMPLATE_PARTIAL_SPECIALIZATION", "NAMESPACE_ALIAS",
    "USING_DIRECTIVE", "USING_DECLARATION", "TYPE_ALIAS_DECL", "OBJC_SYNTHESIZE_DECL",
    "OBJC_DYNAMIC_DECL", "CXX_ACCESS_SPEC_DECL", "OBJC_SUPER_CLASS_REF", "OBJC_PROTOCOL_REF",
    "OBJC_CLASS_REF", "TYPE_REF", "CXX_BASE_SPECIFIER", "TEMPLATE_REF", "NAMESPACE_REF",
    "MEMBER_REF", "LABEL_REF", "OVERLOADED_DECL_REF", "VARIABLE_REF"] ++
  run 70 [
    "INVALID_FILE", "NO_DECL_FOUND", "NOT_IMPLEMENTED", "INVALID_CODE"] ++
  run 100 [
    "UNEXPOSED_EXPR", "DECL_REF_EXPR", "MEMBER_REF_EXPR", "CALL_EXPR", "OBJC_MESSAGE_EXPR",
    "BLOCK_EXPR", "INTEGER_LITERAL", "FLOATING_LITERAL", "IMAGINARY_LITERAL", "STRING_LITERAL",
    "CHARACTER_LITERAL", "PAREN_EXPR", "UNARY_OPERATOR", "ARRAY_SUBSCRIPT_EXPR",
    "BINARY_OPERATOR", "COMPOUND_ASSIGNMENT_OPERATOR", "CONDITIONAL_OPERATOR", "CSTYLE_CAST_EXPR",
    "COMPOUND_LITERAL_EXPR", "INIT_LIST_EXPR", "ADDR_LABEL_EXPR", "StmtExpr",
    "GENERIC_SELECTION_EXPR", "GNU_NULL_EXPR", "CXX_STATIC_CAST_EXPR", "CXX_DYNAMIC_CAST_EXPR",
    "CXX_REINTERPRET_CAST_EXPR", "CXX_CONST_CAST_EXPR", "CXX_FUNCTIONAL_CAST_EXPR",
    "CXX_TYPEID_EXPR", "CXX_BOOL_LITERAL_EXPR", "CXX_NULL_PTR_LITERAL_EXPR", "CXX_THIS_EXPR",
    "CXX_THROW_EXPR", "CXX_NEW_EXPR", "CXX_DELETE_EXPR", "CXX_UNARY_EXPR", "OBJC_STRING_LITERAL",
    "OBJC_ENCODE_EXPR", "OBJC_SELECTOR_EXPR", "OBJC_PROTOCOL_EXPR", "OBJC_BRIDGE_CAST_EXPR",
    "PACK_EXPANSION_EXPR", "SIZE_OF_PACK_EXPR", "LAMBDA_EXPR", "OBJ_BOOL_LITERAL_EXPR",
    "OBJ_SELF_EXPR", "OMP_ARRAY_SECTION_EXPR", "OBJC_AVAILABILITY_CHECK_EXPR"] ++
  run 200 [
    "UNEXPOSED_STMT", "LABEL_STMT", "COMPOUND_STMT", "CASE_STMT", "DEFAULT_STMT", "IF_STMT",
    "SWITCH_STMT", "WHILE_STMT", "DO_STMT", "FOR_STMT", "GOTO_STMT", "INDIRECT_GOTO_STMT",
    "CONTINUE_STMT", "BREAK_STMT", "RETURN_STMT", "ASM_STMT", "OBJC_AT_TRY_STMT",
    "OBJC_AT_CATCH_STMT", "OBJC_AT_FINALLY_STMT", "OBJC_AT_THROW_STMT",
    "OBJC_AT_SYNCHRONIZED_STMT", "OBJC_AUTORELEASE_POOL_STMT", "OBJC_FOR_COLLECTION_STMT",
    "CXX_CATCH_STMT", "CXX_TRY_STMT", "CXX_FOR_RANGE_STMT", "SEH_TRY_STMT", "SEH_EXCEPT_STMT",
    "SEH_FINALLY_STMT", "MS_ASM_STMT", "NULL_STMT", "DECL_STMT", "OMP_PARALLEL_DIRECTIVE",
    "OMP_SIMD_DIRECTIVE", "OMP_FOR_DIRECTIVE", "OMP_SECTIONS_DIRECTIVE", "OMP_SECTION_DIRECTIVE",
    "OMP_SINGLE_DIRECTIVE", "OMP_PARALLEL_FOR_DIRECTIVE", "OMP_PARALLEL_SECTIONS_DIRECTIVE",
    "OMP_TASK_DIRECTIVE", "OMP_MASTER_DIRECTIVE", "OMP_CRITICAL_DIRECTIVE",
    "OMP_TASKYIELD_DIRECTIVE", "OMP_BARRIER_DIRECTIVE", "OMP_TASKWAIT_DIRECTIVE",
    "OMP_FLUSH_DIRECTIVE", "SEH_LEAVE_STMT", "OMP_ORDERED_DIRECTIVE", "OMP_ATOMIC_DIRECTIVE",
    "OMP_FOR_SIMD_DIRECTIVE", "OMP_PARALLELFORSIMD_DIRECTIVE", "OMP_TARGET_DIRECTIVE",
    "OMP_TEAMS_DIRECTIVE", "OMP_TASKGROUP_DIRECTIVE", "OMP_CANCELLATION_POINT_DIRECTIVE",
    "OMP_CANCEL_DIRECTIVE", "OMP_TARGET_DATA_DIRECTIVE", "OMP_TASK_LOOP_DIRECTIVE",
    "OMP_TASK_LOOP_SIMD_DIRECTIVE", "OMP_DISTRIBUTE_DIRECTIVE", "OMP_TARGET_ENTER_DATA_DIRECTIVE",
    "OMP_TARGET_EXIT_DATA_DIRECTIVE", "OMP_TARGET_PARALLEL_DIRECTIVE",
    "OMP_TARGET_PARALLELFOR_DIRECTIVE", "OMP_TARGET_UPDATE_DIRECTIVE",
    "OMP_DISTRIBUTE_PARALLELFOR_DIRECTIVE", "OMP_DISTRIBUTE_PARALLEL_FOR_SIMD_DIRECTIVE",
    "OMP_DISTRIBUTE_SIMD_DIRECTIVE", "OMP_TARGET_PARALLEL_FOR_SIMD_DIRECTIVE",
    "OMP_TARGET_SIMD_DIRECTIVE", "OMP_TEAMS_DISTRIBUTE_DIRECTIVE"] ++
  run 300 [
    "TRANSLATION_UNIT"] ++
  run 400 [
    "UNEXPOSED_ATTR", "IB_ACTION_ATTR", "IB_OUTLET_ATTR", "IB_OUTLET_COLLECTION_ATTR",
    "CXX_FINAL_ATTR", "CXX_OVERRIDE_ATTR", "ANNOTATE_ATTR", "ASM_LABEL_ATTR", "PACKED_ATTR",
    "PURE_ATTR", "CONST_ATTR", "NODUPLICATE_ATTR", "CUDACONSTANT_ATTR", "CUDADEVICE_ATTR",
    "CUDAGLOBAL_ATTR", "CUDAHOST_ATTR", "CUDASHARED_ATTR", "VISIBILITY_ATTR", "DLLEXPORT_ATTR",
    "DLLIMPORT_ATTR"] ++
  run 500 [
    "PREPROCESSING_DIRECTIVE", "MACRO_DEFINITION", "MACRO_INSTANTIATION", "INCLUSION_DIRECTIVE"] ++
  run 600 [
    "MODULE_IMPORT_DECL", "TYPE_ALIAS_TEMPLATE_DECL", "STATIC_ASSERT", "FRIEND_DECL"] ++
  run 700 [
    "OVERLOAD_CANDIDATE"]

/-- The kinds of types. -/
def typeKinds : List (Nat × String) :=
  run 0 [
    "INVALID", "UNEXPOSED", "VOID", "BOOL", "CHAR_U", "UCHAR", "CHAR16", "CHAR32", "USHORT",
    "UINT", "ULONG", "ULONGLONG", "UINT128", "CHAR_S", "SCHAR", "WCHAR", "SHORT", "INT", "LONG",
    "LONGLONG", "INT128", "FLOAT", "DOUBLE", "LONGDOUBLE", "NULLPTR", "OVERLOAD", "DEPENDENT",
    "OBJCID", "OBJCCLASS", "OBJCSEL", "FLOAT128"] ++
  run 100 [
    "COMPLEX", "POINTER", "BLOCKPOINTER", "LVALUEREFERENCE", "RVALUEREFERENCE", "RECORD", "ENUM",
    "TYPEDEF", "OBJCINTERFACE", "OBJCOBJECTPOINTER", "FUNCTIONNOPROTO", "FUNCTIONPROTO",
    "CONSTANTARRAY", "VECTOR", "INCOMPLETEARRAY", "VARIABLEARRAY", "DEPENDENTSIZEDARRAY",
    "MEMBERPOINTER", "AUTO", "ELABORATED"]

/-- The kinds of template arguments. -/
def templateArgumentKinds : List (Nat × String) :=
  run 0 [
    "NULL", "TYPE", "DECLARATION", "NULLPTR", "INTEGRAL"]

/-- The access levels of class members. -/
def accessKinds : List (Nat × String) :=
  run 0 [
    "INVALID", "PUBLIC", "PROTECTED", "PRIVATE", "NONE"]

/-- The reference qualifiers of types. -/
def refQualifierKinds : List (Nat × String) :=
  run 0 [
    "NONE", "LVALUE", "RVALUE"]

/-- The storage classes of declarations. -/
def storageKinds : List (Nat × String) :=
  run 0 [
    "INVALID", "NONE", "EXTERN", "STATIC", "PRIVATEEXTERN", "OPENCLWORKGROUPLOCAL", "AUTO",
    "REGISTER"]

/-- The kinds of tokens. -/
def tokenKinds : List (Nat × String) :=
  run 0 ["PUNCTUATION", "KEYWORD", "IDENTIFIER", "LITERAL", "COMMENT"]

namespace Family

/-- The numbers and names of a family, in ascending order. -/
def entries : Family → List (Nat × String)
  | cursor => cursorKinds
  | type => typeKinds
  | templateArgument => templateArgumentKinds
  | access => accessKinds
  | refQualifier => refQualifierKinds
  | storage => storageKinds
  | token => tokenKinds

/-- The name of a family. -/
def name : Family → String
  | cursor => "CursorKind"
  | type => "TypeKind"
  | templateArgument => "TemplateArgumentKind"
  | access => "AccessSpecifier"
  | refQualifier => "RefQualifierKind"
  | storage => "StorageClass"
  | token => "TokenKind"

/-- The family of a name. -/
def ofName? (name : String) : Option Family :=
  [cursor, type, templateArgument, access, refQualifier, storage, token].find? (·.name == name)

/-- All kinds of a family, in ascending order. -/
def kinds (f : Family) : List Kind :=
  f.entries.map fun (id, name) => { family := f, id, name }

/-- The number of places in the table of a family. -/
def places (f : Family) : Nat :=
  match f.entries.getLast? with
  | some (id, _) => id + 1
  | none => 0

/-- The kind at a place of the table. -/
def at? (f : Family) (place : Nat) : Option Kind :=
  (f.entries.lookup place).map fun name => { family := f, id := place, name }

/-- The kind that a number stands for. Token kinds have no place from the end. -/
def ofId (f : Family) (id : Int) : Except KindFailure Kind :=
  let place : Except KindFailure Nat :=
    if 0 ≤ id then .ok id.toNat
    else if f = token then .error .unknown
    else if 0 ≤ id + f.places then .ok (id + f.places).toNat
    else .error .beforeTable
  match place with
  | .error e => .error e
  | .ok n => match f.at? n with
    | some kind => .ok kind
    | none => .error .unknown

/-- What is said of a number that stands for no kind. -/
def unknownMessage (f : Family) (id : Int) : String :=
  match f with
  | storage => "Unknown storage class " ++ toString id
  | token => "Unknown TokenKind: " ++ toString id
  | _ => "Unknown template argument kind " ++ toString id

/-- The module that kinds are shown to come from. -/
def shownModule : String := "hotdoc_c_extension.clang.cindex"

/-- How a family itself is shown. -/
def shown (f : Family) : String :=
  "<class '" ++ shownModule ++ "." ++ f.name ++ "'>"

/-- What is said when a number is taken already. -/
def takenMessage (f : Family) (number : String) : String :=
  match f with
  | storage => "StorageClass already loaded"
  | token => "TokenKind already registered: " ++ number
  | f => f.shown ++ " value " ++ number ++ " already loaded"

end Family

/-- How a kind is shown: the name of its family and its own. -/
def Kind.shown (k : Kind) : String :=
  (match k.family with
    | .templateArgument => Family.templateArgument.shown
    | f => f.name) ++ "." ++ k.name

end GirDoc.Ast
