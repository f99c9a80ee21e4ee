/-!
# References to source types

How a member of a class names a type: an unboxed primitive, a named type with its arguments, an array,
or a type variable of the class.
-/

namespace TypeGraph

/-- Unboxed types. They are never absent. -/
inductive Primitive where
  | boolean
  | byte
  | short
  | int
  | long
  | float
  | double
  | char
  | void
  deriving DecidableEq, Repr

/-- A type as it is declared on a member. -/
inductive TypeRef where
  | primitive (type : Primitive)
  | named (name : String) (args : List TypeRef)
  | array (element : TypeRef)
  | typeVar (name : String)

/-! ## Identities the library knows -/

namespace Known

def object : String := "java.lang.Object"
def enum : String := "java.lang.Enum"
def optional : String := "java.util.Optional"
def boolean : String := "java.lang.Boolean"
def void : String := "java.lang.Void"

/-- Types of single characters and texts, and of identifiers written as texts. -/
def texts : List String := ["java.lang.String", "java.lang.Character", "java.util.UUID"]

/-- Numbers behind a reference, which may be absent. -/
def boxedNumbers : List String :=
  ["java.lang.Number", "java.lang.Byte", "java.lang.Short", "java.lang.Integer", "java.lang.Long",
   "java.lang.Float", "java.lang.Double", "java.math.BigDecimal", "java.math.BigInteger",
   "java.util.concurrent.atomic.AtomicInteger", "java.util.concurrent.atomic.AtomicLong"]

/-- Points in time and calendar dates. -/
def dateTimes : List String :=
  ["java.util.Date", "java.util.Calendar", "java.sql.Date", "java.sql.Timestamp",
   "java.time.Instant", "java.time.LocalDate", "java.time.LocalDateTime",
   "java.time.OffsetDateTime", "java.time.ZonedDateTime"]

/-- Collections of one element type. -/
def collections : List String :=
  ["java.lang.Iterable", "java.util.Collection", "java.util.List", "java.util.ArrayList",
   "java.util.LinkedList", "java.util.Set", "java.util.HashSet", "java.util.LinkedHashSet",
   "java.util.SortedSet", "java.util.TreeSet"]

/-- Maps from keys to values. -/
def maps : List String :=
  ["java.util.Map", "java.util.HashMap", "java.util.LinkedHashMap", "java.util.SortedMap",
   "java.util.TreeMap"]

/-- Whether an identity is a number behind a reference. -/
def isBoxedNumber (name : String) : Bool := boxedNumbers.contains name

end Known

namespace TypeRef

/-- The identity of a named reference, without its arguments. -/
def rawName? : TypeRef → Option String
  | .named name _ => some name
  | _ => none

/-- Whether this is the wrapper of an element that may be absent. Without an argument there is no
element, so the bare wrapper does not count. -/
def isOptionalWrapper : TypeRef → Bool
  | .named name args => name == Known.optional && !args.isEmpty
  | _ => false

mutual

/-- Every identity that a reference mentions: its own before those of its arguments. -/
def identities : TypeRef → List String
  | .named name args => name :: identitiesOf args
  | .array element => element.identities
  | .primitive _ | .typeVar _ => []

/-- The identities that some references mention, in order. -/
def identitiesOf : List TypeRef → List String
  | [] => []
  | t :: rest => t.identities ++ identitiesOf rest

end

end TypeRef

end TypeGraph
