import TagListing.Database.Statement
/-!
A prepare, request by request. Where an answer has a column of a type that is not built in, the
client prepares the query for types before it goes on. That is a prepare of its own and may need
the same again, so the queries under way form a stack. A server that lacks a table of the query is
asked again in a form without ranges; any other error ends the whole prepare.
-/
namespace TagListing.Database

def builtInTypes : List (Nat × Nat) :=
  [(16, 30), (32, 32), (71, 71), (75, 75), (81, 81), (83, 83), (114, 114), (142, 143), (194, 194),
   (199, 199), (210, 210), (269, 273), (325, 325), (600, 604), (628, 629), (650, 651), (700, 701),
   (705, 705), (718, 719), (774, 775), (790, 791), (829, 829), (869, 869), (1000, 1003),
   (1005, 1022), (1027, 1028), (1033, 1034), (1040, 1043), (1082, 1083), (1114, 1115),
   (1182, 1187), (1231, 1231), (1248, 1248), (1263, 1263), (1266, 1266), (1270, 1270),
   (1560, 1563), (1700, 1700), (1790, 1790), (2201, 2211), (2249, 2249), (2275, 2281),
   (2283, 2283), (2287, 2287), (2776, 2776), (2842, 2843), (2949, 2951), (2970, 2970),
   (3115, 3115), (3220, 3221), (3310, 3310), (3361, 3361), (3402, 3402), (3500, 3500),
   (3614, 3615), (3642, 3645), (3734, 3735), (3769, 3770), (3802, 3802), (3807, 3807),
   (3831, 3831), (3838, 3838), (3904, 3913), (3926, 3927), (4066, 4066), (4072, 4073),
   (4089, 4090), (4096, 4097), (4191, 4192), (5017, 5017), (5038, 5039), (5069, 5069),
   (5077, 5080)]

def isBuiltIn (type : Nat) : Bool := builtInTypes.any fun r => r.1 ≤ type && type ≤ r.2

inductive TypeQuery where
  | withRanges
  | plain
  deriving DecidableEq, Repr

def TypeQuery.text : TypeQuery → String
  | .withRanges =>
    "SELECT t.typname, t.typtype, t.typelem, r.rngsubtype, t.typbasetype, n.nspname, t.typrelid\n" ++
      "FROM pg_catalog.pg_type t\n" ++
      "LEFT OUTER JOIN pg_catalog.pg_range r ON r.rngtypid = t.oid\n" ++
      "INNER JOIN pg_catalog.pg_namespace n ON t.typnamespace = n.oid\n" ++
      "WHERE t.oid = $1\n"
  | .plain =>
    "SELECT t.typname, t.typtype, t.typelem, NULL::OID, t.typbasetype, n.nspname, t.typrelid\n" ++
      "FROM pg_catalog.pg_type t\n" ++
      "INNER JOIN pg_catalog.pg_namespace n ON t.typnamespace = n.oid\n" ++
      "WHERE t.oid = $1\n"

def undefinedTable : String := "42P01"

def isSendable (text : String) : Bool := !text.toList.contains '\x00'

def unsendable : DatabaseError := ⟨none, "error encoding message to server"⟩

def undescribed : DatabaseError := ⟨none, "unexpected message from server"⟩

structure Preparation where
  text : String
  queries : List TypeQuery
  deriving DecidableEq, Repr

namespace Preparation

def begin (text : String) : Preparation := ⟨text, []⟩

def request (p : Preparation) : String :=
  match p.queries with
  | [] => p.text
  | q :: _ => q.text

/- What follows a lacking table: the innermost query that has another form is asked again. -/
def rephrased : List TypeQuery → Option (List TypeQuery)
  | [] => none
  | .withRanges :: outer => some (.plain :: outer)
  | .plain :: outer => rephrased outer

inductive Next where
  | ask (p : Preparation)
  | over (answer : Except DatabaseError (List Column))

def next (p : Preparation) : Except DatabaseError (List Column) → Next
  | .ok columns =>
    if columns.all fun c => isBuiltIn c.type then
      if p.queries.isEmpty then .over (.ok columns) else .over (.error undescribed)
    else .ask { p with queries := .withRanges :: p.queries }
  | .error e =>
    if e.code = some undefinedTable then
      match rephrased p.queries with
      | some queries => .ask { p with queries := queries }
      | none => .over (.error e)
    else .over (.error e)

end Preparation
end TagListing.Database
