import AnnotatedSql.Text.Case
import AnnotatedSql.Text.Number

/-!
Column types. A type has a short tag, which compiled columns carry, and a readable name.
-/
namespace AnnotatedSql

inductive SqlType where
  | tinyInt
  | smallInt
  | mediumInt
  | integer
  | bigInt
  | decimal (precision scale : Option Nat)
  | real
  | doublePrecision
  | char (length : Option Nat)
  | varchar (length : Option Nat)
  | text
  | bytea
  | blob
  | date
  | time (precision : Option Nat) (withTimezone : Bool)
  | timestamp (precision : Option Nat) (withTimezone : Bool)
  | datetime
  | interval
  | boolean
  | uuid
  | json
  | jsonb
  | array (element : SqlType)
  /-- A type known by name only, an enum for instance. -/
  | custom (name : String)
  | unknown
deriving Repr, DecidableEq, Inhabited

namespace SqlType

/-- The type behind a bare type name as a database reports it, such as the `varchar` of `varchar(255)`. -/
def ofName (base : String) (size scale : Option Nat) : SqlType :=
  match Text.toLower base with
  | "tinyint" => tinyInt
  | "smallint" | "year" => smallInt
  | "mediumint" => mediumInt
  | "int" | "integer" => integer
  | "bigint" => bigInt
  | "decimal" | "numeric" | "dec" | "fixed" => decimal size scale
  | "float" | "real" => real
  | "double" => doublePrecision
  | "char" => char size
  | "varchar" => varchar size
  | "text" | "tinytext" | "mediumtext" | "longtext" => text
  | "binary" | "varbinary" | "blob" | "tinyblob" | "mediumblob" | "longblob" => blob
  | "date" => date
  | "time" => time none false
  | "datetime" => datetime
  | "timestamp" => timestamp none false
  | "bool" | "boolean" => boolean
  | "json" => json
  | "" => unknown
  | other => custom other

/-- The tag that compiled columns and parameters carry; that of an array is its element's. -/
def tag : SqlType → String
  | tinyInt => "tinyint"
  | smallInt => "smallint"
  | mediumInt => "mediumint"
  | integer => "int"
  | bigInt => "bigint"
  | decimal _ _ => "decimal"
  | real => "real"
  | doublePrecision => "double"
  | char _ => "char"
  | varchar _ => "varchar"
  | text => "text"
  | bytea => "bytea"
  | blob => "blob"
  | date => "date"
  | time _ true => "timetz"
  | time _ false => "time"
  | timestamp _ true => "timestamptz"
  | timestamp _ false => "timestamp"
  | datetime => "datetime"
  | interval => "interval"
  | boolean => "bool"
  | uuid => "uuid"
  | json => "json"
  | jsonb => "jsonb"
  | array element => element.tag
  | custom name => name
  | unknown => "any"

/-- Declared length or precision. The largest word stands for a length without limit. -/
def length : SqlType → Option Nat
  | char length | varchar length => length.filter (· != Text.maxWord)
  | decimal precision _ => precision
  | array element => element.length
  | _ => none

def isArray : SqlType → Bool
  | array _ => true
  | _ => false

/-- The innermost element type of an array; any other type itself. -/
def element : SqlType → SqlType
  | array inner => inner.element
  | type => type

/-- A readable name. -/
def displayName : SqlType → String
  | integer => "integer"
  | decimal (some p) (some s) => s!"numeric({p},{s})"
  | decimal (some p) none => s!"numeric({p})"
  | decimal none _ => "numeric"
  | doublePrecision => "double precision"
  | char (some l) => s!"char({l})"
  | varchar (some l) => s!"varchar({l})"
  | time _ true => "time with time zone"
  | timestamp _ true => "timestamp with time zone"
  | boolean => "boolean"
  | array inner => inner.displayName ++ "[]"
  | unknown => "unknown"
  | type => type.tag

theorem isArray_element (type : SqlType) : type.element.isArray = false := by
  induction type with
  | array inner ih => simpa [element] using ih
  | _ => rfl

end SqlType

end AnnotatedSql
