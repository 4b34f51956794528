import PageComposer.Fault
import PageComposer.Text.Blank

/-!
# Dialects of databases

A dialect is a package with drivers in it.  A package also has members of other kinds:
modules, types, functions and what every package has.  An address that names one of these in
place of a driver is refused in another way than one that names nothing.
-/

namespace PageComposer.Database

/-- A way to talk to a database. -/
inductive Driver where
  /-- It works while others go on. -/
  | ready
  /-- It blocks while the database works; messages call it so. -/
  | blocking (title : String)
  /-- It needs this module, which is not at hand. -/
  | missing (module : String)
  deriving DecidableEq, Repr

/-- What is in a package. -/
structure Package where
  name : String
  drivers : List (String × Driver)
  modules : List String
  types : List String
  functions : List String
  /-- Members whose name is not their own, with what messages call them. -/
  aliases : List (String × String)
  deriving DecidableEq, Repr

namespace Package

/-- The members of every package, by what messages call them. -/
def commonMembers : List (String × List String) := [
  ("'str' object", ["__name__", "__file__", "__package__", "__cached__"]),
  ("'NoneType' object", ["__doc__"]),
  ("'SourceFileLoader' object", ["__loader__"]),
  ("'ModuleSpec' object", ["__spec__"]),
  ("'list' object", ["__path__"]),
  ("'tuple' object", ["__all__"]),
  ("'dict' object", ["__builtins__", "__dict__", "__annotations__"]),
  ("type object 'module'", ["__class__"]),
  ("'method-wrapper' object", [
    "__delattr__", "__eq__", "__ge__", "__getattribute__", "__gt__", "__hash__", "__init__",
    "__le__", "__lt__", "__ne__", "__repr__", "__setattr__", "__str__"]),
  ("'builtin_function_or_method' object", [
    "__dir__", "__format__", "__getstate__", "__init_subclass__", "__new__", "__reduce__",
    "__reduce_ex__", "__sizeof__", "__subclasshook__"])]

/-- What messages call a module of the package. -/
def moduleTitle (package : Package) (module : String) : String :=
  "module 'sqlalchemy.dialects." ++ package.name ++ "." ++ module ++ "'"

/-- What messages call a member that is no driver. -/
def otherMember? (package : Package) (name : String) : Option String :=
  if package.modules.contains name then some (package.moduleTitle name)
  else if package.types.contains name then some ("type object '" ++ name ++ "'")
  else if package.functions.contains name then some "'function' object"
  else
    match package.aliases.find? fun entry => entry.1 = name with
    | some (_, title) => some title
    | none => (commonMembers.find? fun entry => entry.2.contains name).map Prod.fst

def sqlite : Package where
  name := "sqlite"
  drivers := [
    ("aiosqlite", .ready), ("base", .blocking "pysqlite"), ("pysqlite", .blocking "pysqlite"),
    ("pysqlcipher", .missing "pysqlcipher3")]
  modules := ["dml", "json"]
  types := [
    "BLOB", "BOOLEAN", "CHAR", "DATE", "DATETIME", "DECIMAL", "FLOAT", "INTEGER", "Insert",
    "JSON", "NUMERIC", "REAL", "SMALLINT", "TEXT", "TIME", "TIMESTAMP", "VARCHAR"]
  functions := ["insert"]
  aliases := [("dialect", "type object 'SQLiteDialect_pysqlite'")]

def postgresql : Package where
  name := "postgresql"
  drivers := [
    ("asyncpg", .missing "asyncpg"), ("base", .missing "psycopg"), ("pg8000", .missing "pg8000"),
    ("psycopg", .missing "psycopg"), ("psycopg2", .missing "psycopg2"),
    ("psycopg2cffi", .missing "psycopg2cffi"), ("psycopg_async", .missing "psycopg")]
  modules := [
    "_psycopg_common", "bitstring", "dml", "ext", "json", "named_types", "operators",
    "pg_catalog", "ranges", "types"]
  types := [
    "ARRAY", "AbstractMultiRange", "AbstractRange", "AbstractSingleRange", "BIGINT", "BIT",
    "BOOLEAN", "BYTEA", "BitString", "CHAR", "CIDR", "CITEXT", "CreateDomainType",
    "CreateEnumType", "DATE", "DATEMULTIRANGE", "DATERANGE", "DOMAIN", "DOUBLE_PRECISION",
    "DropDomainType", "DropEnumType", "ENUM", "ExcludeConstraint", "FLOAT", "HSTORE", "INET",
    "INT4MULTIRANGE", "INT4RANGE", "INT8MULTIRANGE", "INT8RANGE", "INTEGER", "INTERVAL",
    "Insert", "JSON", "JSONB", "JSONPATH", "MACADDR", "MACADDR8", "MONEY", "MultiRange",
    "NUMERIC", "NUMMULTIRANGE", "NUMRANGE", "NamedType", "OID", "REAL", "REGCLASS",
    "REGCONFIG", "Range", "SMALLINT", "TEXT", "TIME", "TIMESTAMP", "TSMULTIRANGE", "TSQUERY",
    "TSRANGE", "TSTZMULTIRANGE", "TSTZRANGE", "TSVECTOR", "UUID", "VARCHAR",
    "aggregate_order_by", "array", "hstore", "phraseto_tsquery", "plainto_tsquery",
    "to_tsquery", "to_tsvector", "ts_headline", "websearch_to_tsquery"]
  functions := ["All", "Any", "array_agg", "distinct_on", "insert"]
  aliases := [
    ("ModuleType", "type object 'module'"),
    ("arraylib", "module 'sqlalchemy.dialects.postgresql.array'"),
    ("dialect", "type object 'PGDialect_psycopg'")]

def mysql : Package where
  name := "mysql"
  drivers := [
    ("aiomysql", .missing "aiomysql"), ("asyncmy", .missing "asyncmy"),
    ("base", .missing "MySQLdb"), ("cymysql", .missing "cymysql"),
    ("mariadbconnector", .missing "mariadb"), ("mysqlconnector", .missing "mysql"),
    ("mysqldb", .missing "MySQLdb"), ("pymysql", .missing "pymysql"),
    ("pyodbc", .missing "pyodbc")]
  modules := [
    "_mariadb_shim", "dml", "enumerated", "expression", "json", "mariadb", "reflection",
    "reserved_words", "types"]
  types := [
    "BIGINT", "BINARY", "BIT", "BLOB", "BOOLEAN", "CHAR", "DATE", "DATETIME", "DECIMAL",
    "DOUBLE", "ENUM", "FLOAT", "INET4", "INET6", "INTEGER", "Insert", "JSON", "LONGBLOB",
    "LONGTEXT", "MEDIUMBLOB", "MEDIUMINT", "MEDIUMTEXT", "NCHAR", "NUMERIC", "NVARCHAR",
    "REAL", "SET", "SMALLINT", "TEXT", "TIME", "TIMESTAMP", "TINYBLOB", "TINYINT", "TINYTEXT",
    "VARBINARY", "VARCHAR", "YEAR", "match"]
  functions := ["insert", "limit"]
  aliases := [("dialect", "type object 'MySQLDialect_mysqldb'")]

def oracle : Package where
  name := "oracle"
  drivers := [
    ("base", .missing "oracledb"), ("cx_oracle", .missing "cx_Oracle"),
    ("oracledb", .missing "oracledb"), ("oracledb_async", .missing "oracledb")]
  modules := ["dictionary", "json", "types", "vector"]
  types := [
    "BFILE", "BINARY_DOUBLE", "BINARY_FLOAT", "BLOB", "BOOLEAN", "CHAR", "CLOB", "DATE",
    "DOUBLE_PRECISION", "FLOAT", "INTERVAL", "JSON", "LONG", "NCHAR", "NCLOB", "NUMBER",
    "NVARCHAR", "NVARCHAR2", "RAW", "REAL", "ROWID", "SparseVector", "TIMESTAMP", "VARCHAR",
    "VARCHAR2", "VECTOR", "VectorDistanceType", "VectorIndexConfig", "VectorIndexType",
    "VectorStorageFormat", "VectorStorageType"]
  functions := []
  aliases := [
    ("ModuleType", "type object 'module'"), ("dialect", "type object 'OracleDialect_oracledb'")]

def mssql : Package where
  name := "mssql"
  drivers := [
    ("aioodbc", .missing "aioodbc"), ("base", .missing "pyodbc"),
    ("mssqlpython", .missing "mssql_python"), ("pymssql", .missing "pymssql"),
    ("pyodbc", .missing "pyodbc")]
  modules := ["information_schema", "json"]
  types := [
    "BIGINT", "BINARY", "BIT", "CHAR", "DATE", "DATETIME", "DATETIME2", "DATETIMEOFFSET",
    "DECIMAL", "DOUBLE_PRECISION", "FLOAT", "IMAGE", "INTEGER", "JSON", "MONEY", "NCHAR",
    "NTEXT", "NUMERIC", "NVARCHAR", "REAL", "ROWVERSION", "SMALLDATETIME", "SMALLINT",
    "SMALLMONEY", "SQL_VARIANT", "TEXT", "TIME", "TIMESTAMP", "TINYINT", "UNIQUEIDENTIFIER",
    "VARBINARY", "VARCHAR", "XML"]
  functions := ["try_cast"]
  aliases := [("dialect", "type object 'MSDialect_pyodbc'")]

def all : List Package := [sqlite, postgresql, mysql, oracle, mssql]

end Package

namespace Driver

/-- The group of the dialects. -/
def group : String := "sqlalchemy.dialects"

/-- The dialect that borrows the drivers of another one, of whose members only modules
count. -/
def borrower : String := "mariadb"

/-- The driver of a dialect, in an address of this name. -/
def ofDialect (name dialect driver : String) : Outcome Driver :=
  let borrowed := dialect = borrower
  let wanted := if borrowed then Package.mysql.name else dialect
  let unknown : Outcome Driver :=
    .error (.denial (.notFound group (name.map fun char => if char = '+' then '.' else char)))
  match Package.all.find? fun package => package.name = wanted with
  | none => unknown
  | some package =>
      match package.drivers.find? fun entry => entry.1 = driver with
      | some (_, found) => .ok found
      | none =>
          match package.otherMember? driver with
          | none => unknown
          | some title =>
              if borrowed && !package.modules.contains driver then unknown
              else .error (.denial (.notADriver title))

/-- The driver that an address of this name names; each dialect has one of its own for those
that name none. -/
def ofName (name : String) : Outcome Driver :=
  match Text.pieces '+' name with
  | [dialect] => ofDialect name dialect "base"
  | [dialect, driver] => ofDialect name dialect driver
  | _ => .error (.refusal .tooManyNames)

end Driver

end PageComposer.Database
