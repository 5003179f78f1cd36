import SchemaMigration.Sql.Quote

/-
  The queries that are put to a catalog.
-/
namespace SchemaMigration.Catalog

open Sql

/-- Counts the tables of a name. -/
def hasTableSql : String :=
  "SELECT COUNT(*) AS aggregate FROM information_schema.tables " ++
    "WHERE table_schema = DATABASE() AND table_name = ? AND table_type = 'BASE TABLE'"

/-- Counts the columns of a name in a table. -/
def hasColumnSql : String :=
  "SELECT COUNT(*) AS aggregate FROM information_schema.columns " ++
    "WHERE table_schema = DATABASE() AND table_name = ? AND column_name = ?"

/-- Lists the tables by name. -/
def listTablesSql : String :=
  "SELECT table_name AS name FROM information_schema.tables " ++
    "WHERE table_schema = DATABASE() AND table_type = 'BASE TABLE' ORDER BY table_name"

/-- What stands in front of the table in a query for its columns. -/
def showColumns : String := "SHOW FULL COLUMNS FROM "

/-- What stands in front of the table in a query for its indexes. -/
def showIndex : String := "SHOW INDEX FROM "

/-- The columns of a table. -/
def columnsSql (table : String) : String := showColumns ++ quoteIdent table

/-- The indexes of a table. -/
def indexesSql (table : String) : String := showIndex ++ quoteIdent table

/-- The foreign keys of a table. -/
def foreignKeysSql : String :=
  "SELECT kcu.CONSTRAINT_NAME AS constraint_name, " ++
    "kcu.COLUMN_NAME AS column_name, " ++
    "kcu.REFERENCED_TABLE_NAME AS referenced_table_name, " ++
    "kcu.REFERENCED_COLUMN_NAME AS referenced_column_name, " ++
    "rc.UPDATE_RULE AS update_rule, rc.DELETE_RULE AS delete_rule " ++
    "FROM information_schema.KEY_COLUMN_USAGE kcu " ++
    "JOIN information_schema.REFERENTIAL_CONSTRAINTS rc " ++
    "ON rc.CONSTRAINT_SCHEMA = kcu.CONSTRAINT_SCHEMA AND rc.CONSTRAINT_NAME = kcu.CONSTRAINT_NAME " ++
    "WHERE kcu.TABLE_SCHEMA = DATABASE() AND kcu.TABLE_NAME = ? " ++
    "AND kcu.REFERENCED_TABLE_NAME IS NOT NULL " ++
    "ORDER BY kcu.CONSTRAINT_NAME, kcu.ORDINAL_POSITION"

/-- The options of a table. -/
def optionsSql : String :=
  "SELECT t.ENGINE AS engine, t.TABLE_COLLATION AS collation, " ++
    "c.CHARACTER_SET_NAME AS charset, t.TABLE_COMMENT AS comment " ++
    "FROM information_schema.TABLES t " ++
    "LEFT JOIN information_schema.COLLATION_CHARACTER_SET_APPLICABILITY c " ++
    "ON c.COLLATION_NAME = t.TABLE_COLLATION " ++
    "WHERE t.TABLE_SCHEMA = DATABASE() AND t.TABLE_NAME = ?"

/-- Takes an advisory lock, waiting for a number of seconds. -/
def acquireLockSql : String := "SELECT GET_LOCK(?, ?) AS acquired"

/-- Gives an advisory lock back. -/
def releaseLockSql : String := "SELECT RELEASE_LOCK(?) AS released"

end SchemaMigration.Catalog
