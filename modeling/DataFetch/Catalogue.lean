import DataFetch.Fault.Basic
import DataFetch.Request.Basic

/-! # The public interface

The version of the interface, the names that it makes public and the words of its closed lists.
-/
namespace DataFetch.Catalogue

def version : String := "0.1.0"

/-- The public names in code point order. -/
def exports : List String :=
  ["CompoundPredicate", "ConfigError", "DatabaseConfig", "DatabaseConnection",
    "DatabaseConnectionError", "DatabaseError", "DatabaseType", "ErrorCategory", "FetchCommand",
    "FetchExecutor", "FetchRequest", "FetchRequestBuilder", "FetchRequestSQLWriter",
    "IntegrityError", "LogicalOperator", "MySQLConnection", "QuarryError", "QueryError", "Row",
    "SQLiteConnection", "SimplePredicate", "SortClause", "SortDirection", "configure_logging",
    "connect_from_settings", "get_connection", "get_logger"]

/-- Public names that nothing stands for. -/
def missing : List String := []

def operators : List String := Operator.vocabulary.map (·.1)

def directions : List String := Direction.vocabulary.map (·.1)

def backends : List String := Backend.all.map Backend.name

def categories : List String := FaultCategory.all.map FaultCategory.name

end DataFetch.Catalogue
