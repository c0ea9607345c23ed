/-! # Database backends

The two database engines that statements are written for.
-/
namespace DataFetch

inductive Backend where
  | sqlite
  | mysql
  deriving DecidableEq, Repr, Inhabited

namespace Backend

/-- The name under which settings, logs and errors mention a backend. -/
def name : Backend → String
  | sqlite => "sqlite"
  | mysql => "mysql"

/-- The capitalised name that stands for a backend where it is displayed as a symbol. -/
def symbol : Backend → String
  | sqlite => "SQLITE"
  | mysql => "MYSQL"

def all : List Backend := [sqlite, mysql]

def ofName? (s : String) : Option Backend :=
  all.find? fun b => b.name == s

end Backend

end DataFetch
