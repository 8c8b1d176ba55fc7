import TaskDesk.Catalog.Definition

/-!
# The built-in catalog

`CatalogDefinition.builtIn` is the catalog of a project that names none.
-/

namespace TaskDesk

namespace CatalogDefinition

/-- A task type of the built-in catalog. -/
private def builtInType (id name description : String) (drivers : Option (List String)) :
    TypeDefinition :=
  ⟨id, name, description, none, false, drivers⟩

/-- The tasks that need no connection, or just any. -/
private def common : CategoryDefinition :=
  .mk "common" "Common" "Tasks that do not need a connection" none []
    [ { builtInType "shellCommand" "Shell command" "Run an operating system command" none with
        standalone := true },
      builtInType "scriptExecute" "Execute SQL script"
        "Execute SQL scripts against a connection" none ]

/-- The tasks that move data. -/
private def dataTransfer : CategoryDefinition :=
  .mk "dataTransfer" "Data transfer" "Move data between sources and files" none []
    [ builtInType "dataExport" "Data export" "Export table data to files" none,
      builtInType "dataImport" "Data import" "Import data from files into tables" none ]

/-- The tools of PostgreSQL. -/
private def postgresqlTools : CategoryDefinition :=
  .mk "postgresqlTools" "PostgreSQL" "" none []
    [ builtInType "pgScriptExecute" "Execute script (psql)"
        "Run a script with psql against a database" (some ["postgresql"]),
      builtInType "pgBackup" "Backup" "Dump a database with pg_dump" (some ["postgresql"]),
      builtInType "pgRestore" "Restore" "Restore a dump with pg_restore" (some ["postgresql"]) ]

/-- The tools of MySQL. -/
private def mysqlTools : CategoryDefinition :=
  .mk "mysqlTools" "MySQL" "" none []
    [ builtInType "mysqlDump" "Dump" "Dump a database with mysqldump"
        (some ["mysql", "mariadb"]) ]

/-- The definition of the built-in catalog. -/
def builtIn : CatalogDefinition :=
  ⟨[ common, dataTransfer,
     .mk "nativeTools" "Database tools" "Vendor tools for backup and maintenance" none
       [postgresqlTools, mysqlTools] [] ]⟩

end CatalogDefinition

end TaskDesk
