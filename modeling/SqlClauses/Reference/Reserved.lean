set_option autoImplicit false

namespace SqlClauses.Reference

def reservedWords : List String :=
  ["ADD", "ALL", "ALTER", "AND", "AS", "ASC", "BETWEEN", "BY", "CASE", "CAST", "CHECK", "COLUMN",
   "CONSTRAINT", "CREATE", "CROSS", "CURRENT_DATE", "CURRENT_TIME", "CURRENT_TIMESTAMP",
   "CURRENT_USER", "DATABASE", "DEFAULT", "DELETE", "DESC", "DISTINCT", "DROP", "ELSE", "EXCEPT",
   "EXISTS", "FALSE", "FOR", "FOREIGN", "FROM", "FULL", "GRANT", "GROUP", "HAVING", "IF",
   "IGNORE", "IN", "INDEX", "INNER", "INSERT", "INTERSECT", "INTERVAL", "INTO", "IS", "JOIN",
   "KEY", "KEYS", "LEFT", "LIKE", "LIMIT", "MATCH", "NATURAL", "NOT", "NULL", "OFFSET", "ON",
   "OR", "ORDER", "OUTER", "PARTITION", "PRIMARY", "RANGE", "READ", "REFERENCES", "REPLACE",
   "RIGHT", "ROW", "ROWS", "SCHEMA", "SELECT", "SET", "TABLE", "THEN", "TO", "TRIGGER", "TRUE",
   "UNION", "UNIQUE", "UPDATE", "USER", "USING", "VALUES", "WHEN", "WHERE", "WITH", "WRITE"]

def isReserved (word : List Char) : Bool :=
  reservedWords.contains (String.ofList (word.map Char.toUpper))

end SqlClauses.Reference
