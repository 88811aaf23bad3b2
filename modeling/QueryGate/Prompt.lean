import QueryGate.Schema
import QueryGate.Text.WhiteSpace

/-!
# Prompts

What a model is told : the schema, the question, and what the answer has to be like.
-/

namespace QueryGate.Prompt

/-- The prompt for a question about the table of a schema. -/
def build (schema : Schema) (question : String) : String :=
  "Convert the following natural language query into a ClickHouse SQL query for the " ++
    schema.table ++ " table.\n\n" ++
  schema.describe ++
  "\nNatural language query: " ++ Text.trimString question ++ "\n\n" ++
  "Generate a valid ClickHouse SQL query that:\n" ++
  "1. Uses SELECT statements only (read-only queries); " ++
    "a WITH clause of common table expressions may precede the SELECT\n" ++
  "2. Queries from the table: " ++ schema.table ++ "\n" ++
  "3. Matches the exact column names from the schema above\n" ++
  "4. Uses comparison operators =, !=, >, <, >=, <= (not EQ, NEQ, etc.)\n" ++
  "5. Uses proper spacing between keywords, operators and function calls, " ++
    "e.g. CASE WHEN condition THEN value ELSE value END\n" ++
  "6. Always ends with FORMAT JSON\n\n" ++
  "Return only the SQL query, without explanations or markdown formatting."

/-- The name of the tool that carries the grammar. -/
def toolName : String := "clickhouse_sql_grammar"

/-- The description of the tool for queries on a table. -/
def toolDescription (table : String) : String :=
  "Generates read-only ClickHouse SQL queries for the " ++ table ++ " table. " ++
  "Only SELECT statements are allowed. Always end queries with FORMAT JSON. " ++
  "Use actual SQL operators (=, !=, >, <) not terminal names. " ++
  "Use proper spacing in all statements, especially CASE WHEN expressions."

end QueryGate.Prompt
