import QueryGate.Grammar.Shipped
import QueryGate.Proofs.Ebnf.Equality
import QueryGate.Proofs.Grammar.Build

/-!
# The definitions of the shipped grammar

`definitions_collect_shippedSource` : the source of the shipped grammar reads as `rules`,
`terminals` and white space to be passed over. All of what follows about the grammar is about these.
-/

namespace QueryGate

open Ebnf

deriving instance DecidableEq for Collected

/-- Errors aside, results can be compared. -/
theorem eq_ok_of_toOption {ε α : Type} {x : Except ε α} {a : α} (h : x.toOption = some a) :
    x = .ok a := by
  cases x with
  | error e => cases h
  | ok b => rw [Option.some.inj h]

namespace Shipped

/-- A word in any case. -/
def word (value : String) : Expr := .literal value true

/-- A sign. -/
def sign (value : String) : Expr := .literal value false

/-- An expression that may be missing. -/
def opt (e : Expr) : Expr := .rep e 0 (some 1)

/-- Expressions one after the other, any number of times. -/
def many (parts : List Expr) : Expr := .rep (.seq parts) 0 none

/-- The rules of the shipped grammar. -/
def rules : List (String × Expr) := [
  ("start", .seq [.name "query", .name "format_clause", opt (sign ";")]),
  ("format_clause", .seq [word "FORMAT", word "JSON"]),
  ("query", .seq [opt (.name "with_clause"), .name "select_statement",
    many [word "UNION", word "ALL", .name "select_statement"]]),
  ("with_clause", .seq [word "WITH", .name "cte", many [sign ",", .name "cte"]]),
  ("cte", .seq [.name "IDENTIFIER", word "AS", sign "(", .name "query", sign ")"]),
  ("select_statement", .seq [word "SELECT", opt (word "DISTINCT"), .name "select_list",
    opt (.name "from_clause"), opt (.name "where_clause"), opt (.name "group_by_clause"),
    opt (.name "having_clause"), opt (.name "order_by_clause"), opt (.name "limit_clause")]),
  ("select_list", .seq [.name "select_item", many [sign ",", .name "select_item"]]),
  ("select_item", .alt [sign "*", .seq [.name "IDENTIFIER", sign ".", sign "*"],
    .seq [.name "expr", opt (.name "alias")]]),
  ("alias", .seq [opt (word "AS"), .name "IDENTIFIER"]),
  ("from_clause", .seq [word "FROM", .name "table_ref", .rep (.name "join") 0 none]),
  ("table_ref", .alt [.seq [.name "table_name", opt (.name "alias")],
    .seq [sign "(", .name "query", sign ")", opt (.name "alias")]]),
  ("table_name", .seq [.name "IDENTIFIER", opt (.seq [sign ".", .name "IDENTIFIER"])]),
  ("join", .seq [opt (.name "join_type"), word "JOIN", .name "table_ref",
    opt (.name "join_constraint")]),
  ("join_type", .alt [word "INNER", .seq [word "LEFT", opt (word "OUTER")],
    .seq [word "RIGHT", opt (word "OUTER")], .seq [word "FULL", opt (word "OUTER")],
    word "CROSS"]),
  ("join_constraint", .alt [.seq [word "ON", .name "expr"],
    .seq [word "USING", sign "(", .name "IDENTIFIER", many [sign ",", .name "IDENTIFIER"],
      sign ")"]]),
  ("where_clause", .seq [word "WHERE", .name "expr"]),
  ("group_by_clause", .seq [word "GROUP", word "BY", .name "expr_list"]),
  ("having_clause", .seq [word "HAVING", .name "expr"]),
  ("order_by_clause", .seq [word "ORDER", word "BY", .name "order_item",
    many [sign ",", .name "order_item"]]),
  ("order_item", .seq [.name "expr", opt (.name "direction")]),
  ("direction", .alt [word "ASC", word "DESC"]),
  ("limit_clause", .alt [.seq [word "LIMIT", .name "INT", opt (.seq [word "OFFSET", .name "INT"])],
    .seq [word "LIMIT", .name "INT", sign ",", .name "INT"]]),
  ("expr_list", .seq [.name "expr", many [sign ",", .name "expr"]]),
  ("expr", .name "or_expr"),
  ("or_expr", .seq [.name "and_expr", many [word "OR", .name "and_expr"]]),
  ("and_expr", .seq [.name "not_expr", many [word "AND", .name "not_expr"]]),
  ("not_expr", .alt [.seq [word "NOT", .name "not_expr"], .name "predicate"]),
  ("predicate", .alt [.name "additive",
    .seq [.name "additive", .name "comparison_op", .name "additive"],
    .seq [.name "additive", opt (word "NOT"), word "IN", sign "(",
      .alt [.name "expr_list", .name "query"], sign ")"],
    .seq [.name "additive", opt (word "NOT"), word "BETWEEN", .name "additive", word "AND",
      .name "additive"],
    .seq [.name "additive", opt (word "NOT"), .alt [word "LIKE", word "ILIKE"], .name "additive"],
    .seq [.name "additive", word "IS", opt (word "NOT"), word "NULL"]]),
  ("comparison_op", .alt [sign "=", sign "==", sign "!=", sign "<>", sign "<", sign "<=", sign ">",
    sign ">="]),
  ("additive", .seq [.name "multiplicative",
    many [.alt [sign "+", sign "-", sign "||"], .name "multiplicative"]]),
  ("multiplicative", .seq [.name "unary",
    many [.alt [sign "*", sign "/", sign "%"], .name "unary"]]),
  ("unary", .alt [.seq [sign "-", .name "unary"], .name "primary"]),
  ("primary", .alt [.name "literal", .name "column_ref", .name "function_call", .name "case_expr",
    .name "cast_expr", .seq [sign "(", .name "expr", sign ")"],
    .seq [sign "(", .name "query", sign ")"],
    .seq [word "EXISTS", sign "(", .name "query", sign ")"]]),
  ("column_ref", .seq [.name "IDENTIFIER", opt (.seq [sign ".", .name "IDENTIFIER"])]),
  ("function_call", .seq [.name "IDENTIFIER", sign "(", opt (.name "function_args"), sign ")",
    opt (.name "over_clause")]),
  ("function_args", .alt [sign "*", .seq [opt (word "DISTINCT"), .name "expr_list"]]),
  ("over_clause", .seq [word "OVER", sign "(", opt (.name "partition_clause"),
    opt (.name "window_order"), sign ")"]),
  ("partition_clause", .seq [word "PARTITION", word "BY", .name "expr_list"]),
  ("window_order", .seq [word "ORDER", word "BY", .name "order_item",
    many [sign ",", .name "order_item"]]),
  ("case_expr", .seq [word "CASE", opt (.name "expr"), .rep (.name "when_clause") 1 none,
    opt (.seq [word "ELSE", .name "expr"]), word "END"]),
  ("when_clause", .seq [word "WHEN", .name "expr", word "THEN", .name "expr"]),
  ("cast_expr", .seq [word "CAST", sign "(", .name "expr", word "AS", .name "type_name", sign ")"]),
  ("type_name", .seq [.name "IDENTIFIER",
    opt (.seq [sign "(", .name "INT", many [sign ",", .name "INT"], sign ")"])]),
  ("literal", .alt [.name "NUMBER", .name "STRING", word "NULL", word "TRUE", word "FALSE"])]

/-- The terminals with a name, the last one first. -/
def terminals : List (String × Expr) := [
  ("WS", .pattern "[ \\t\\f\\r\\n]+" ""),
  ("INT", .pattern "[0-9]+" ""),
  ("NUMBER", .pattern "[0-9]+(?:\\.[0-9]+)?(?:[eE][+-]?[0-9]+)?" ""),
  ("STRING", .pattern "'(?:[^'\\\\]|\\\\.|'')*'" ""),
  ("IDENTIFIER", .alt [.pattern "[A-Za-z_][A-Za-z0-9_]*" "", .pattern "`[^`]+`" ""])]

/-- The definitions of the shipped grammar. -/
def collected : Collected := ⟨terminals, rules.reverse, [.name "WS"]⟩

set_option maxRecDepth 100000 in
theorem definitions_collect_shippedSource :
    ∃ ds, definitions Grammar.shippedSource = .ok ds ∧ collect ds = .ok collected := by
  obtain ⟨cs, hcs, hread⟩ : ∃ cs, Grammar.shippedSource = String.ofList cs ∧
      ((entries cs).mapM readEntry >>= collect).toOption = some collected :=
    ⟨_, rfl, by decide +kernel⟩
  rw [definitions, hcs, String.toList_ofList]
  obtain ⟨ds, hds, hc⟩ := except_bind_eq_ok.mp (eq_ok_of_toOption hread)
  exact ⟨ds, hds, hc⟩

end Shipped

end QueryGate
