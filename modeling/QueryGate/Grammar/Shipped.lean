import QueryGate.Grammar.Compile

/-!
# The shipped grammar

The read-only SQL that generated queries have to be written in.
-/

namespace QueryGate.Grammar

/-- The source of the shipped grammar. -/
def shippedSource : String := "// Read-only ClickHouse SQL subset for the IBM_HR_Employee_Attrition table.
// Every query ends with the FORMAT JSON directive.

start: query format_clause \";\"?

format_clause: \"FORMAT\"i \"JSON\"i

query: with_clause? select_statement (\"UNION\"i \"ALL\"i select_statement)*

with_clause: \"WITH\"i cte (\",\" cte)*
cte: IDENTIFIER \"AS\"i \"(\" query \")\"

select_statement: \"SELECT\"i \"DISTINCT\"i? select_list from_clause? where_clause? group_by_clause? having_clause? order_by_clause? limit_clause?

select_list: select_item (\",\" select_item)*
select_item: \"*\"
           | IDENTIFIER \".\" \"*\"
           | expr alias?

alias: \"AS\"i? IDENTIFIER

from_clause: \"FROM\"i table_ref join*

table_ref: table_name alias?
         | \"(\" query \")\" alias?

table_name: IDENTIFIER (\".\" IDENTIFIER)?

join: join_type? \"JOIN\"i table_ref join_constraint?
join_type: \"INNER\"i
         | \"LEFT\"i \"OUTER\"i?
         | \"RIGHT\"i \"OUTER\"i?
         | \"FULL\"i \"OUTER\"i?
         | \"CROSS\"i
join_constraint: \"ON\"i expr
               | \"USING\"i \"(\" IDENTIFIER (\",\" IDENTIFIER)* \")\"

where_clause: \"WHERE\"i expr
group_by_clause: \"GROUP\"i \"BY\"i expr_list
having_clause: \"HAVING\"i expr
order_by_clause: \"ORDER\"i \"BY\"i order_item (\",\" order_item)*
order_item: expr direction?
direction: \"ASC\"i | \"DESC\"i

limit_clause: \"LIMIT\"i INT (\"OFFSET\"i INT)?
            | \"LIMIT\"i INT \",\" INT

expr_list: expr (\",\" expr)*

// Expressions, loosest binding first

?expr: or_expr
?or_expr: and_expr (\"OR\"i and_expr)*
?and_expr: not_expr (\"AND\"i not_expr)*
?not_expr: \"NOT\"i not_expr
         | predicate

?predicate: additive
          | additive comparison_op additive
          | additive \"NOT\"i? \"IN\"i \"(\" (expr_list | query) \")\"
          | additive \"NOT\"i? \"BETWEEN\"i additive \"AND\"i additive
          | additive \"NOT\"i? (\"LIKE\"i | \"ILIKE\"i) additive
          | additive \"IS\"i \"NOT\"i? \"NULL\"i

comparison_op: \"=\" | \"==\" | \"!=\" | \"<>\" | \"<\" | \"<=\" | \">\" | \">=\"

?additive: multiplicative ((\"+\" | \"-\" | \"||\") multiplicative)*
?multiplicative: unary ((\"*\" | \"/\" | \"%\") unary)*
?unary: \"-\" unary
      | primary

?primary: literal
        | column_ref
        | function_call
        | case_expr
        | cast_expr
        | \"(\" expr \")\"
        | \"(\" query \")\"
        | \"EXISTS\"i \"(\" query \")\"

column_ref: IDENTIFIER (\".\" IDENTIFIER)?

function_call: IDENTIFIER \"(\" [function_args] \")\" over_clause?
function_args: \"*\"
             | \"DISTINCT\"i? expr_list

over_clause: \"OVER\"i \"(\" partition_clause? window_order? \")\"
partition_clause: \"PARTITION\"i \"BY\"i expr_list
window_order: \"ORDER\"i \"BY\"i order_item (\",\" order_item)*

case_expr: \"CASE\"i expr? when_clause+ (\"ELSE\"i expr)? \"END\"i
when_clause: \"WHEN\"i expr \"THEN\"i expr

cast_expr: \"CAST\"i \"(\" expr \"AS\"i type_name \")\"
type_name: IDENTIFIER (\"(\" INT (\",\" INT)* \")\")?

literal: NUMBER
       | STRING
       | \"NULL\"i
       | \"TRUE\"i
       | \"FALSE\"i

IDENTIFIER: /[A-Za-z_][A-Za-z0-9_]*/ | /`[^`]+`/
STRING: /'(?:[^'\\\\]|\\\\.|'')*'/
NUMBER: /[0-9]+(?:\\.[0-9]+)?(?:[eE][+-]?[0-9]+)?/
INT: /[0-9]+/

%import common.WS
%ignore WS
"

/-- The start symbol of the shipped grammar. -/
def shippedRoot : String := "start"

/-- The shipped grammar, compiled. -/
def shipped : Except GrammarError Grammar :=
  compile shippedSource shippedRoot

end QueryGate.Grammar
