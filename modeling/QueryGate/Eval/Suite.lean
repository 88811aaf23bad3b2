import QueryGate.Eval.Expectation

/-!
# The evaluation suite

Questions with what is expected of the queries and results they lead to, in categories.
-/

namespace QueryGate.Eval

/-- What a question is meant to try out. -/
inductive Category where
  | grammarCompliance
  | queryExecution
  | semanticAccuracy
  | advancedFeatures
  | productionFeatures
  deriving DecidableEq, Repr

namespace Category

/-- All categories, in the order of reports. -/
def all : List Category :=
  [grammarCompliance, queryExecution, semanticAccuracy, advancedFeatures, productionFeatures]

/-- The words for a category. -/
def label : Category → String
  | grammarCompliance => "Grammar Compliance"
  | queryExecution => "Query Execution"
  | semanticAccuracy => "Semantic Accuracy"
  | advancedFeatures => "Advanced Features"
  | productionFeatures => "Production Features"

/-- The name of a category in data. -/
def name : Category → String
  | grammarCompliance => "grammar_compliance"
  | queryExecution => "query_execution"
  | semanticAccuracy => "semantic_accuracy"
  | advancedFeatures => "advanced_features"
  | productionFeatures => "production_features"

/-- The ASCII letters and digits of a text, in lower case. -/
def key (s : List Char) : List Char :=
  Text.lower (s.filter Char.isAlphanum)

/-- The category a text names; only letters and digits count, in any case. -/
def ofText? (s : String) : Option Category :=
  all.find? fun c => key c.label.toList == key s.toList

/-- The message for a text that names no category. -/
def unknownMessage (s : String) : String :=
  "unknown eval category '" ++ s ++ "'"

end Category

/-- A question and what is expected. -/
structure Case where
  category : Category
  name : String
  question : String
  expectations : List Expectation
  deriving DecidableEq, Repr

/-- Whether something is expected of the result. -/
def Case.needsResult (c : Case) : Bool :=
  c.expectations.any (·.needsResult)

open Category Expectation in
/-- The suite for the table of employees. -/
def suite : List Case := [
  ⟨grammarCompliance, "Simple SELECT",
    "Show me all employee numbers and their monthly income",
    [startsWith "SELECT"]⟩,
  ⟨grammarCompliance, "SELECT with WHERE",
    "Show employees in the Sales department",
    [containsKeyword "WHERE"]⟩,
  ⟨grammarCompliance, "SELECT with GROUP BY",
    "Count employees by department",
    [containsKeyword "GROUP BY"]⟩,
  ⟨grammarCompliance, "SELECT with ORDER BY and LIMIT",
    "Show the top 5 employees by monthly income",
    [containsKeyword "ORDER BY", limitEquals 5]⟩,
  ⟨grammarCompliance, "Complex multi-clause",
    "Show the top 3 departments by average monthly income for employees who have left",
    [containsKeyword "WHERE", containsKeyword "GROUP BY", containsKeyword "ORDER BY",
      limitEquals 3]⟩,
  ⟨queryExecution, "Basic count",
    "How many employees are there?",
    [startsWith "SELECT", singleRowNonNegativeCount]⟩,
  ⟨queryExecution, "Aggregation",
    "What is the average monthly income?",
    [rowCountAtLeast 1]⟩,
  ⟨queryExecution, "Filtered query",
    "How many employees are in the Sales department?",
    [containsKeyword "WHERE", rowCountAtLeast 0]⟩,
  ⟨queryExecution, "Grouped query",
    "What is the average monthly income by department?",
    [rowCountAtLeast 1]⟩,
  ⟨queryExecution, "Complex query",
    "Show the count of employees by gender who have left the company, ordered by count descending",
    [rowCountAtLeast 1]⟩,
  ⟨semanticAccuracy, "Correct columns",
    "Show me employee numbers and their monthly income",
    [mentionsColumn "employeenumber", mentionsColumn "monthlyincome", rowCountAtLeast 1]⟩,
  ⟨semanticAccuracy, "Correct filtering",
    "Show employees in the Sales department who have left the company",
    [containsKeyword "WHERE", mentionsColumn "department", mentionsColumn "attrition"]⟩,
  ⟨semanticAccuracy, "Correct aggregation",
    "What is the average monthly income by department?",
    [containsAny ["avg", "average"], mentionsColumn "monthlyincome",
      groupByReferences ["department"]]⟩,
  ⟨semanticAccuracy, "Correct grouping",
    "Count employees by gender and department",
    [groupByReferences ["gender", "department"]]⟩,
  ⟨semanticAccuracy, "Correct ordering",
    "Show the top 10 employees by monthly income in descending order",
    [containsKeyword "ORDER BY", containsKeyword "DESC", mentionsColumn "monthlyincome",
      limitEquals 10, rowCountAtMost 10]⟩,
  ⟨advancedFeatures, "String functions",
    "Show the length of department names and convert them to uppercase",
    [containsAny ["length(", "upper(", "lower(", "concat(", "department"]]⟩,
  ⟨advancedFeatures, "Arithmetic operations",
    "Show monthly income divided by 1000 for each employee",
    [containsAny ["/", "*", "+", "-", "monthlyincome"]]⟩,
  ⟨advancedFeatures, "HAVING clause",
    "Show departments where the average monthly income is greater than 5000",
    [containsKeyword "HAVING", containsKeyword "GROUP BY", containsAny ["avg", "average"]]⟩,
  ⟨advancedFeatures, "CASE expressions",
    "Show employees with a case statement categorizing income as high if above 6000, " ++
      "medium if above 3000, else low",
    [containsKeyword "CASE", containsKeyword "WHEN", containsKeyword "THEN"]⟩,
  ⟨advancedFeatures, "Advanced aggregates",
    "Show the standard deviation of monthly income by department",
    [containsAny ["stddev", "variance", "varpop", "varsamp", "avg(", "sum(", "min(", "max("],
      containsKeyword "GROUP BY"]⟩,
  ⟨productionFeatures, "CTEs",
    "With high_earners as (Select * from IBM_HR_Employee_Attrition where monthlyincome > 5000) " ++
      "Select count(*) from high_earners",
    [containsKeyword "WITH ", containsKeyword "AS ("]⟩,
  ⟨productionFeatures, "Window functions",
    "Show employee number and their rank by income within their department",
    [containsKeyword "OVER", containsKeyword "PARTITION BY"]⟩,
  ⟨productionFeatures, "Self join",
    "Show employees who have the same role as employee 1001",
    [joinHasConstraint]⟩,
  ⟨productionFeatures, "Dynamic functions",
    "Show the unique count of job roles using the uniq function",
    [containsAny ["uniq("]]⟩]

end QueryGate.Eval
