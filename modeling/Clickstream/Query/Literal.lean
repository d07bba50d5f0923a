/-!
# Text literals

A text literal of the query language stands between single quotes; a quote inside is written twice.
-/

namespace Clickstream

/-- The characters of a literal between its quotes. -/
def doubleQuotes (text : List Char) : List Char :=
  text.flatMap fun c => if c = '\'' then ['\'', '\''] else [c]

/-- The literal of a text. -/
def sqlLiteral (text : String) : String :=
  String.ofList ('\'' :: doubleQuotes text.toList ++ ['\''])

end Clickstream
