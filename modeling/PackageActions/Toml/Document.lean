import PackageActions.Toml.Grammar

/-!
# TOML documents

A document is a list of lines: headers, which say what table the following keys belong to, and pairs of a
key and a value. `Toml.parse?` reads the lines, carries out their definitions one by one, and then
takes the values for what they stand for.
-/

namespace PackageActions.Toml

open Text

/-- What a line of a document says. -/
inductive Statement where
  | openTable (path : KeyPath)
  | openElement (path : KeyPath)
  | assign (path : KeyPath) (value : Written)

/-! ## Lines -/

/-- The path between the brackets of a header. -/
def headerPath (opening closing : String) : Parser KeyPath := do
  Parser.string opening
  blanks
  let path ← keyPath
  blanks
  Parser.string closing
  pure path

def statement : Parser Statement :=
  (Statement.openElement <$> headerPath "[[" "]]") <|>
    (Statement.openTable <$> headerPath "[" "]") <|>
    ((fun pair => Statement.assign pair.1 pair.2) <$> pairOf blanks (value maxDepth))

/-- A line: perhaps a statement, perhaps a comment. -/
def line : Parser (Option Statement) := do
  blanks
  let said ← Parser.optional? statement
  blanks
  let _ ← Parser.optional? comment
  pure said

/-- The lines of a document; a byte order mark in front is passed over. -/
def document : Parser (List (Option Statement)) := do
  let _ ← Parser.optional? (Parser.char '\ufeff')
  Parser.sepBy₁ line lineEnd

/-! ## Definitions -/

/-- The tables defined so far, and the path of the latest header. -/
structure Progress where
  entries : Entries
  current : List String

/-- Carries out one statement. -/
def Progress.step (p : Progress) : Statement → Option Progress
  | .openTable path =>
    (Toml.openTable path p.entries).map fun entries => ⟨entries, path.tables ++ [path.key]⟩
  | .openElement path =>
    (Toml.openElement path p.entries).map fun entries => ⟨entries, path.tables ++ [path.key]⟩
  | .assign path v =>
    (Toml.assign p.current path v p.entries).map fun entries => ⟨entries, p.current⟩

/-- The entries that statements define. -/
def ofStatements? (statements : List Statement) : Option (Dictionary Written) :=
  (statements.foldlM Progress.step ⟨[], []⟩).map fun p => finishEntries p.entries

/-- The table of a document, if the text is one. -/
def parse? (text : String) : Option Table := do
  let lines ← document.run? text.toList
  let entries ← ofStatements? (lines.filterMap id)
  Written.values? entries

end PackageActions.Toml
