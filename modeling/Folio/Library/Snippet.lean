import Folio.Text.Wide

/-! Named pieces of text of three kinds, and the ones that a library starts with. -/
namespace Folio.Library

inductive Kind
  | template
  | data
  | style
  deriving DecidableEq, Repr

namespace Kind

/-- All kinds, in the order in which a library holds them. -/
def all : List Kind := [.template, .data, .style]

def name : Kind → Text
  | .template => "template".toList
  | .data => "data".toList
  | .style => "style".toList

def ofName? (s : Text) : Option Kind := all.find? fun kind => kind.name = s

end Kind

structure Snippet where
  name : WideText
  content : WideText
  deriving DecidableEq, Repr

def snippet (name : String) (lines : List String) : Snippet :=
  ⟨Text.wide name.toList, Text.wide (Text.join ['\n'] (lines.map String.toList))⟩

def markdownList : Snippet := snippet "Markdown List" [
  "# Shopping List for \x7b\x7b name \x7d\x7d",
  "\x7b% for item in items %\x7d",
  "- \x7b\x7b item \x7d\x7d",
  "\x7b% endfor %\x7d"]

def csvTable : Snippet := snippet "CSV Table" [
  "name, item",
  "\x7b% for item in items %\x7d",
  "\x7b\x7b name \x7d\x7d, \x7b\x7b item \x7d\x7d",
  "\x7b% endfor %\x7d"]

def htmlTable : Snippet := snippet "HTML Table" [
  "<table border=\"1\">",
  "  <tr><th>Name</th><th>Item</th></tr>",
  "  \x7b% for item in items %\x7d",
  "  <tr><td>\x7b\x7b name \x7d\x7d</td><td>\x7b\x7b item \x7d\x7d</td></tr>",
  "  \x7b% endfor %\x7d",
  "</table>"]

def exampleData : Snippet := snippet "Example" [
  "\x7b",
  "  \"name\": \"Chris\",",
  "  \"items\": [\"apple\", \"banana\", \"carrot\"]",
  "\x7d"]

def exampleStyle : Snippet := snippet "Templatimator Example" [
  "/* All output is wrapped in .templatimator-output */",
  ".templatimator-output \x7b",
  "  font-family: 'Segoe UI', Arial, sans-serif;",
  "  color: #222;",
  "  background: #fff;",
  "  padding: 1em;",
  "  border-radius: 8px;",
  "  max-width: 700px;",
  "  margin: 0 auto;",
  "\x7d",
  ".templatimator-output h1, .templatimator-output h2, .templatimator-output h3 \x7b",
  "  font-family: 'Segoe UI', Arial, sans-serif;",
  "  color: #2d7ff9;",
  "  margin-top: 1.2em;",
  "  margin-bottom: 0.5em;",
  "\x7d",
  ".templatimator-output ul, .templatimator-output ol \x7b",
  "  margin: 0 0 1em 2em;",
  "  padding: 0;",
  "\x7d",
  ".templatimator-output li \x7b",
  "  margin: 0.2em 0;",
  "\x7d",
  ".templatimator-output blockquote \x7b",
  "  border-left: 3px solid #b3c7e6;",
  "  margin: 0.5em 0;",
  "  padding: 0.5em 1em;",
  "  background: #f0f4fa;",
  "  color: #555;",
  "\x7d",
  ".templatimator-output pre \x7b",
  "  background: #eaeaea;",
  "  padding: 0.7em;",
  "  border-radius: 4px;",
  "  overflow-x: auto;",
  "\x7d",
  ".templatimator-output code \x7b",
  "  background: #eaeaea;",
  "  padding: 0.1em 0.3em;",
  "  border-radius: 3px;",
  "  font-size: 0.95em;",
  "\x7d",
  ".templatimator-output table \x7b",
  "  border-collapse: collapse;",
  "  margin: 1em 0;",
  "\x7d",
  ".templatimator-output th, .templatimator-output td \x7b",
  "  border: 1px solid #bbb;",
  "  padding: 0.3em 0.7em;",
  "\x7d",
  ".templatimator-output th \x7b",
  "  background: #f0f4fa;",
  "\x7d",
  ".templatimator-output p \x7b",
  "  margin: 0.5em 0 1em 0;",
  "\x7d",
  ""]

/-- What a kind without snippets is filled with. -/
def defaults : Kind → List Snippet
  | .template => [markdownList, csvTable, htmlTable]
  | .data => [exampleData]
  | .style => [exampleStyle]

end Folio.Library
