import ChangeRelay.Path
import ChangeRelay.Text.Case

/-!
The languages a receiver of snapshots knows, and their detection from the suffix of a file name.
The suffix is compared in lower case; the suffixes of a table are taken as they are.
-/
namespace ChangeRelay

inductive Language where
  | abap | apex | c | cpp | cs | css | cobol | go | html | ipython | java | js | json | kotlin
  | objc | php | pli | plsql | python | rpg | ruby | scala | secrets | swift | tsql | ts | xml
  | yaml
  deriving DecidableEq, Repr

namespace Language

def all : List Language :=
  [abap, apex, c, cpp, cs, css, cobol, go, html, ipython, java, js, json, kotlin, objc, php, pli,
    plsql, python, rpg, ruby, scala, secrets, swift, tsql, ts, xml, yaml]

def name : Language → String
  | abap => "ABAP"
  | apex => "APEX"
  | c => "C"
  | cpp => "CPP"
  | cs => "CS"
  | css => "CSS"
  | cobol => "COBOL"
  | go => "GO"
  | html => "HTML"
  | ipython => "IPYTHON"
  | java => "JAVA"
  | js => "JS"
  | json => "JSON"
  | kotlin => "KOTLIN"
  | objc => "OBJC"
  | php => "PHP"
  | pli => "PLI"
  | plsql => "PLSQL"
  | python => "PYTHON"
  | rpg => "RPG"
  | ruby => "RUBY"
  | scala => "SCALA"
  | secrets => "SECRETS"
  | swift => "SWIFT"
  | tsql => "TSQL"
  | ts => "TS"
  | xml => "XML"
  | yaml => "YAML"

def named? (text : String) : Option Language := all.find? (·.name == text)

def suffixes : List (String × Language) :=
  [(".abap", abap), (".cls", apex), (".c", c), (".h", c), (".cc", cpp), (".cpp", cpp),
    (".cxx", cpp), (".hpp", cpp), (".cs", cs), (".css", css), (".less", css), (".scss", css),
    (".cbl", cobol), (".cob", cobol), (".go", go), (".html", html), (".htm", html),
    (".ipynb", ipython), (".java", java), (".js", js), (".jsx", js), (".mjs", js),
    (".json", json), (".kt", kotlin), (".kts", kotlin), (".m", objc), (".php", php),
    (".pkb", plsql), (".pks", plsql), (".py", python), (".pyi", python), (".rb", ruby),
    (".scala", scala), (".swift", swift), (".tsql", tsql), (".ts", ts), (".tsx", ts),
    (".xml", xml), (".yaml", yaml), (".yml", yaml)]

def suffixOf (fileName : String) : String :=
  String.ofList (Text.lowercase (Path.parse fileName).suffix)

end Language
end ChangeRelay
