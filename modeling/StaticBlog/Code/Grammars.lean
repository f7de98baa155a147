/-!
# Grammars of code

- `Grammar` : a kind of code, with the file name extensions that it goes by
- `grammars` : the kinds of code that can be highlighted
- `isKnownLanguage` : whether a name stands for one of them
-/

namespace StaticBlog
namespace Code

/-- A kind of code. -/
structure Grammar where
  name : String
  /-- The extensions of its files, and the names of files that are always of this kind. -/
  extensions : List String := []
  deriving DecidableEq, Repr, Inhabited

/-- The kinds of code that can be highlighted. -/
def grammars : List Grammar :=
  [ ⟨"ActionScript", ["as"]⟩,
    ⟨"AppleScript", ["applescript", "script editor"]⟩,
    ⟨"ASP", ["asa"]⟩,
    ⟨"HTML (ASP)", ["asp"]⟩,
    ⟨"Batch File", ["bat", "cmd"]⟩,
    ⟨"NAnt Build File", ["build"]⟩,
    ⟨"C#", ["cs", "csx"]⟩,
    ⟨"C++", ["cpp", "cc", "cp", "cxx", "c++", "C", "h", "hh", "hpp", "hxx", "h++", "inl", "ipp"]⟩,
    ⟨"C", ["c", "h"]⟩,
    ⟨"CSS", ["css", "css.erb", "css.liquid"]⟩,
    ⟨"Clojure", ["clj", "cljc", "cljs", "edn"]⟩,
    ⟨"D", ["d", "di"]⟩,
    ⟨"Diff", ["diff", "patch"]⟩,
    ⟨"Erlang", ["erl", "hrl", "Emakefile", "emakefile"]⟩,
    ⟨"HTML (Erlang)", ["yaws"]⟩,
    ⟨"Git Attributes", ["attributes", "gitattributes", ".gitattributes"]⟩,
    ⟨"Git Commit", ["COMMIT_EDITMSG", "MERGE_MSG", "TAG_EDITMSG"]⟩,
    ⟨"Git Config", ["gitconfig", ".gitconfig", ".gitmodules"]⟩,
    ⟨"Git Ignore", ["exclude", "gitignore", ".gitignore"]⟩,
    ⟨"Git Link", [".git"]⟩,
    ⟨"Git Log", ["gitlog"]⟩,
    ⟨"Git Rebase Todo", ["git-rebase-todo"]⟩,
    ⟨"Go", ["go"]⟩,
    ⟨"Graphviz (DOT)", ["dot", "DOT", "gv"]⟩,
    ⟨"Groovy", ["groovy", "gvy", "gradle", "Jenkinsfile"]⟩,
    ⟨"HTML", ["html", "htm", "shtml", "xhtml", "inc", "tmpl", "tpl"]⟩,
    ⟨"Haskell", ["hs"]⟩,
    ⟨"Literate Haskell", ["lhs"]⟩,
    ⟨"Java Server Page (JSP)", ["jsp"]⟩,
    ⟨"Java", ["java", "bsh"]⟩,
    ⟨"JavaDoc", []⟩,
    ⟨"Java Properties", ["properties"]⟩,
    ⟨"JSON", ["json", "sublime-settings", "sublime-menu", "sublime-keymap", "sublime-mousemap",
      "sublime-theme", "sublime-build", "sublime-project", "sublime-completions",
      "sublime-commands", "sublime-macro", "sublime-color-scheme", "ipynb", "Pipfile.lock"]⟩,
    ⟨"JavaScript", ["js", "htc"]⟩,
    ⟨"Regular Expressions (Javascript)", []⟩,
    ⟨"BibTeX", ["bib"]⟩,
    ⟨"LaTeX Log", []⟩,
    ⟨"LaTeX", ["tex", "ltx"]⟩,
    ⟨"TeX", ["sty", "cls"]⟩,
    ⟨"Lisp", ["lisp", "cl", "clisp", "l", "mud", "el", "scm", "ss", "lsp", "fasl"]⟩,
    ⟨"Lua", ["lua"]⟩,
    ⟨"Make Output", []⟩,
    ⟨"Makefile", ["make", "GNUmakefile", "makefile", "Makefile", "OCamlMakefile", "mak", "mk"]⟩,
    ⟨"Markdown", ["md", "mdown", "markdown", "markdn"]⟩,
    ⟨"MultiMarkdown", []⟩,
    ⟨"MATLAB", ["matlab"]⟩,
    ⟨"OCaml", ["ml", "mli"]⟩,
    ⟨"OCamllex", ["mll"]⟩,
    ⟨"OCamlyacc", ["mly"]⟩,
    ⟨"camlp4", []⟩,
    ⟨"Objective-C++", ["mm", "M", "h"]⟩,
    ⟨"Objective-C", ["m", "h"]⟩,
    ⟨"PHP Source", []⟩,
    ⟨"PHP", ["php", "php3", "php4", "php5", "php7", "phps", "phpt", "phtml"]⟩,
    ⟨"Pascal", ["pas", "p", "dpr"]⟩,
    ⟨"Perl", ["pl", "pm", "pod", "t", "PL"]⟩,
    ⟨"Python", ["py", "py3", "pyw", "pyi", "pyx", "pyx.in", "pxd", "pxd.in", "pxi", "pxi.in",
      "rpy", "cpy", "SConstruct", "Sconstruct", "sconstruct", "SConscript", "gyp", "gypi",
      "Snakefile", "wscript"]⟩,
    ⟨"Regular Expressions (Python)", []⟩,
    ⟨"R Console", []⟩,
    ⟨"R", ["R", "r", "s", "S", "Rprofile"]⟩,
    ⟨"Rd (R Documentation)", ["rd"]⟩,
    ⟨"HTML (Rails)", ["rails", "rhtml", "erb", "html.erb"]⟩,
    ⟨"JavaScript (Rails)", ["js.erb"]⟩,
    ⟨"Ruby Haml", ["haml", "sass"]⟩,
    ⟨"Ruby on Rails", ["rxml", "builder"]⟩,
    ⟨"SQL (Rails)", ["erbsql", "sql.erb"]⟩,
    ⟨"Regular Expression", ["re"]⟩,
    ⟨"reStructuredText", ["rst", "rest"]⟩,
    ⟨"Ruby", ["rb", "Appfile", "Appraisals", "Berksfile", "Brewfile", "capfile", "cgi",
      "Cheffile", "config.ru", "Deliverfile", "Fastfile", "fcgi", "Gemfile", "gemspec",
      "Guardfile", "irbrc", "jbuilder", "Podfile", "podspec", "prawn", "rabl", "rake", "Rakefile",
      "Rantfile", "rbx", "rjs", "ruby.rail", "Scanfile", "simplecov", "Snapfile", "thor",
      "Thorfile", "Vagrantfile"]⟩,
    ⟨"Cargo Build Results", []⟩,
    ⟨"Rust", ["rs"]⟩,
    ⟨"SQL", ["sql", "ddl", "dml"]⟩,
    ⟨"Scala", ["scala", "sbt"]⟩,
    ⟨"Bourne Again Shell (bash)", ["sh", "bash", "zsh", "fish", ".bash_aliases",
      ".bash_completions", ".bash_functions", ".bash_login", ".bash_logout", ".bash_profile",
      ".bash_variables", ".bashrc", ".profile", ".textmate_init"]⟩,
    ⟨"Shell-Unix-Generic", []⟩,
    ⟨"commands-builtin-shell-bash", []⟩,
    ⟨"HTML (Tcl)", ["adp"]⟩,
    ⟨"Tcl", ["tcl"]⟩,
    ⟨"Textile", ["textile"]⟩,
    ⟨"Plain Text", ["txt"]⟩,
    ⟨"XML", ["xml", "xsd", "xslt", "tld", "dtml", "rss", "opml", "svg"]⟩,
    ⟨"YAML", ["yaml", "yml", "sublime-syntax"]⟩ ]

/-- A name without the difference between small and capital letters of the basic alphabet. -/
def caseless (name : String) : List Char := name.toList.map Char.toLower

/-- Whether a kind of code goes by a name, of any case. -/
def Grammar.isCalled (g : Grammar) (name : String) : Bool :=
  (g.name :: g.extensions).any fun n => caseless n == caseless name

/-- Whether a name stands for a kind of code that can be highlighted. -/
def isKnownLanguage (name : String) : Bool := grammars.any (·.isCalled name)

end Code
end StaticBlog
