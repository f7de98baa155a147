import StaticBlog.Text.Blank
import StaticBlog.Text.Classes
import StaticBlog.Text.Search

/-!
# Code told by its first line

- `hasWord` : whether a word stands in a line
- `isRunBy` : whether a line names a program that runs what follows
- `signatures` : what the first line of a kind of code looks like
- `languageOfLine?` : the kind of code that begins with a line
-/

namespace StaticBlog
namespace Code

/-! ## Words -/

/-- The characters of a word. -/
def isWordChar (c : Char) : Bool := Text.isAlphanumeric c || c = '_'

/-- Whether no character of a word comes next. -/
def endsWord (s : List Char) : Bool := !s.head?.any isWordChar

/-- Whether a word begins somewhere in a text such that what comes after it is fit. `inWord` says
whether the character before the text belongs to a word. -/
def hasWordBefore (word : List Char) (fit : List Char → Bool) : (inWord : Bool) → List Char → Bool
  | _, [] => false
  | inWord, c :: s =>
    (!inWord && (Text.stripPrefix? word (c :: s)).any fit)
      || hasWordBefore word fit (isWordChar c) s

/-- Whether a word stands in a line. -/
def hasWord (word : String) (line : List Char) : Bool :=
  hasWordBefore word.toList endsWord false line

/-- Whether the number of a version comes next, which may be empty and stops where a word begins or
ends. `inWord` says whether the character before belongs to a word. -/
def hasVersion : (inWord : Bool) → List Char → Bool
  | inWord, s =>
    (inWord == endsWord s) || match s with
      | c :: s =>
        (Text.isDecimalDigit c || c = '.' || c = '-') && hasVersion (isWordChar c) s
      | [] => false

/-! ## Programs that run what follows -/

/-- The command that runs what follows the line. -/
def runner? (line : List Char) : Option (List Char) := Text.stripPrefix? ['#', '!'] line

/-- Whether a line names one of the programs as the one that runs what follows. -/
def isRunBy (programs : List String) (line : List Char) : Bool :=
  (runner? line).any fun command => programs.any fun p => hasWord p command

/-- Whether a line names a program, maybe with the number of its version. -/
def isRunByVersion (program : String) (line : List Char) : Bool :=
  (runner? line).any (hasWordBefore program.toList (hasVersion true) false)

/-- Whether the command is the path of a file, and a word stands in it before something fit. -/
def isRunByPath (program : String) (fit : List Char → Bool) (line : List Char) : Bool :=
  (runner? line).any fun command =>
    command.head? == some '/' && hasWordBefore program.toList fit false command

/-- Whether the command is the path of a file, and its last word is one of the programs. -/
def isRunByLastWord (programs : List String) (line : List Char) : Bool :=
  (runner? line).any fun command =>
    let command := Text.trimStart command
    let last := (command.reverse.takeWhile isWordChar).reverse
    command.head? == some '/' && programs.any fun p => p.toList == last

/-! ## Marks -/

def beginsWith (mark : String) (line : List Char) : Bool := mark.toList.isPrefixOf line

def holds (mark : String) (line : List Char) : Bool := Text.occurs mark.toList line

/-- Whether a line tells an editor what kind of code follows. -/
def isMarkedAs (name : String) (line : List Char) : Bool :=
  holds ("-*- " ++ name ++ " -*-") line || holds ("-*- Mode: " ++ name ++ " -*-") line

/-- Whether a line opens a marked-up document. -/
def opensDocument (line : List Char) : Bool :=
  (Text.stripPrefix? "<?xml".toList line).any fun rest => rest.head?.any Text.isBlank

/-- Whether a line opens a page. -/
def opensPage (line : List Char) : Bool :=
  let line := line.map Char.toLower
  holds "<html" line || match Text.breakOn? "<!doctype".toList line with
    | some (_, rest) => beginsWith "html" (Text.trimStart rest)
    | none => false

/-- Whether a line opens an article, as slides do not. -/
def opensArticle (line : List Char) : Bool :=
  beginsWith "\\documentclass" line && !holds "\x7bbeamer\x7d" line

/-- Whether a line holds nothing but the word that a list of headings is complete. -/
def opensHeadings (line : List Char) : Bool :=
  (Text.stripPrefix? "Format:".toList line).any fun rest =>
    (Text.trim rest).map Char.toLower == "complete".toList

/-- Whether a text is a list of numbers between commas. -/
def isNumberList (s : List Char) : Bool :=
  (Text.splitWhere (· == ',') s).all fun n => !n.isEmpty && n.all Text.isDecimalDigit

/-- Whether a line says which lines were added, changed or deleted. -/
def isEditCommand (line : List Char) : Bool :=
  match line.span fun c => !(['a', 'c', 'd'].contains c) with
  | (before, _ :: after) => isNumberList before && isNumberList after
  | (_, []) => false

/-- Whether a line names the old file and ends in a year. -/
def isOldFile (line : List Char) : Bool :=
  (Text.stripPrefix? "***".toList line).any fun rest =>
    let year := (Text.trimEnd rest).reverse.take 4
    year.length == 4 && year.all Text.isDecimalDigit

/-- Whether a line opens a list of changes. -/
def opensChanges (line : List Char) : Bool :=
  beginsWith "=== modified file" line || beginsWith "Index: " line || beginsWith "diff --git " line
    || (Text.stripPrefix? "--- ".toList line).any (·.head?.any (· != '%'))
    || isOldFile line || isEditCommand line

/-- What the first line of a kind of code looks like, by the name of the kind. Where several fit,
the first one counts. -/
def signatures : List (String × (List Char → Bool)) :=
  [ ("yaml", beginsWith "%YAML"),
    ("xml", opensDocument),
    ("textile", holds "textile"),
    ("bourne-again-shell-(bash)", isRunBy ["bash", "zsh", "sh", "tcsh", "ash", "dash", "ksh"]),
    ("ruby", isRunByPath "ruby" fun _ => true),
    ("python", isRunByPath "python" (hasVersion true)),
    ("perl", isRunBy ["perl"]),
    ("php", fun line => isRunByVersion "php" line || holds "<?php" line),
    ("objective-c++", isMarkedAs "Objective-C++"),
    ("objective-c", isMarkedAs "Objective-C"),
    ("multimarkdown", opensHeadings),
    ("makefile", isRunBy ["make"]),
    ("lua", isRunBy ["lua"]),
    ("latex", opensArticle),
    ("javascript", isRunByLastWord ["node", "js"]),
    ("html", opensPage),
    ("groovy", isRunBy ["groovy"]),
    ("diff", opensChanges),
    ("c", isMarkedAs "C"),
    ("c++", holds "-*- C++ -*-"),
    ("applescript", isRunBy ["osascript"]) ]

/-- The name of the kind of code that begins with a line, if the line tells it. A mark of the byte
order before the line does not count. -/
def languageOfLine? (line : List Char) : Option String :=
  let line := (Text.stripPrefix? ['\uFEFF'] line).getD line
  (signatures.find? fun (_, fits) => fits line).map Prod.fst

end Code
end StaticBlog
