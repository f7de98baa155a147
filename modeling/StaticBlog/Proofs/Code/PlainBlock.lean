import StaticBlog.Markdown.Page
import StaticBlog.Proofs.Html.Markup
import StaticBlog.Proofs.Text.Digits
import StaticBlog.Proofs.Text.Lines
import StaticBlog.Proofs.Text.Pieces

/-!
# Code that could not be highlighted

- `HighlightedCode.codePieces`, `HighlightedCode.numberedPieces` : the markup around the lines of a
  piece of code, alone and beside a margin of line numbers
- `HighlightedCode.pieces_block` : lines that hold no markup are shown with that markup around them
- `Markdown.unhighlighted_code_is_inert` : code that could not be highlighted is shown as it is
-/

namespace StaticBlog
namespace HighlightedCode

open Html

/-! ## Layout -/

/-- Lines of code in an element that names their language. -/
def codePieces (name : List Char) (rows : List (List Char)) : List Piece :=
  [.tag "pre".toList, .tag ("code class=\"language-".toList ++ name ++ ['"'])]
    ++ Piece.ofText (Text.joinWith ['\n'] rows) ++ [.tag "/code".toList, .tag "/pre".toList]

/-- The number behind `i` others in a margin, on a line of its own. -/
def numberPieces (i : Nat) : List Piece :=
  (if i = 0 then [] else [.text ['\n']])
    ++ [.tag "span class=\"line-number\"".toList, .text (Text.digits (i + 1)), .tag "/span".toList]

/-- Lines of code beside a margin that numbers them from one on. -/
def numberedPieces (name : List Char) (rows : List (List Char)) : List Piece :=
  [.tag ("figure class=\"highlight ".toList ++ name ++ ['"']), .tag "table".toList,
      .tag "tr".toList, .tag "td class=\"gutter\"".toList, .tag "pre".toList]
    ++ (List.range rows.length).flatMap numberPieces
    ++ [.tag "/pre".toList, .tag "/td".toList, .tag "td class=\"code\"".toList]
    ++ codePieces name rows
    ++ [.tag "/td".toList, .tag "/tr".toList, .tag "/table".toList, .tag "/figure".toList]

/-- The markup of a block of code. -/
def blockPieces (lineNumbers : Bool) (name : List Char) (rows : List (List Char)) : List Piece :=
  if lineNumbers then numberedPieces name rows else codePieces name rows

/-! ## Reading -/

theorem joinLines_margin (count : Nat) :
    joinLines (margin count) = (List.range count).flatMap fun i =>
      (if i = 0 then [] else ['\n']) ++ (marginNumber (i + 1)).toList := by
  cases count with
  | zero => rfl
  | succ count =>
    rw [joinLines, margin, List.map_map, List.range_succ_eq_map, List.map_cons, List.map_map,
      Text.joinWith_cons, List.flatMap_cons, List.flatMap_map, List.flatMap_map]
    rfl

/-- A number in the margin, which begins a line or follows a line feed. -/
theorem reads_marginNumber (i : Nat) :
    Reads ((if i = 0 then [] else ['\n']) ++ (marginNumber (i + 1)).toList) (numberPieces i) := by
  -- A digit is no bracket, so a number is one piece of text in front of the tag that closes it.
  have hbracket : '<' ∉ Text.digits (i + 1) := fun h => by
    have hdigit := Text.isDigit_of_mem_digits h
    exact absurd hdigit (by decide)
  have hdigits : Reads (Text.digits (i + 1) ++ "</span>".toList)
      [.text (Text.digits (i + 1)), .tag "/span".toList] := by
    have hclose : Reads "</span>".toList [.tag "/span".toList] := fun _ => rfl
    have htext := hclose.text hbracket rfl
    have hne : Text.digits (i + 1) ≠ [] := Nat.toDigits_ne_nil
    rwa [Piece.ofText_of_ne_nil hne] at htext
  unfold marginNumber numberPieces
  rw [String.toList_ofList, List.append_assoc, ← List.append_assoc]
  split
  · have hopen : Reads "<span class=\"line-number\">".toList
        [.tag "span class=\"line-number\"".toList] := fun _ => rfl
    exact hopen.append hdigits
  · have hopen : Reads ('\n' :: "<span class=\"line-number\">".toList)
        [.text ['\n'], .tag "span class=\"line-number\"".toList] := fun _ => rfl
    exact hopen.append hdigits

theorem reads_margin (count : Nat) :
    Reads (joinLines (margin count)) ((List.range count).flatMap numberPieces) := by
  rw [joinLines_margin]
  exact .flatMap reads_marginNumber _

variable {name : List Char} {lines : List String}

/-- The element of code whose language and lines hold no brackets. -/
theorem reads_codeElement (hname : '>' ∉ name) (hlines : '<' ∉ joinLines lines) :
    Reads (codeElement name lines) (codePieces name (lines.map String.toList)) := by
  unfold codeElement codePieces
  rw [List.append_assoc, List.append_assoc _ (Piece.ofText _)]
  have hopen : Reads ("<pre><code class=\"language-".toList ++ name ++ "\">".toList)
      [.tag "pre".toList, .tag ("code class=\"language-".toList ++ name ++ ['"'])] :=
    .value [.tag "pre".toList] [] hname (fun _ => rfl) (fun _ _ => rfl)
  have hclose : Reads "</code></pre>".toList [.tag "/code".toList, .tag "/pre".toList] :=
    fun _ => rfl
  exact hopen.append (hclose.text hlines rfl)

/-- The same element beside its margin. -/
theorem reads_numbered (hname : '>' ∉ name) (hlines : '<' ∉ joinLines lines) :
    Reads ("<figure class=\"highlight ".toList ++ name
        ++ "\"><table><tr><td class=\"gutter\"><pre>".toList ++ joinLines (margin lines.length)
        ++ "</pre></td><td class=\"code\">".toList ++ codeElement name lines
        ++ "</td></tr></table></figure>".toList)
      (numberedPieces name (lines.map String.toList)) := by
  unfold numberedPieces
  rw [List.length_map]
  have hopen : Reads ("<figure class=\"highlight ".toList ++ name
        ++ "\"><table><tr><td class=\"gutter\"><pre>".toList)
      [.tag ("figure class=\"highlight ".toList ++ name ++ ['"']), .tag "table".toList,
        .tag "tr".toList, .tag "td class=\"gutter\"".toList, .tag "pre".toList] :=
    .value [] [.tag "table".toList, .tag "tr".toList, .tag "td class=\"gutter\"".toList,
      .tag "pre".toList] hname (fun _ => rfl) (fun _ _ => rfl)
  have hbetween : Reads "</pre></td><td class=\"code\">".toList
      [.tag "/pre".toList, .tag "/td".toList, .tag "td class=\"code\"".toList] := fun _ => rfl
  have hclose : Reads "</td></tr></table></figure>".toList
      [.tag "/td".toList, .tag "/tr".toList, .tag "/table".toList, .tag "/figure".toList] :=
    fun _ => rfl
  exact (((hopen.append (reads_margin _)).append hbetween).append
    (reads_codeElement hname hlines)).append hclose

/-- Highlighted code is shown in the markup of a block, if its lines hold no markup of their own. -/
theorem pieces_block (code : HighlightedCode) (lineNumbers : Bool)
    (hlines : '<' ∉ joinLines code.lines) :
    pieces (code.block lineNumbers) =
      blockPieces lineNumbers (escapeChars code.language.toList)
        (code.lines.map String.toList) := by
  have hname : '>' ∉ escapeChars code.language.toList := fun h =>
    notMem_markupChars_of_mem_escapeChars h (by decide)
  unfold block blockPieces
  cases lineNumbers with
  | false => exact (reads_codeElement hname hlines).pieces_eq
  | true => exact (reads_numbered hname hlines).pieces_eq

/-- The lines of code without styling, as they stand in the element. -/
theorem lines_plain (code : List Char) (language : Option String) :
    (plain (String.ofList code) language).lines.map String.toList =
      (Text.lines code).map escapeChars := by
  simp [plain, Function.comp_def]

end HighlightedCode

namespace Markdown

open Html

/-- Code that could not be highlighted is shown as it is and is no markup: the page of a block has
the tags of the block and nothing but text between them, in which no character could begin or end a
tag or a value. Its rows are the lines of the code, there is a number for each of them in the
margin, if there is one, and its name is that of the language. -/
theorem unhighlighted_code_is_inert (r : Renderer) (language : Option String) (code : List Char)
    (hfail : r.highlighter (String.ofList code) language = none) :
    ∃ (name : List Char) (rows : List (List Char)),
      r.codeHtml language code =
          (HighlightedCode.blockPieces r.lineNumbers name rows).flatMap Piece.chars ∧
        pieces (r.codeHtml language code) =
          HighlightedCode.blockPieces r.lineNumbers name rows ∧
        (∀ c ∈ name ++ rows.flatten, c ∉ markupChars) ∧ (∀ row ∈ rows, '\n' ∉ row) ∧
        unescapeChars name = (language.getD HighlightedCode.plainLanguage).toList ∧
        rows.map unescapeChars = Text.lines code ∧
        unescapeChars (Text.joinWith ['\n'] rows) = Text.joinWith ['\n'] (Text.lines code) := by
  have hjoin : Text.joinWith ['\n'] ((Text.lines code).map escapeChars) =
      escapeChars (Text.joinWith ['\n'] (Text.lines code)) := (escapeChars_joinWith _).symm
  have hlines := HighlightedCode.lines_plain code language
  have hhtml : r.codeHtml language code =
      (HighlightedCode.plain (String.ofList code) language).block r.lineNumbers := by
    rw [Renderer.codeHtml, codeHtmlM, hfail]
    rfl
  have hbracket : '<' ∉ HighlightedCode.joinLines
      (HighlightedCode.plain (String.ofList code) language).lines := by
    rw [HighlightedCode.joinLines, hlines, hjoin]
    exact fun h => notMem_markupChars_of_mem_escapeChars h (by decide)
  have hpieces := HighlightedCode.pieces_block _ r.lineNumbers hbracket
  rw [← hhtml, hlines] at hpieces
  refine ⟨_, _, ?_, hpieces, ?_, ?_, unescapeChars_escapeChars _, ?_, ?_⟩
  · rw [← hpieces, chars_pieces]
  · intro c hc
    rcases List.mem_append.1 hc with hc | hc
    · exact notMem_markupChars_of_mem_escapeChars hc
    · obtain ⟨row, hrow, hc⟩ := List.mem_flatten.1 hc
      obtain ⟨line, -, rfl⟩ := List.mem_map.1 hrow
      exact notMem_markupChars_of_mem_escapeChars hc
  · intro row hrow hfeed
    obtain ⟨line, hline, rfl⟩ := List.mem_map.1 hrow
    exact Text.feed_notMem_of_mem_lines hline (feed_mem_of_mem_escapeChars hfeed)
  · have hid : unescapeChars ∘ escapeChars = id := funext unescapeChars_escapeChars
    rw [List.map_map, hid, List.map_id]
  · rw [hjoin, unescapeChars_escapeChars]

/-- Code with brackets, quotes and an entity, its lines ending in different ways, in a language whose
name looks like the end of a tag. -/
theorem code_with_markup_shown_inert :
    let r : Renderer := ⟨fun _ _ => none, true⟩
    let code := "a < b\r\n\"&lt;\"\n".toList
    r.highlighter (String.ofList code) (some "\">c") = none ∧
      ∃ (name : List Char) (rows : List (List Char)),
        pieces (r.codeHtml (some "\">c") code) = HighlightedCode.numberedPieces name rows ∧
          unescapeChars name = "\">c".toList ∧
          rows.map unescapeChars = ["a < b".toList, "\"&lt;\"".toList] := by
  intro r code
  obtain ⟨name, rows, -, hpieces, -, -, hname, hrows, -⟩ :=
    unhighlighted_code_is_inert r (some "\">c") code rfl
  refine ⟨rfl, name, rows, hpieces, hname, hrows.trans ?_⟩
  decide

end Markdown
end StaticBlog
