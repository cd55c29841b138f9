/-
Text inside HTML: the five characters that could end an element's text or a quoted attribute are
written as character references, all others as they are.
-/
namespace Enrollment.Text

/-- One character as HTML text. -/
def escapeHtmlChar (c : Char) : List Char :=
  match c with
  | '&' => "&amp;".toList
  | '<' => "&lt;".toList
  | '>' => "&gt;".toList
  | '\x27' => "&#39;".toList
  | '\x22' => "&#34;".toList
  | c => [c]

/-- A text as HTML text. -/
def escapeHtml (s : String) : String := String.ofList (s.toList.flatMap escapeHtmlChar)

end Enrollment.Text
