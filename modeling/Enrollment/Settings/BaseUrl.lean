/-
The public base URL in its normal form: no blanks around it, and a slash at its end unless it is
empty.  Settings, the stored configuration and the links themselves all bring it to this form.
-/
import Enrollment.Text.Blank

namespace Enrollment

/-- A text that ends in a slash, or the text with one added; the empty text stays empty. -/
def withSlash (url : String) : String :=
  if url = "" ∨ url.toList.getLast? = some '/' then url else url ++ "/"

/-- The normal form of a base URL. -/
def normaliseBaseUrl (url : String) : String := withSlash (Text.strip url)

end Enrollment
