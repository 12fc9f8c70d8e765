/-! # Line ends -/

namespace AwaitLint.Text

/-- Every kind of line end becomes `\n`. -/
def universalNewlines : List Char → List Char
  | '\r' :: '\n' :: cs => '\n' :: universalNewlines cs
  | '\r' :: cs => '\n' :: universalNewlines cs
  | c :: cs => c :: universalNewlines cs
  | [] => []

end AwaitLint.Text
