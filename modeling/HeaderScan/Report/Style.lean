import HeaderScan.Response

/-!
# Coloured responses

On a terminal a response line is green for a match, yellow for a failure and dim
for anything else.
-/

namespace HeaderScan

/-- How a line stands out on a terminal. -/
inductive Style where
  | green
  | yellow
  | dim

namespace Style

/-- The escape sequence that begins the style. -/
def start : Style → String
  | green => "\x1b[38;5;10m"
  | yellow => "\x1b[38;5;11m"
  | dim => "\x1b[2m"

/-- The escape sequence that ends any style. -/
def reset : String := "\x1b[0m"

/-- The text in the style, if colours are shown. -/
def apply (style : Style) (colors : Bool) (text : String) : String :=
  if colors then style.start ++ text ++ reset else text

end Style

/-- The style in which an outcome is shown. -/
def Status.style : Status → Style
  | .found _ => .green
  | .missing _ | .cancelled => .dim
  | .error _ | .timeout => .yellow

/-- The line that reports a response, in its style. -/
def Response.styledLine (response : Response) (colors : Bool) : String :=
  response.status.style.apply colors response.line

end HeaderScan
