/-!
# Terminal styles

A styled text stands between the sequence that begins its style and the one that ends all styles. A
text that ends all styles itself begins its own anew, so that it is styled to its end.
-/

namespace EventCorrelation

/-- A style by its parameters. -/
structure Style where
  parameters : List Char
deriving DecidableEq

namespace Style

def bold : Style := ⟨['1']⟩

def dimmed : Style := ⟨['2']⟩

def red : Style := ⟨['3', '1']⟩

def green : Style := ⟨['3', '2']⟩

def yellow : Style := ⟨['3', '3']⟩

def boldRed : Style := ⟨['1', ';', '3', '1']⟩

/-- The sequence that begins a style. -/
def start (style : Style) : List Char := '\x1b' :: '[' :: style.parameters ++ ['m']

/-- The sequence that ends all styles. -/
def reset : List Char := ['\x1b', '[', '0', 'm']

/-- The text with its style begun anew wherever the text ends all styles. -/
def resume (style : Style) : List Char → List Char
  | '\x1b' :: '[' :: '0' :: 'm' :: rest => reset ++ style.start ++ style.resume rest
  | symbol :: rest => symbol :: style.resume rest
  | [] => []

/-- A text in a style, if there is colour at all. -/
def paint (colored : Bool) (style : Style) (text : String) : String :=
  if colored then String.ofList (style.start ++ style.resume text.toList ++ reset) else text

end Style

end EventCorrelation
