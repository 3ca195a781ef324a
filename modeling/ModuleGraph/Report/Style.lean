/-!
# Styles

Parts of a report stand out by colour and weight where the output shows it. A style is the list of
codes that a terminal is sent before the text; after the text it is told to go back to normal.
-/

namespace ModuleGraph.Report

/-- The parts of a report that stand out. -/
inductive Role where
  | bullet
  | entry
  | count
  | caution
  | error
  | success
  | rule
  | heading
  | cycles
  | recorded
  | path
  deriving DecidableEq, Repr

/-- The codes for a part, weight before colour. -/
def Role.codes : Role → String
  | .bullet => "94"
  | .entry => "1;97"
  | .count => "36"
  | .caution => "1;33"
  | .error => "1;31"
  | .success => "1;32"
  | .rule => "2"
  | .heading => "1"
  | .cycles => "1;33"
  | .recorded => "31"
  | .path => "34"

/-- What ends a style. -/
def reset : List Char := ['\x1b', '[', '0', 'm']

/-- A text in which a style begins anew wherever the text itself ends it. -/
def resumed (opening : List Char) : List Char → List Char
  | '\x1b' :: '[' :: '0' :: 'm' :: rest => reset ++ opening ++ resumed opening rest
  | c :: rest => c :: resumed opening rest
  | [] => []

/-- A text as a part of a report, with its style if styles are shown. -/
def paint (styled : Bool) (role : Role) (text : String) : String :=
  if styled then
    let opening := '\x1b' :: '[' :: role.codes.toList ++ ['m']
    String.ofList (opening ++ resumed opening text.toList ++ reset)
  else text

end ModuleGraph.Report
