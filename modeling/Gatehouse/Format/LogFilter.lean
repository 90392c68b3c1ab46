import Gatehouse.Text.Alphanumeric
import Gatehouse.Text.Blank
import Gatehouse.Text.Numeral
import Gatehouse.Text.Split

/-!
Log filters. A filter is a list of directives with commas between them, such as
`proxy=info,store[apply]=debug,warn`. A directive is a level alone; or a target, a span in square
brackets or both, with a level after an equals sign if there is one. A span may name a field of its
own in braces, and a value for it; any text will do for both of them.
-/

set_option autoImplicit false

namespace Gatehouse.Format

open Text

/-! ## 1. Faults -/

/-- Why a text is no log filter. -/
inductive LogFilterFault
  | badDirective
  | badLevel
  deriving DecidableEq

/-- The wording of what is wrong with a log filter. -/
def LogFilterFault.message : LogFilterFault → String
  | badDirective => "invalid filter directive"
  | badLevel =>
    "error parsing level filter: expected one of \"off\", \"error\", \"warn\", \"info\", " ++
      "\"debug\", \"trace\", or a number 0-5"

/-! ## 2. Levels -/

/-- The names of the levels, from the one that logs nothing to the one that logs everything. -/
def levelNames : List String := ["off", "error", "warn", "info", "debug", "trace"]

/-- A level: its name in letters of either case, or its place among the names. -/
def isLevel (cs : List Char) : Bool :=
  levelNames.contains (String.ofList (cs.map Char.toLower)) ||
    isInt ⟨0, 5⟩ (String.ofList cs)

/-! ## 3. Directives -/

/-- What is wrong with the level at the end of a directive; there may be none. Only a directive
without blanks around it can end with a level. -/
def levelFault? (isBare : Bool) (cs : List Char) : Option LogFilterFault :=
  if isBare && (cs.isEmpty || isLevel cs) then none else some .badLevel

/-- What is wrong after the span of a directive. -/
def endFault? (isBare : Bool) : List Char → Option LogFilterFault
  | [] => none
  | '=' :: level => levelFault? isBare level
  | _ => some .badDirective

/-- What is wrong from the field of a span on. -/
def fieldFault? (isBare : Bool) (cs : List Char) : Option LogFilterFault :=
  match cutFirst '\x7d' cs with
  | none => some .badDirective
  | some (field, cs) =>
    if field.isEmpty then some .badDirective
    else match cs with
      | ']' :: cs => endFault? isBare cs
      | _ => some .badDirective

/-- What is wrong from the name of a span on. -/
def spanFault? (isBare : Bool) (cs : List Char) : Option LogFilterFault :=
  match cs.dropWhile fun c => c != ']' && c != '\x7b' with
  | [] => some .badDirective
  | c :: cs => if c = ']' then endFault? isBare cs else fieldFault? isBare cs

/-- The first character of a target. -/
def startsTarget (c : Char) : Bool := ['-', ':', '_'].contains c || isAlphanumeric c

/-- What is wrong with a directive. What stands in front of the first equals sign or bracket is a
target; when neither comes, it is a level or a target. -/
def directiveFault? (s : String) : Option LogFilterFault :=
  let cs := trim s.toList
  let isBare := cs == s.toList
  match cs with
  | [] => some .badDirective
  | '[' :: cs => spanFault? isBare cs
  | c :: _ =>
    if !startsTarget c then some .badDirective
    else match cs.dropWhile fun c => c != '=' && c != '[' with
      | [] => none
      | c :: cs => if c = '=' then levelFault? isBare cs else spanFault? isBare cs

/-! ## 4. Filters -/

/-- The first thing that is wrong with a log filter. Empty directives do not count. -/
def logFilterFault? (s : String) : Option LogFilterFault :=
  ((splitAll ',' s).filter fun directive => !directive.isEmpty).findSome? directiveFault?

end Gatehouse.Format
