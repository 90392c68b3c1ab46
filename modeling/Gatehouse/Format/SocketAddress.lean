import Gatehouse.Text.Numeral
import Gatehouse.Text.Split

/-!
Socket addresses: an internet address with a port, such as `127.0.0.1:80` or `[::1]:80`. An address
of the older kind is four numbers. One of the newer kind is eight groups of hexadecimal digits in
brackets; the last two groups may be written as four numbers, and one run of zero groups may be
left out, with two colons in its place.
-/

set_option autoImplicit false

namespace Gatehouse.Format

open Text

/-! ## 1. Numbers and groups -/

/-- Decimal digits whose value does not exceed the limit. -/
def isDecimalUpTo (limit : Nat) (cs : List Char) : Bool :=
  match readMagnitude limit .tooLarge cs with
  | .ok _ => true
  | .error _ => false

/-- A number up to 255; no zero stands in front of another digit. -/
def isByte (cs : List Char) : Bool :=
  isDecimalUpTo 255 cs && (cs.length == 1 || cs.head? != some '0')

/-- Four numbers with dots between them. -/
def isDottedQuad (cs : List Char) : Bool :=
  let parts := cutAll '.' cs
  parts.length == 4 && parts.all isByte

/-- A hexadecimal digit in either case. -/
def isHexDigit (c : Char) : Bool :=
  c.isDigit || decide ('a' ≤ c.toLower) && decide (c.toLower ≤ 'f')

/-- Between one and four hexadecimal digits. -/
def isGroup (cs : List Char) : Bool :=
  decide (1 ≤ cs.length) && decide (cs.length ≤ 4) && cs.all isHexDigit

/-- How many groups the parts stand for, if each is a group; the last may be four numbers, which
stand for two groups, where that is allowed. -/
def countGroups (allowQuad : Bool) : List (List Char) → Option Nat
  | [] => some 0
  | [last] =>
    if isGroup last then some 1
    else if allowQuad && isDottedQuad last then some 2
    else none
  | part :: parts =>
    if isGroup part then (countGroups allowQuad parts).map (· + 1) else none

/-! ## 2. Addresses -/

/-- The parts before and after the first two colons in a row. -/
def cutElision : List Char → Option (List Char × List Char)
  | [] => none
  | ':' :: ':' :: cs => some ([], cs)
  | c :: cs => (cutElision cs).map fun p => (c :: p.1, p.2)

/-- How many groups stand on one side of an elision; there may be none. -/
def countSide (allowQuad : Bool) (cs : List Char) : Option Nat :=
  if cs.isEmpty then some 0 else countGroups allowQuad (cutAll ':' cs)

/-- Eight groups. An elision stands for at least one of them. -/
def isGroupedAddress (cs : List Char) : Bool :=
  match cutElision cs with
  | none => countGroups true (cutAll ':' cs) == some 8
  | some (front, back) =>
    match countSide false front, countSide true back with
    | some m, some n => decide (m + n ≤ 7)
    | _, _ => false

/-- Eight groups and the number of a network interface after a percent sign, if there is one. -/
def isScopedAddress (cs : List Char) : Bool :=
  match cutFirst '%' cs with
  | some (address, scope) => isGroupedAddress address && isDecimalUpTo 4294967295 scope
  | none => isGroupedAddress cs

/-- A port is a number of 16 bits. -/
def isPortNumber (cs : List Char) : Bool := isDecimalUpTo 65535 cs

/-- An address of either kind with a port. -/
def isSocketAddress (s : String) : Bool :=
  match s.toList with
  | '[' :: cs =>
    match cutFirst ']' cs with
    | some (address, ':' :: port) => isScopedAddress address && isPortNumber port
    | _ => false
  | cs =>
    match cutFirst ':' cs with
    | some (address, port) => isDottedQuad address && isPortNumber port
    | none => false

end Gatehouse.Format
