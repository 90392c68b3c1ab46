import Gatehouse.Text.Pattern
import Gatehouse.Text.Split

/-!
Names in the form of host names. Each check gives the list of what is wrong with a text, so a text
has the form exactly when the list is empty. Lengths are counted in bytes of UTF-8.
-/

set_option autoImplicit false

namespace Gatehouse.Format

open Text

/-! ## 1. Patterns -/

/-- The lower case letters. -/
def lowerLetter : CharSet := .between 'a' 'z'

/-- The lower case letters and the digits. -/
def lowerAlphanumeric : CharSet := .either lowerLetter (.between '0' '9')

/-- The letters of both cases and the digits. -/
def alphanumeric : CharSet := .either lowerAlphanumeric (.between 'A' 'Z')

/-- Characters of the set `inner`, the last of them from `last`; or nothing. -/
def ending (inner last : CharSet) : Pattern := .opt (.seq (.star (.one inner)) (.one last))

/-- A label that begins with a letter. -/
def labelPattern : Pattern :=
  .seq (.one lowerLetter) (ending (.either lowerAlphanumeric (.among ['-'])) lowerAlphanumeric)

/-- A label that begins with a letter or a digit. -/
def domainPartPattern : Pattern :=
  .seq (.one lowerAlphanumeric)
    (ending (.either lowerAlphanumeric (.among ['-'])) lowerAlphanumeric)

/-- Labels with a dot between two. -/
def subdomainPattern : Pattern :=
  .seq domainPartPattern (.star (.seq (.one (.among ['.'])) domainPartPattern))

/-- The name part of a qualified name. -/
def namePattern : Pattern :=
  .seq (.opt (.seq (.one alphanumeric)
    (.star (.one (.either alphanumeric (.among ['-', '_', '.'])))))) (.one alphanumeric)

/-! ## 2. Checks -/

/-- The complaint, when a text does not have the pattern. -/
def complainUnless (p : Pattern) (complaint text : String) : List String :=
  if p.accepts text.toList then [] else [complaint]

/-- The complaint that a text is too long, when it has more bytes than allowed. -/
def tooLong (subject : String) (most : Nat) (text : String) : List String :=
  if most < text.utf8ByteSize then
    [subject ++ "must be no more than " ++ toString most ++ " characters"]
  else []

/-- What is wrong with a text as the name of a service, an upstream or a listener. -/
def labelComplaints (text : String) : List String :=
  tooLong "" 63 text ++
    complainUnless labelPattern
      ("a DNS-1035 label must consist of lower case alphanumeric characters or '-', start with an "
        ++ "alphabetic character, and end with an alphanumeric character (e.g. 'my-name', or "
        ++ "'abc-123', regex used for validation is '[a-z]([-a-z0-9]*[a-z0-9])?')") text

/-- What is wrong with a text as a host name, or as the name of an object. -/
def subdomainComplaints (text : String) : List String :=
  tooLong "" 253 text ++
    complainUnless subdomainPattern
      ("a lowercase RFC 1123 subdomain must consist of lower case alphanumeric characters, '-' or "
        ++ "'.', and must start and end with an alphanumeric character (e.g. 'example.com', regex "
        ++ "used for validation is '[a-z0-9]([-a-z0-9]*[a-z0-9])?"
        ++ "(\\.[a-z0-9]([-a-z0-9]*[a-z0-9])?)*')") text

/-- What is wrong with the part before the slash of a qualified name. -/
def homeComplaints (home : String) : List String :=
  if home.isEmpty then ["prefix part must be non-empty"]
  else (subdomainComplaints home).map fun m => "prefix part " ++ m

/-- What is wrong with the name part of a qualified name. -/
def nameComplaints (name : String) : List String :=
  if name.isEmpty then ["name part must be non-empty"]
  else tooLong "name part " 63 name ++
    complainUnless namePattern
      ("name part must consist of alphanumeric characters, '-', '_' or '.', and must start and "
        ++ "end with an alphanumeric character (e.g. 'MyName', or 'my.name', or '123-abc', regex "
        ++ "used for validation is '([A-Za-z0-9][-A-Za-z0-9_.]*)?[A-Za-z0-9]')") name

/-- What is wrong with a text as a qualified name: a name, or a subdomain, a slash and a name. -/
def qualifiedNameComplaints (text : String) : List String :=
  match splitFirst '/' text with
  | some (home, name) => homeComplaints home ++ nameComplaints name
  | none => nameComplaints text

end Gatehouse.Format
