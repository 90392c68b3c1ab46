import Gatehouse.Format.Destination
import Gatehouse.Proofs.Format.Listed

/-!
The grammar of destinations of logs.

A destination with a port is a *site*, a colon and the port (`matches_destinationPattern_iff`). The
site is an address, the name of a host or the own host. The pattern leaves the port up to five
digits of any script, but they are read as a number afterwards, so in a destination that is accepted
the port is written in the digits `0` to `9` (`destinationFault?_eq_none_iff`). The numbers of an
address are not read again.
-/

set_option autoImplicit false

namespace Gatehouse.Format

open Text

/-! ## 1. Sites -/

/-- Digits of any script, at least one and no more than so many. The numbers of an address and the
port are only counted, so `999` is the number of an address as far as the pattern goes. -/
structure DigitsUpTo (most : Nat) (cs : List Char) : Prop where
  notEmpty : 1 ≤ cs.length
  short : cs.length ≤ most
  digits : ∀ c ∈ cs, isDecimalDigit c = true

/-- Four numbers, separated by dots. They have at most three digits, and what they come to is not
limited. -/
inductive Address : List Char → Prop
  | mk {a b c d : List Char} (ha : DigitsUpTo 3 a) (hb : DigitsUpTo 3 b) (hc : DigitsUpTo 3 c)
      (hd : DigitsUpTo 3 d) :
      Address (a ++ '.' :: (b ++ '.' :: (c ++ '.' :: d)))

/-- Four numbers, separated by dots. -/
def addressParts : List Pattern := [.times (.seq octet (.literal ".")) 0 3, octet]

/-- Names separated by dots, the last of them of two to six letters. -/
def hostParts : List Pattern :=
  [.one (.either letter (.between '0' '9')), .times (.one hostChar) 61 1, .literal ".",
    .star (.seq (.times (.one hostChar) 62 1) (.literal ".")), .times (.one letter) 4 2]

/-- What stands before the port. The grammar of hosts is left as a pattern, which is the shortest
way to say it. -/
inductive Site : List Char → Prop
  | address {cs : List Char} (h : Address cs) : Site cs
  | host {cs : List Char} (h : Matches (.inOrder hostParts) cs) : Site cs
  | ownHost : Site "localhost".toList

section Sites

variable {cs : List Char}

/-- Digits in a pattern, as a bound on their number. -/
theorem matches_digits_iff {more : Nat} :
    Matches (.times (.one .decimalDigit) more 1) cs ↔ DigitsUpTo (1 + more) cs := by
  rw [matches_times_one_iff]
  exact ⟨fun h => ⟨h.1, h.2.1, h.2.2⟩, fun h => ⟨h.notEmpty, h.short, h.digits⟩⟩

/-- A number of an address has one to three. -/
theorem matches_octet_iff : Matches octet cs ↔ DigitsUpTo 3 cs := matches_digits_iff

/-- A port has one to five, behind a colon. -/
theorem matches_portPart_iff :
    Matches portPart cs ↔ ∃ digits, cs = ':' :: digits ∧ DigitsUpTo 5 digits := by
  simp only [portPart, matches_seq_iff, matches_literal_iff, matches_digits_iff]
  constructor
  · rintro ⟨_, digits, rfl, rfl, hdigits⟩
    exact ⟨digits, rfl, hdigits⟩
  · rintro ⟨digits, rfl, hdigits⟩
    exact ⟨":".toList, digits, rfl, rfl, hdigits⟩

/-- The parts of the address in a row. Three of the numbers have a dot behind them. -/
theorem matches_addressParts_iff : Matches (.inOrder addressParts) cs ↔ Address cs := by
  simp only [addressParts, matches_inOrder_cons, matches_inOrder_nil, Pattern.times, Pattern.upTo,
    matches_seq_iff, matches_octet_iff, matches_literal_iff, matches_nothing_iff]
  constructor
  · rintro ⟨_, _, rfl, ⟨_, _, rfl, ⟨a, _, rfl, ha, rfl⟩, _, _, rfl, ⟨b, _, rfl, hb, rfl⟩, _, _, rfl,
      ⟨c, _, rfl, hc, rfl⟩, rfl⟩, d, _, rfl, hd, rfl⟩
    simpa using Address.mk ha hb hc hd
  · intro h
    cases h with
    | @mk a b c d ha hb hc hd =>
      refine ⟨a ++ ['.'] ++ (b ++ ['.'] ++ (c ++ ['.'] ++ [])), d ++ [], by simp, ?_, d, [], rfl,
        hd, rfl⟩
      exact ⟨_, _, rfl, ⟨a, ['.'], rfl, ha, rfl⟩, _, _, rfl, ⟨b, ['.'], rfl, hb, rfl⟩, _, _, rfl,
        ⟨c, ['.'], rfl, hc, rfl⟩, rfl⟩

/-- A text with a pattern and a port behind it. All three patterns of destinations end like this. -/
theorem exists_portPart_iff {p : Pattern} :
    (∃ as bs, cs = as ++ bs ∧ Matches p as ∧ Matches portPart bs) ↔
      ∃ site port, cs = site ++ ':' :: port ∧ Matches p site ∧ DigitsUpTo 5 port := by
  simp only [matches_portPart_iff]
  constructor
  · rintro ⟨site, _, hcs, hsite, port, rfl, hport⟩
    exact ⟨site, port, hcs, hsite, hport⟩
  · rintro ⟨site, port, hcs, hsite, hport⟩
    exact ⟨site, ':' :: port, hcs, hsite, port, rfl, hport⟩

theorem matches_addressPattern_iff : Matches addressPattern cs ↔
    ∃ site port, cs = site ++ ':' :: port ∧ Address site ∧ DigitsUpTo 5 port := by
  have hparts : addressPattern = .inOrder (addressParts ++ [portPart]) := rfl
  rw [hparts, matches_inOrder_concat, exists_portPart_iff]
  simp only [matches_addressParts_iff]

theorem matches_hostPattern_iff : Matches hostPattern cs ↔ ∃ site port,
    cs = site ++ ':' :: port ∧ Matches (.inOrder hostParts) site ∧ DigitsUpTo 5 port := by
  have hparts : hostPattern = .inOrder (hostParts ++ [portPart]) := rfl
  rw [hparts, matches_inOrder_concat, exists_portPart_iff]

theorem matches_ownHostPattern_iff : Matches ownHostPattern cs ↔
    ∃ site port, cs = site ++ ':' :: port ∧ site = "localhost".toList ∧ DigitsUpTo 5 port := by
  rw [ownHostPattern, matches_seq_iff, exists_portPart_iff]
  simp only [matches_literal_iff]

/-- A destination with a port is a site, a colon and a port. A site may hold no colon, so there is
one way only to cut the text. -/
theorem matches_destinationPattern_iff : Matches destinationPattern cs ↔
    ∃ site port, cs = site ++ ':' :: port ∧ Site site ∧ DigitsUpTo 5 port := by
  rw [destinationPattern, matches_anyOf_iff]
  constructor
  · rintro ⟨p, hp, h⟩
    simp only [List.mem_cons, List.not_mem_nil, or_false] at hp
    -- One alternative for each kind of site, and the port stands apart from it in all three.
    rcases hp with rfl | rfl | rfl
    · obtain ⟨site, port, hcs, hsite, hport⟩ := matches_addressPattern_iff.1 h
      exact ⟨site, port, hcs, .address hsite, hport⟩
    · obtain ⟨site, port, hcs, hsite, hport⟩ := matches_hostPattern_iff.1 h
      exact ⟨site, port, hcs, .host hsite, hport⟩
    · obtain ⟨_, port, hcs, rfl, hport⟩ := matches_ownHostPattern_iff.1 h
      exact ⟨_, port, hcs, .ownHost, hport⟩
  · rintro ⟨site, port, hcs, hsite, hport⟩
    cases hsite with
    | address h =>
      exact ⟨addressPattern, by simp, matches_addressPattern_iff.2 ⟨site, port, hcs, h, hport⟩⟩
    | host h => exact ⟨hostPattern, by simp, matches_hostPattern_iff.2 ⟨site, port, hcs, h, hport⟩⟩
    | ownHost =>
      exact ⟨ownHostPattern, by simp, matches_ownHostPattern_iff.2 ⟨_, port, hcs, rfl, hport⟩⟩

end Sites

/-! ## 2. Ports -/

/-- The port of a destination is what is read behind the last colon. -/
theorem isPort_destinationPort (s : String) :
    isPort (destinationPort s) = isPortNumeral (afterLast ':' s) := by
  rw [destinationPort, isPortNumeral]
  cases readInt int64Range (afterLast ':' s).toList with
  | ok n => rfl
  | error e => rfl

/-- What stands behind the last separator is what follows a separator and has none. -/
theorem toList_afterLast {sep : Char} {s : String} {front back : List Char}
    (hs : s.toList = front ++ sep :: back) (hback : sep ∉ back) :
    (afterLast sep s).toList = back := by
  have hother : ∀ c ∈ back.reverse, (c != sep) = true := by
    intro c hc
    rw [bne_iff_ne]
    rintro rfl
    exact hback (List.mem_reverse.1 hc)
  have hreversed : (front ++ sep :: back).reverse = back.reverse ++ sep :: front.reverse := by simp
  rw [afterLast, String.toList_ofList, hs, hreversed, List.takeWhile_append_of_pos hother,
    List.takeWhile_cons_of_neg (by simp), List.append_nil, List.reverse_reverse]

/-- A port in the digits `0` to `9`. It may have zeros at the front, as long as there are no more
than five digits. -/
structure IsPlainPort (cs : List Char) : Prop where
  short : cs.length ≤ 5
  digits : IsDigits cs
  least : 1 ≤ spelled 0 cs
  greatest : spelled 0 cs ≤ 65535

/-- The pattern has such a port. -/
theorem IsPlainPort.digitsUpTo {cs : List Char} (h : IsPlainPort cs) : DigitsUpTo 5 cs :=
  ⟨List.length_pos_iff.2 h.digits.notEmpty, h.short, fun c hc =>
    isDecimalDigit_of_isDigit (h.digits.each c hc)⟩

/-- Among digits there is no colon, so the last colon of a destination is the one before its
port. -/
theorem DigitsUpTo.notMem {most : Nat} {cs : List Char} (h : DigitsUpTo most cs) {c : Char}
    (hc : isDecimalDigit c = false) : c ∉ cs := by
  intro hmem
  rw [h.digits c hmem] at hc
  cases hc

/-- Of the digits that the pattern admits, those are read as a port that are `0` to `9`. So the port
of an accepted destination is plain, whatever the pattern would have let through. -/
theorem isPortNumeral_iff_isPlainPort {s : String} (h : DigitsUpTo 5 s.toList) :
    isPortNumeral s = true ↔ IsPlainPort s.toList := by
  -- the pattern admits no sign, so all that is read are digits
  have hplus : s.toList.head? ≠ some '+' := fun hhead =>
    h.notMem (by decide +kernel) (List.mem_of_mem_head? hhead)
  have hminus : s.toList.head? ≠ some '-' := fun hhead =>
    h.notMem (by decide +kernel) (List.mem_of_mem_head? hhead)
  rw [isPortNumeral_iff]
  constructor
  · rintro ⟨n, hnumeral, hleast, hgreatest⟩
    obtain ⟨hdigits, rfl⟩ := (numeral_iff_of_head?_ne hplus hminus).1 hnumeral
    exact ⟨h.short, hdigits, by omega, by omega⟩
  · intro hport
    have hleast := hport.least
    have hgreatest := hport.greatest
    exact ⟨_, .unsigned hport.digits, by omega, by omega⟩

/-! ## 3. Destinations -/

section Destinations

variable {s : String}

/-- What a destination with a port says. The pattern and the number that is read are about the same
text here, because the site ends where the port begins. -/
theorem accepts_and_isPort_iff :
    destinationPattern.accepts s.toList = true ∧ isPort (destinationPort s) = true ↔
      ∃ site port, s.toList = site ++ ':' :: port ∧ Site site ∧ IsPlainPort port := by
  have hread : ∀ {site port}, s.toList = site ++ ':' :: port → DigitsUpTo 5 port →
      (isPort (destinationPort s) = true ↔ IsPlainPort port) := by
    intro site port hs hport
    have hlast : (afterLast ':' s).toList = port :=
      toList_afterLast hs (hport.notMem (by decide +kernel))
    rw [← hlast] at hport ⊢
    rw [isPort_destinationPort, isPortNumeral_iff_isPlainPort hport]
  rw [Pattern.accepts_iff, matches_destinationPattern_iff]
  constructor
  · rintro ⟨⟨site, port, hs, hsite, hport⟩, hisPort⟩
    exact ⟨site, port, hs, hsite, (hread hs hport).1 hisPort⟩
  · rintro ⟨site, port, hs, hsite, hport⟩
    exact ⟨⟨site, port, hs, hsite, hport.digitsUpTo⟩, (hread hs hport.digitsUpTo).2 hport⟩

/-- The checks as they are made: a destination with a port passes two, and the standard error stream
is let through. -/
theorem destinationFault?_eq_none_iff_or : destinationFault? s = none ↔
    (destinationPattern.accepts s.toList = true ∧ isPort (destinationPort s) = true) ∨
      s = "stderr" := by
  rw [destinationFault?]
  by_cases haccepts : destinationPattern.accepts s.toList = true
  · -- the name of the stream has no port, so the pattern refuses it
    have hne : s ≠ "stderr" := by
      rintro rfl
      exact absurd haccepts (by decide +kernel)
    rw [if_pos haccepts, or_iff_left hne, and_iff_right haccepts]
    split <;> simp [*]
  · rw [if_neg haccepts, or_iff_right fun h => haccepts h.1]
    split <;> simp [*]

/-- A destination is accepted when it is a site and a port that is written in the digits `0` to `9`,
or the standard error stream. -/
theorem destinationFault?_eq_none_iff : destinationFault? s = none ↔
    (∃ site port, s.toList = site ++ ':' :: port ∧ Site site ∧ IsPlainPort port) ∨
      s = "stderr" := by
  rw [destinationFault?_eq_none_iff_or, accepts_and_isPort_iff]

end Destinations

end Gatehouse.Format
