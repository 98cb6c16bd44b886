/-
IPv6 addresses as text.

`isIpv6Address` holds of the texts that `ipaddress.IPv6Address` accepts; the address they
denote is not computed.
-/
import DaftOlap.Python.Text

namespace DaftOlap
namespace Python

/-- `text.split(separator)`. -/
def Text.splitChar (separator : PyChar) : Text → List Text
  | [] => [[]]
  | c :: rest =>
    if c = separator then [] :: splitChar separator rest
    else
      match splitChar separator rest with
      | part :: parts => (c :: part) :: parts
      | [] => [[c]]

/-- `[0-9A-Fa-f]`. -/
def PyChar.isHexDigit : PyChar → Bool
  | scalar c => c.isDigit || ('a' ≤ c && c ≤ 'f') || ('A' ≤ c && c ≤ 'F')
  | surrogate _ => false

/-- `_parse_hextet` does not raise. -/
def isHextet (t : Text) : Bool := t ≠ [] ∧ t.length ≤ 4 ∧ t.all PyChar.isHexDigit

/-- `_parse_octet` does not raise: no leading zero, and at most 255. -/
def isOctet (t : Text) : Bool :=
  t ≠ [] ∧ t.all PyChar.isAsciiDigit ∧ t.length ≤ 3 ∧
    (t.head? = some (PyChar.scalar '0') → t.length = 1) ∧
    t.foldl (fun n c => 10 * n + (c.ord - 48)) 0 ≤ 255

/-- `IPv4Address(text)` does not raise. -/
def isIpv4Address (t : Text) : Bool :=
  let octets := t.splitChar '.'
  octets.length = 4 ∧ octets.all isOctet

/-- The hexadecimal parts of an address; a dotted suffix stands for two of them. -/
def ipv6Parts (t : Text) : Option (List Text) :=
  let parts := t.splitChar ':'
  if parts.length < 3 then none
  else
    match parts.getLast? with
    | some last =>
      if PyChar.scalar '.' ∈ last then
        if isIpv4Address last then some (parts.dropLast ++ [str "0", str "0"]) else none
      else some parts
    | none => none

/-- `_ip_int_from_string` does not raise on these parts: there are eight hextets, or fewer and
one place where two colons meet, which may be at either end. -/
def areHextets (parts : List Text) : Bool :=
  let skipped := (List.range parts.length).filter fun i =>
    1 ≤ i ∧ i + 1 < parts.length ∧ parts[i]? = some []
  match skipped with
  | [] => parts.length = 8 ∧ parts.all isHextet
  | [skipIndex] =>
    let before := parts.take skipIndex
    let after := parts.drop (skipIndex + 1)
    let high := if before.head? = some [] then before.tail else before
    let low := if after.getLast? = some [] then after.dropLast else after
    -- An empty first or last part needs the skipped one beside it.
    (before.head? = some [] → high = []) ∧ (after.getLast? = some [] → low = []) ∧
      high.length + low.length < 8 ∧ high.all isHextet ∧ low.all isHextet
  | _ => false

/-- `IPv6Address(text)` does not raise. -/
def isIpv6Address (t : Text) : Bool :=
  let scope := (t.dropWhile (· ≠ PyChar.scalar '%')).tail
  let address := t.takeWhile (· ≠ PyChar.scalar '%')
  PyChar.scalar '/' ∉ t ∧ (PyChar.scalar '%' ∈ t → scope ≠ [] ∧ PyChar.scalar '%' ∉ scope) ∧
    (ipv6Parts address).any fun parts => parts.length ≤ 9 ∧ areHextets parts

example : isIpv6Address (str "fe80::1%eth0") = true ∧ isIpv6Address (str "::ffff:10.0.0.1") = true ∧
    isIpv6Address (str "1:2:3:4:5:6:7:8:9") = false ∧ isIpv6Address (str "[::1]") = false := by
  decide

end Python
end DaftOlap
