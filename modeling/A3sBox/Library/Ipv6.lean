import A3sBox.Library.Ipv4

/-!
# IPv6 addresses

Reading an address as `std::net::Ipv6Addr` and `std::net::IpAddr` of the Rust standard library do. An address has
eight groups of up to four hexadecimal digits; `::` stands for groups that are zero, and the last two groups may be
written as an address of version 4.
-/

namespace Ipv6Addr

/-- The value of a hexadecimal digit. -/
def hexDigit? (c : Char) : Option ℕ :=
  if c.isDigit then some (c.toNat - '0'.toNat)
  else if 'a' ≤ c ∧ c ≤ 'f' then some (c.toNat - 'a'.toNat + 10)
  else if 'A' ≤ c ∧ c ≤ 'F' then some (c.toNat - 'A'.toNat + 10)
  else none

/-- One to four hexadecimal digits at the beginning, and what follows them. -/
def readGroup (s : List Char) : Option (ℕ × List Char) :=
  let isHex := fun c => (hexDigit? c).isSome
  let digits := (s.takeWhile isHex).filterMap hexDigit?
  if digits = [] ∨ 4 < digits.length then none
  else some (digits.foldl (fun n d => n * 16 + d) 0, s.dropWhile isHex)

/-- What follows the separator before a group; there is none before the first one. -/
def afterSeparator (first : Bool) (s : List Char) : Option (List Char) :=
  if first then some s
  else
    match s with
    | ':' :: rest => some rest
    | _ => none

/-- At most so many groups, whether an address of version 4 was the end of them, and what follows. Nothing follows such
an address, so it is looked for in the whole rest. -/
def readGroups : ℕ → Bool → List Char → List ℕ × Bool × List Char
  | 0, _, s => ([], false, s)
  | limit + 1, first, s =>
    match afterSeparator first s with
    | none => ([], false, s)
    | some rest =>
      match if 0 < limit then Ipv4Addr.parse rest else none with
      | some ip =>
        let (a, b, c, d) := ip.octets
        ([a * 256 + b, c * 256 + d], true, [])
      | none =>
        match readGroup rest with
        | none => ([], false, s)
        | some (group, rest) =>
          let (groups, ipv4, rest) := readGroups limit false rest
          (group :: groups, ipv4, rest)

/-- The groups of the address written in `s`, if it is one. -/
def parse (s : List Char) : Option (List ℕ) :=
  let (head, headIpv4, rest) := readGroups 8 true s
  if head.length = 8 then if rest = [] then some head else none
  else if headIpv4 then none
  else
    match rest with
    | ':' :: ':' :: rest =>
      let (tail, _, rest) := readGroups (8 - (head.length + 1)) true rest
      if rest = [] then some (head ++ List.replicate (8 - head.length - tail.length) 0 ++ tail) else none
    | _ => none

/-- An address of either version. -/
def isIpAddr (s : List Char) : Bool := (Ipv4Addr.parse s).isSome || (parse s).isSome

end Ipv6Addr
