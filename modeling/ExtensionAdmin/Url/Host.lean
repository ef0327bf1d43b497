import ExtensionAdmin.Text.Basic
import ExtensionAdmin.Url.Domain
import ExtensionAdmin.Url.Path

/-! The host of a URL: an address in brackets, an address in numbers and dots, or a domain. -/

namespace ExtensionAdmin.Url

/-- One number of an address: hexadecimal after `0x`, octal after `0`, or decimal. -/
def ipv4Number? : List Char → Option Nat
  | [] => none
  | '0' :: 'x' :: cs => Text.inBase? 16 cs
  | '0' :: 'X' :: cs => Text.inBase? 16 cs
  | '0' :: c :: cs => Text.inBase? 8 (c :: cs)
  | cs => Text.inBase? 10 cs

def addressParts (cs : List Char) : List (List Char) :=
  let parts := Text.splitOn '.' cs
  if 1 < parts.length && parts.getLast? == some [] then parts.dropLast else parts

def endsInNumber (cs : List Char) : Bool :=
  match (addressParts cs).getLast? with
  | none => false
  | some last => (!last.isEmpty && last.all Char.isDigit) || (ipv4Number? last).isSome

def ipv4? (cs : List Char) : Option Nat := do
  let parts := addressParts cs
  if 4 < parts.length then none
  let numbers ← parts.mapM ipv4Number?
  let last ← numbers.getLast?
  let front := numbers.dropLast
  if Nat.pow 256 (4 - front.length) ≤ last then none
  if front.any (255 < ·) then none
  let high := (front ++ List.replicate (4 - front.length) 0).foldl (fun n b => n * 256 + b) 0
  return high + last

def renderIpv4 (n : Nat) : List Char :=
  ['.'].intercalate ([n / 0x1000000 % 256, n / 0x10000 % 256, n / 0x100 % 256, n % 256].map
    (Nat.toDigits 10))

def hexGroup : Nat → Nat → List Char → Nat × Nat × List Char
  | 0, v, cs => (v, 0, cs)
  | _ + 1, v, [] => (v, 0, [])
  | room + 1, v, c :: cs =>
    match Text.digitValue? c with
    | none => (v, 0, c :: cs)
    | some d =>
      let r := hexGroup room (v * 16 + d) cs
      (r.1, r.2.1 + 1, r.2.2)

def decimalByte? (cs : List Char) : Option Nat :=
  match cs with
  | [] => none
  | '0' :: _ :: _ => none
  | cs => (Text.inBase? 10 cs).bind fun n => if n ≤ 255 then some n else none

def trailingGroups? (cs : List Char) : Option (List Nat) :=
  match Text.splitOn '.' cs with
  | [a, b, c, d] => do
    let a ← decimalByte? a
    let b ← decimalByte? b
    let c ← decimalByte? c
    let d ← decimalByte? d
    return [a * 256 + b, c * 256 + d]
  | _ => none

structure Groups where
  values : List Nat
  gap : Option Nat

def groupsFrom? : Nat → Groups → List Char → Option Groups
  | 0, _, _ => none
  | _ + 1, g, [] => some g
  | fuel + 1, g, c :: cs =>
    if 8 ≤ g.values.length + (if g.gap.isSome then 1 else 0) then none
    else if c = ':' then
      if g.gap.isSome then none
      else groupsFrom? fuel { g with gap := some g.values.length } cs
    else
      let (v, digits, rest) := hexGroup 4 0 (c :: cs)
      match rest with
      | [] => if digits = 0 then none else some { g with values := g.values ++ [v] }
      | '.' :: _ =>
        if digits = 0 || 6 < g.values.length + (if g.gap.isSome then 1 else 0) then none
        else (trailingGroups? (c :: cs)).map fun t => { g with values := g.values ++ t }
      | ':' :: rest =>
        if digits = 0 || rest.isEmpty then none
        else groupsFrom? fuel { g with values := g.values ++ [v] } rest
      | _ => none

def ipv6? (cs : List Char) : Option (List Nat) := do
  let g ←
    match cs with
    | [] => none
    | [_] => none
    | ':' :: ':' :: rest => groupsFrom? (rest.length + 1) ⟨[], some 0⟩ rest
    | ':' :: _ => none
    | _ => groupsFrom? (cs.length + 1) ⟨[], none⟩ cs
  match g.gap with
  | none => if g.values.length = 8 then some g.values else none
  | some k =>
    if 8 < g.values.length then none
    else some (g.values.take k ++ List.replicate (8 - g.values.length) 0 ++ g.values.drop k)

def zeroRun (gs : List Nat) : Nat := (gs.takeWhile (· == 0)).length

def longestRun : Nat → List Nat → Nat × Nat
  | start, [] => (start, 0)
  | start, g :: gs =>
    let here := zeroRun (g :: gs)
    let later := longestRun (start + 1) gs
    if later.2 ≤ here then (start, here) else later

def renderGroups (gs : List Nat) : List Char :=
  [':'].intercalate (gs.map (Nat.toDigits 16))

def renderIpv6 (gs : List Nat) : List Char :=
  let run := longestRun 0 gs
  if run.2 < 2 then renderGroups gs
  else renderGroups (gs.take run.1) ++ [':', ':'] ++ renderGroups (gs.drop (run.1 + run.2))

inductive Host where
  | domain (name : String)
  | ipv4 (number : Nat)
  | ipv6 (groups : List Nat)
deriving DecidableEq, Repr

def Host.render : Host → List Char
  | .domain name => name.toList
  | .ipv4 n => renderIpv4 n
  | .ipv6 gs => '[' :: renderIpv6 gs ++ [']']

def Host.read (cs : List Char) : Except Fault Host :=
  match cs with
  | '[' :: rest =>
    if rest.getLast? = some ']' then
      match ipv6? rest.dropLast with
      | some gs => .ok (.ipv6 gs)
      | none => .error .invalidIpv6
    else .error .invalidIpv6
  | _ => do
    let name ← asciiDomain (decode cs)
    if name.isEmpty then throw .emptyHost
    else if endsInNumber name then
      match ipv4? name with
      | some n => return .ipv4 n
      | none => throw .invalidIpv4
    else return .domain (String.ofList name)

def checkOpaqueHost (cs : List Char) : Except Fault Unit :=
  match cs with
  | '[' :: rest =>
    if rest.getLast? = some ']' && (ipv6? rest.dropLast).isSome then .ok () else .error .invalidIpv6
  | _ =>
    if cs.any fun c => c.toNat == 0 || c == ' ' || (isForbidden c && c != '%' && 0x20 < c.toNat &&
        c.toNat != 0x7F) then
      .error .invalidDomainCharacter
    else .ok ()

end ExtensionAdmin.Url
