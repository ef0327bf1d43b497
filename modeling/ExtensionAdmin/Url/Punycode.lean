/-! Punycode: text beyond ASCII as the letters and digits of a domain label. The characters beyond
ASCII follow a list of the others, as distances: each says how far to count, through all characters
and all places in the label, to the next insertion. A distance is written in base 36 with thresholds
that adapt to the distances before it. -/

namespace ExtensionAdmin.Url.Punycode

def digit (d : Nat) : Char :=
  if d < 26 then Char.ofNat (0x61 + d) else Char.ofNat (0x16 + d)

def value? (c : Char) : Option Nat :=
  let n := c.toNat
  if 0x61 ≤ n && n ≤ 0x7A then some (n - 0x61)
  else if 0x41 ≤ n && n ≤ 0x5A then some (n - 0x41)
  else if 0x30 ≤ n && n ≤ 0x39 then some (n - 0x16)
  else none

def threshold (k bias : Nat) : Nat := min 26 (max 1 (k - bias))

def scale : Nat → Nat → Nat → Nat
  | 0, delta, k => k + 36 * delta / (delta + 38)
  | fuel + 1, delta, k =>
    if 455 < delta then scale fuel (delta / 35) (k + 36) else k + 36 * delta / (delta + 38)

def adapt (delta count : Nat) (first : Bool) : Nat :=
  let d := if first then delta / 700 else delta / 2
  scale d (d + d / count) 0

def encodeDistance : Nat → Nat → Nat → Nat → List Char
  | 0, q, _, _ => [digit q]
  | fuel + 1, q, k, bias =>
    let t := threshold k bias
    if q < t then [digit q]
    else digit (t + (q - t) % (36 - t)) :: encodeDistance fuel ((q - t) / (36 - t)) (k + 36) bias

/-- What an encoder has done: the distance since the last insertion, the bias, the number of
characters that stand, and the text so far. -/
structure Encoder where
  delta : Nat
  bias : Nat
  count : Nat
  basic : Nat
  output : List Char

def Encoder.pass (n : Nat) (e : Encoder) (label : List Nat) : Encoder :=
  label.foldl (fun e c =>
    if c < n then { e with delta := e.delta + 1 }
    else if c = n then
      { e with
        output := e.output ++ encodeDistance e.delta e.delta 36 e.bias
        bias := adapt e.delta (e.count + 1) (e.count == e.basic)
        delta := 0
        count := e.count + 1 }
    else e) e

def encode (label : List Char) : List Char :=
  let points := label.map Char.toNat
  let basic := label.filter fun c => c.toNat < 0x80
  let start : Encoder :=
    ⟨0, 72, basic.length, basic.length, if basic.isEmpty then [] else basic ++ ['-']⟩
  let beyond := (points.filter (0x80 ≤ ·)).mergeSort.eraseDups
  let final := beyond.foldl (fun (acc : Encoder × Nat) n =>
    let e := { acc.1 with delta := acc.1.delta + (n - acc.2) * (acc.1.count + 1) }
    let e := e.pass n points
    ({ e with delta := e.delta + 1 }, n + 1)) (start, 0x80)
  final.1.output

/-- Reads one distance: its value added to `i`, and the rest. Neither the sum nor the weight of a
digit goes beyond 32 bits. -/
def decodeDistance (bias : Nat) : Nat → Nat → Nat → List Char → Option (Nat × List Char)
  | _, _, _, [] => none
  | i, w, k, c :: cs => do
    let d ← value? c
    let t := threshold k bias
    let i := i + d * w
    if 0x100000000 ≤ i || 0x100000000 ≤ w then none
    else if d < t then some (i, cs)
    else decodeDistance bias i (w * (36 - t)) (k + 36) cs

def decodeFrom : Nat → Nat → Nat → Nat → List Nat → List Char → Option (List Nat)
  | _, _, _, _, label, [] => some label
  | 0, _, _, _, _, _ => none
  | fuel + 1, n, i, bias, label, cs => do
    let (j, rest) ← decodeDistance bias i 1 36 cs
    let size := label.length + 1
    let n := n + j / size
    let place := j % size
    if !n.isValidChar then none
    else
      decodeFrom fuel n (place + 1) (adapt (j - i) size (i == 0))
        (label.take place ++ [n] ++ label.drop place) rest

def decode? (text : List Char) : Option (List Nat) :=
  let tail := (text.reverse.takeWhile (· ≠ '-')).reverse
  let basic := (text.take (text.length - tail.length)).dropLast
  if basic.isEmpty then decodeFrom text.length 0x80 0 72 [] text
  else decodeFrom text.length 0x80 0 72 (basic.map Char.toNat) tail

end ExtensionAdmin.Url.Punycode
