/-!
Labels of host names above ASCII, written with ASCII characters: code points are listed in increasing order as
differences, each a little-endian number whose digit thresholds follow an adapting bias.
-/

namespace MarkdownLayout.Punycode

def digitChar (d : Nat) : Char :=
  if d < 26 then Char.ofNat (0x61 + d) else Char.ofNat (0x30 + (d - 26))

def digitValue? (c : Char) : Option Nat :=
  if 'a' ≤ c && c ≤ 'z' then some (c.toNat - 0x61)
  else if 'A' ≤ c && c ≤ 'Z' then some (c.toNat - 0x41)
  else if '0' ≤ c && c ≤ '9' then some (c.toNat - 0x30 + 26)
  else none

def threshold (position bias : Nat) : Nat :=
  if position ≤ bias then 1 else if bias + 26 ≤ position then 26 else position - bias

theorem threshold_pos (position bias : Nat) : 1 ≤ threshold position bias := by
  unfold threshold
  split
  · omega
  · split <;> omega

def shrink (delta offset : Nat) : Nat × Nat :=
  if 455 < delta then shrink (delta / 35) (offset + 36) else (delta, offset)
termination_by delta
decreasing_by exact Nat.div_lt_self (by omega) (by omega)

def adapt (delta count : Nat) (first : Bool) : Nat :=
  let delta := if first then delta / 700 else delta / 2
  let (delta, offset) := shrink (delta + delta / count) 0
  offset + 36 * delta / (delta + 38)

def encodeNumber (bias position n : Nat) : List Char :=
  let t := threshold position bias
  if n < t then [digitChar n]
  else digitChar (t + (n - t) % (36 - t)) :: encodeNumber bias (position + 36) ((n - t) / (36 - t))
termination_by n
decreasing_by
  have := threshold_pos position bias
  exact Nat.lt_of_le_of_lt (Nat.div_le_self _ _) (by omega)

structure Encoder where
  output : List Char
  delta : Nat
  bias : Nat
  handled : Nat

def encodeOccurrences (basicCount target : Nat) (label : List Char) (state : Encoder) : Encoder :=
  label.foldl (fun s c =>
    if c.toNat < target then { s with delta := s.delta + 1 }
    else if c.toNat = target then
      { output := s.output ++ encodeNumber s.bias 36 s.delta
        delta := 0
        bias := adapt s.delta (s.handled + 1) (s.handled == basicCount)
        handled := s.handled + 1 }
    else s) state

def encodeFrom (basicCount : Nat) (label : List Char) : Nat → List Nat → Encoder → Encoder
  | _, [], state => state
  | next, target :: rest, state =>
    let state := { state with delta := state.delta + (target - next) * (state.handled + 1) }
    let state := encodeOccurrences basicCount target label state
    encodeFrom basicCount label (target + 1) rest { state with delta := state.delta + 1 }

def insertSorted (n : Nat) : List Nat → List Nat
  | [] => [n]
  | m :: rest => if n < m then n :: m :: rest else if n = m then m :: rest else m :: insertSorted n rest

def encode (label : List Char) : List Char :=
  let basic := label.filter fun c => c.toNat < 0x80
  let targets := (label.filter fun c => 0x80 ≤ c.toNat).foldl (fun ns c => insertSorted c.toNat ns) []
  let start : Encoder := { output := [], delta := 0, bias := 72, handled := basic.length }
  basic ++ (if basic.isEmpty then [] else ['-']) ++ (encodeFrom basic.length label 0x80 targets start).output

def decodeNumber (bias : Nat) : List Char → Nat → Nat → Nat → Option (Nat × List Char)
  | [], _, _, _ => none
  | c :: rest, position, weight, n => do
    let digit ← digitValue? c
    let t := threshold position bias
    if digit < t then pure (n + digit * weight, rest)
    else decodeNumber bias rest (position + 36) (weight * (36 - t)) (n + digit * weight)

def decodeFrom : Nat → Nat → Nat → Nat → List Char → List Char → Option (List Char)
  | 0, _, _, _, output, _ => some output
  | _ + 1, _, _, _, output, [] => some output
  | fuel + 1, bias, codePoint, index, output, cs => do
    let (next, rest) ← decodeNumber bias cs 36 1 index
    let count := output.length + 1
    let codePoint := codePoint + next / count
    if codePoint < 0xd800 || 0xdfff < codePoint && codePoint < 0x110000 then
      let place := next % count
      let output := output.insertIdx place (Char.ofNat codePoint)
      decodeFrom fuel (adapt (next - index) count (index == 0)) codePoint (place + 1) output rest
    else none

def decode? (label : List Char) : Option (List Char) :=
  let tail := (label.reverse.takeWhile (· != '-')).reverse
  let basic := label.take (label.length - tail.length - 1)
  decodeFrom (label.length + 1) 72 0x80 0 basic tail

end MarkdownLayout.Punycode
