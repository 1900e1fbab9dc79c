import Scim.Pattern.Basic

/-!
# How much room a pattern takes

A pattern that repeats a long part many times could take any amount of room once it is spelled
out.  So a pattern has a weight, an estimate of the bytes that its parts take when the repetitions
are spelled out and the sets are written as sequences of the bytes of their members in UTF-8.
Patterns beyond a limit are refused.
-/

namespace Scim.Pattern

/-! ## Sets as sequences of bytes -/

/-- The number of code points that share all but the last `k` bytes. -/
def blockSize : Nat → Nat
  | 0 => 1
  | k + 1 => 64 * blockSize k

/-- Cuts a range of code points with `k` bytes after the first into sequences of ranges of
bytes. -/
def bytePieces : Nat → Nat → Nat → List (List (Nat × Nat))
  | 0, first, last => [[(first, last)]]
  | k + 1, first, last =>
    let size := blockSize (k + 1)
    let full := size - 1
    let lead := first / size
    let tail := last / size
    if lead = tail then (bytePieces k (first % size) (last % size)).map ((lead, lead) :: ·)
    else
      let cutsFirst := first % size != 0
      let cutsLast := last % size != full
      let low := if cutsFirst then lead + 1 else lead
      let high := if cutsLast then tail else tail + 1
      (if cutsFirst then (bytePieces k (first % size) full).map ((lead, lead) :: ·) else [])
        ++ (if low < high then (bytePieces k 0 full).map ((low, high - 1) :: ·) else [])
        ++ (if cutsLast then (bytePieces k 0 (last % size)).map ((tail, tail) :: ·) else [])

/-- The part of a range between two code points. -/
def clip? (low high : Nat) (range : Nat × Nat) : Option (Nat × Nat) :=
  let first := Nat.max low range.1
  let last := Nat.min high range.2
  if first ≤ last then some (first, last) else none

/-- The code points with `k` bytes after the first. -/
def byteClass : Nat → Nat × Nat
  | 0 => (0, 0x7F)
  | 1 => (0x80, 0x7FF)
  | 2 => (0x800, 0xFFFF)
  | _ => (0x10000, 0x10FFFF)

/-- The sequences of ranges of bytes for ranges of code points. -/
def byteSequences (ranges : List (Nat × Nat)) (k : Nat) : List (List (Nat × Nat)) :=
  (ranges.filterMap (clip? (byteClass k).1 (byteClass k).2)).flatMap fun (first, last) =>
    bytePieces k first last

/-- The number of steps at which two sequences agree from their start. -/
def agreement : List (Nat × Nat) → List (Nat × Nat) → Nat
  | p :: ps, q :: qs => if p = q then agreement ps qs + 1 else 0
  | _, _ => 0

/-- The number of steps of sequences when each shares its start with the one before it. -/
def sharedSteps : List (Nat × Nat) → List (List (Nat × Nat)) → Nat
  | _, [] => 0
  | before, s :: rest => s.length - agreement before s + sharedSteps s rest

/-- The room of a step, of a choice between steps, and of a range of bytes in a step. -/
def stepRoom : Nat := 32

@[inherit_doc stepRoom]
def choiceRoom : Nat := 4

@[inherit_doc stepRoom]
def byteRangeRoom : Nat := 8

/-- The room of ascending ranges of code points. -/
def rangesRoom (ranges : List (Nat × Nat)) : Nat :=
  if ranges.all fun range => range.2 < 0x80 then
    2 * stepRoom + byteRangeRoom * ranges.length
  else
    [0, 1, 2, 3].foldl (fun room k =>
      let sequences := byteSequences ranges k
      room + stepRoom * sharedSteps [] sequences + choiceRoom * sequences.length) (2 * stepRoom)

/-- The room that the code points outside of a set take beyond the room of the set. -/
def complementRoom : Nat := 936

/-- The room of a set. -/
def setRoom : Text.CharSet → Nat
  | .ranges ranges => rangesRoom ranges
  | .caseless _ s => setRoom s + byteRangeRoom
  | .complement s => setRoom s + complementRoom
  | .union s t => setRoom s + setRoom t
  | .inter s t => setRoom s + setRoom t
  | .diff s t => setRoom s + setRoom t
  | .symmDiff s t => setRoom s + setRoom t

/-! ## Patterns -/

/-- Whether all matches of the pattern are empty. -/
def isWidthless : Pattern → Bool
  | empty => true
  | literal _ _ => false
  | set _ => false
  | anchor _ => true
  | seq p q => p.isWidthless && q.isWidthless
  | alt p q => p.isWidthless && q.isWidthless
  | repeated p _ most => p.isWidthless || most == some 0

/-- The weight of a pattern.  Repeating a pattern without width more than once changes nothing. -/
def weight : Pattern → Nat
  | empty => stepRoom
  | literal rule c =>
    match rule.variants c.toNat with
    | [_] => stepRoom * c.utf8Size
    | others => rangesRoom (others.map fun n => (n, n))
  | set s => setRoom s
  | anchor _ => stepRoom
  | seq p q => p.weight + q.weight
  | alt p q => p.weight + q.weight + 2 * (stepRoom + choiceRoom)
  | repeated p least most =>
    let choice := stepRoom + 2 * choiceRoom
    let cap (n : Nat) : Nat := if p.isWidthless then Nat.min n 1 else n
    match most with
    | none => Nat.max (cap least) 1 * p.weight + choice
    | some most => cap most * p.weight + (cap most - cap least) * choice + stepRoom

/-- The weight beyond which a pattern is refused. -/
def weightLimit : Nat := 10 * 1024 * 1024

end Scim.Pattern
