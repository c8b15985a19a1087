/-!
The Mersenne Twister MT19937: a state of 624 words of 32 bits, seeded by an array of words, that
yields words of 32 bits.
-/
namespace PeopleFeed

/-- The state of the generator: its words, and how many of them have been handed out. -/
structure Twister where
  words : Array UInt32
  used : Nat
  deriving Inhabited

namespace Twister

/-- The number of words of a state. -/
def degree : Nat := 624

/-- A word mixed with the bits that its upper part moves down. -/
def fold (w : UInt32) : UInt32 :=
  w ^^^ (w >>> 30)

/-- The words that a single word spreads into. -/
def spread (seed : UInt32) : Array UInt32 :=
  (List.range (degree - 1)).foldl
    (fun words k => words.push (1812433253 * fold (words.getD k 0) + UInt32.ofNat (k + 1)))
    #[seed]

/-- Replaces the word at place `i` by what `mix` makes of it and of its predecessor. Behind the
last place the first word is replaced by the last, and the work goes on at place one. -/
def mixAt (mix : Nat → UInt32 → UInt32 → UInt32) (words : Array UInt32) (i : Nat) :
    Array UInt32 × Nat :=
  let words := words.setIfInBounds i (mix i (words.getD i 0) (words.getD (i - 1) 0))
  if degree ≤ i + 1 then (words.setIfInBounds 0 (words.getD (degree - 1) 0), 1)
  else (words, i + 1)

/-- The state that an array of words gives. -/
def ofKey (key : Array UInt32) : Twister :=
  let size := max key.size 1
  let mixKey (j : Nat) (_ : Nat) (word before : UInt32) : UInt32 :=
    (word ^^^ (fold before * 1664525)) + key.getD j 0 + UInt32.ofNat j
  let mixPlace (i : Nat) (word before : UInt32) : UInt32 :=
    (word ^^^ (fold before * 1566083941)) - UInt32.ofNat i
  let first := (List.range (max degree size)).foldl
    (fun state k => mixAt (mixKey (k % size)) state.1 state.2) (spread 19650218, 1)
  let second := (List.range (degree - 1)).foldl
    (fun state _ => mixAt mixPlace state.1 state.2) first
  ⟨second.1.setIfInBounds 0 0x80000000, degree⟩

/-- The words of a natural number, the least significant first, at most as many as the fuel. -/
def wordsOf : Nat → Nat → List UInt32
  | 0, _ => []
  | fuel + 1, n => UInt32.ofNat n :: if n < 0x100000000 then [] else wordsOf fuel (n / 0x100000000)

/-- The state that a whole number gives; its sign does not count. -/
def ofSeed (seed : Int) : Twister :=
  ofKey (wordsOf (Nat.log2 seed.natAbs + 1) seed.natAbs).toArray

/-- The state with all words renewed. -/
def renew (t : Twister) : Twister :=
  let twist (words : Array UInt32) (k : Nat) : Array UInt32 :=
    let y := (words.getD k 0 &&& 0x80000000) ||| (words.getD ((k + 1) % degree) 0 &&& 0x7FFFFFFF)
    let m := words.getD ((k + 397) % degree) 0
    words.setIfInBounds k (m ^^^ (y >>> 1) ^^^ (if y &&& 1 == 1 then 0x9908B0DF else 0))
  ⟨(List.range degree).foldl twist t.words, 0⟩

/-- The bits of a word spread over the word. -/
def temper (y : UInt32) : UInt32 :=
  let y := y ^^^ (y >>> 11)
  let y := y ^^^ ((y <<< 7) &&& 0x9D2C5680)
  let y := y ^^^ ((y <<< 15) &&& 0xEFC60000)
  y ^^^ (y >>> 18)

/-- The next word. -/
def next (t : Twister) : UInt32 × Twister :=
  let t := if degree ≤ t.used then t.renew else t
  (temper (t.words.getD t.used 0), { t with used := t.used + 1 })

/-- The number of bits of a natural number. -/
def bitLength (n : Nat) : Nat :=
  if n = 0 then 0 else Nat.log2 n + 1

/-- A number below `n`: words cut to the bits of `n` are drawn until one is below it. After as
many draws as the fuel the last one is reduced. -/
def below (n : Nat) : Nat → Twister → Nat × Twister
  | 0, t => (0, t)
  | fuel + 1, t =>
    let (w, t) := t.next
    let r := w.toNat >>> (32 - bitLength n)
    if r < n then (r, t)
    else if fuel = 0 then (r % n, t)
    else below n fuel t

/-- So many draws are above a bound only with a chance below two to the minus this number. -/
def drawLimit : Nat := 4096

end Twister

end PeopleFeed
