import Scaffold.Shell.Number

/-!
# Digests

Digests work on words of 32 or 64 bits: sums wrap around, and bits that are turned out at one end
come in at the other. `WordSize.split` cuts a text into words, and `WordSize.filled` fills it up so
that whole blocks of words come out, with its length at the end.

The constants of the second generation of the SHA family are the first bits behind the point of
roots of the first primes (`Digest.rootBits`), and its words have either size (`SecureForm`). The
constants of the message digest of 128 bits are the first bits of sines, and the one of up to 512
bits mixes pairs of words (`Mixed`). The digests that utilities know (`DigestKind`) go by the names
of the utilities and by the names that lines about them tell.
-/

set_option autoImplicit false

namespace Scaffold.Shell

open Text (Octets)

/-! ### Words -/

/-- The size of words: their bits, and one more than the greatest of them. -/
structure WordSize where
  bits : Nat
  limit : Nat

/-- The order of the octets of a word: the lowest first, or the highest. -/
inductive OctetOrder
  | lowestFirst
  | highestFirst
  deriving DecidableEq

namespace WordSize

/-- Words of 32 bits. -/
def short : WordSize :=
  ⟨32, 4294967296⟩

/-- Words of 64 bits. -/
def long : WordSize :=
  ⟨64, Text.wordLimit⟩

/-- The octets of a word. -/
def octets (size : WordSize) : Nat :=
  size.bits / 8

/-- The sum of words. -/
def add (size : WordSize) (words : List Nat) : Nat :=
  words.foldl (fun total word ↦ (total + word) % size.limit) 0

/-- The word with its bits turned to the right. -/
def turnRight (size : WordSize) (count word : Nat) : Nat :=
  (word >>> count) ||| ((word <<< (size.bits - count)) % size.limit)

/-- The word with its bits turned to the left. -/
def turnLeft (size : WordSize) (count word : Nat) : Nat :=
  size.turnRight (size.bits - count) word

/-- The word with each of its bits changed. -/
def complement (size : WordSize) (word : Nat) : Nat :=
  size.limit - 1 - word

/-- The bits of the second word where the first has one, and those of the third where it has
none. -/
def choose (size : WordSize) (first second third : Nat) : Nat :=
  (first &&& second) ||| (size.complement first &&& third)

/-- The bits that two of three words have at least. -/
def majority (first second third : Nat) : Nat :=
  (first &&& second) ||| (first &&& third) ||| (second &&& third)

/-- The number that octets are. -/
def ofOctets (order : OctetOrder) (octets : Octets) : Nat :=
  let octets := if order = .lowestFirst then octets.reverse else octets
  octets.foldl (fun value c ↦ value * 256 + c.toNat) 0

/-- The octets of a number. -/
def toOctets (order : OctetOrder) (count value : Nat) : Octets :=
  let lowestFirst := (List.range count).map fun index ↦ Char.ofNat ((value >>> (8 * index)) % 256)
  if order = .lowestFirst then lowestFirst else lowestFirst.reverse

/-- The words of a text, of so many octets each. -/
def split (order : OctetOrder) (count : Nat) : (left : Nat) → Octets → List Nat
  | 0, _ => []
  | _ + 1, [] => []
  | left + 1, text => ofOctets order (text.take count) :: split order count left (text.drop count)

/-- The text with a mark, zeros and its length in bits behind it, so that blocks of 16 words come
out. -/
def filled (size : WordSize) (order : OctetOrder) (text : Octets) : Octets :=
  let block := 16 * size.octets
  let mark := 1 + 2 * size.octets
  let zeros := (block - (text.length + mark) % block) % block
  text ++ '\x80' :: List.replicate zeros '\x00' ++
    toOctets order (2 * size.octets) (8 * text.length)

/-- Lists of so many of the elements each. -/
def blocks {α : Type} (count : Nat) : (left : Nat) → List α → List (List α)
  | 0, _ => []
  | _ + 1, [] => []
  | left + 1, elements => elements.take count :: blocks count left (elements.drop count)

/-- The blocks of 16 words of a text that has been filled up. -/
def blocksOf (size : WordSize) (order : OctetOrder) (text : Octets) : List (List Nat) :=
  let text := size.filled order text
  blocks 16 (text.length + 1) (split order size.octets (text.length + 1) text)

end WordSize

namespace Digest

/-- Octets in hexadecimal digits. -/
def hexadecimal (octets : Octets) : Octets :=
  octets.flatMap fun c ↦
    let digits := Number.digits 16 c.toNat
    List.replicate (2 - digits.length) '0' ++ digits

end Digest

end Scaffold.Shell

namespace Scaffold.Shell.Digest

open Text (Octets)

/-! ### Constants -/

/-- The first primes, so many of them, from a number on; `left` bounds the search. -/
def primesFrom : (left count candidate : Nat) → List Nat
  | 0, _, _ => []
  | _ + 1, 0, _ => []
  | left + 1, count + 1, candidate =>
    let isPrime := (List.range candidate).all fun divisor ↦
      divisor < 2 || candidate % divisor != 0
    if isPrime then candidate :: primesFrom left count (candidate + 1)
    else primesFrom left (count + 1) (candidate + 1)

/-- The first 80 primes. -/
def primes : List Nat :=
  primesFrom 500 80 2

/-- The greatest number whose power is at most a value, looked for bit by bit from a highest one
on. -/
def root (power value : Nat) : (bit : Nat) → (found : Nat) → Nat
  | 0, found => found
  | bit + 1, found =>
    let larger := found + 1 <<< bit
    root power value bit (if Nat.pow larger power ≤ value then larger else found)

/-- The first bits behind the point of a root of a number below 512. -/
def rootBits (size : WordSize) (power number : Nat) : Nat :=
  root power (number <<< (power * size.bits)) (size.bits + 5) 0 % size.limit

/-! ### The second generation -/

/-- A digest of the second generation: how its words are turned and shifted, what it starts with and
how many octets come out. -/
structure SecureForm where
  size : WordSize
  /-- The turns of words in a round. -/
  first : Nat × Nat × Nat
  second : Nat × Nat × Nat
  /-- The turns and the shift of words that are worked into later ones. -/
  third : Nat × Nat × Nat
  fourth : Nat × Nat × Nat
  constants : Array Nat
  start : List Nat
  length : Nat

namespace SecureForm

/-- A word turned in three ways. -/
def turns (size : WordSize) (counts : Nat × Nat × Nat) (word : Nat) : Nat :=
  size.turnRight counts.1 word ^^^ size.turnRight counts.2.1 word ^^^ size.turnRight counts.2.2 word

/-- A word turned in two ways and shifted. -/
def shifts (size : WordSize) (counts : Nat × Nat × Nat) (word : Nat) : Nat :=
  size.turnRight counts.1 word ^^^ size.turnRight counts.2.1 word ^^^ (word >>> counts.2.2)

/-- The words of a block with so many more behind them. -/
def schedule (form : SecureForm) : (left : Nat) → Array Nat → Array Nat
  | 0, words => words
  | left + 1, words =>
    let at_ := fun (back : Nat) ↦ words.getD (words.size - back) 0
    let word := form.size.add [shifts form.size form.fourth (at_ 2), at_ 7,
      shifts form.size form.third (at_ 15), at_ 16]
    schedule form left (words.push word)

/-- One round for a word and its constant. -/
def round (form : SecureForm) (state : List Nat) (word : Nat × Nat) : List Nat :=
  match state with
  | [a, b, c, d, e, f, g, h] =>
    let size := form.size
    let early := size.add [h, turns size form.second e, size.choose e f g, word.1, word.2]
    let late := size.add [turns size form.first a, WordSize.majority a b c]
    [size.add [early, late], a, b, c, size.add [d, early], e, f, g]
  | state => state

/-- Works a block into a state. -/
def compress (form : SecureForm) (state : List Nat) (block : List Nat) : List Nat :=
  let words := form.schedule (form.constants.size - 16) block.toArray
  let worked := (words.zip form.constants).foldl form.round state
  List.zipWith (fun before after ↦ form.size.add [before, after]) state worked

/-- The digest of a text. -/
def digest (form : SecureForm) (text : Octets) : Octets :=
  let state := (form.size.blocksOf .highestFirst text).foldl form.compress form.start
  (state.flatMap (WordSize.toOctets .highestFirst form.size.octets)).take form.length

/-- The constants of so many rounds. -/
def constantsOf (size : WordSize) (rounds : Nat) : Array Nat :=
  ((primes.take rounds).map (rootBits size 3)).toArray

/-- What the first primes give to start with, or those that follow them. -/
def startOf (size : WordSize) (isLater : Bool) : List Nat :=
  ((primes.drop (if isLater then 8 else 0)).take 8).map (rootBits size 2)

/-- The digest of 256 bits. -/
def bits256 : SecureForm where
  size := .short
  first := (2, 13, 22)
  second := (6, 11, 25)
  third := (7, 18, 3)
  fourth := (17, 19, 10)
  constants := constantsOf .short 64
  start := startOf .short false
  length := 32

/-- The digest of 512 bits. -/
def bits512 : SecureForm where
  size := .long
  first := (28, 34, 39)
  second := (14, 18, 41)
  third := (1, 8, 7)
  fourth := (19, 61, 6)
  constants := constantsOf .long 80
  start := startOf .long false
  length := 64

/-- The digest of 384 bits. -/
def bits384 : SecureForm :=
  { bits512 with
    start := startOf .long true
    length := 48 }

/-- The digest of 224 bits. -/
def bits224 : SecureForm :=
  { bits256 with
    start := (startOf .long true).map (· % WordSize.short.limit)
    length := 28 }

end SecureForm

/-! ### The first generation -/

/-- What the digests of 128 and 160 bits start with. -/
def oldStart : List Nat :=
  [0x67452301, 0xefcdab89, 0x98badcfe, 0x10325476, 0xc3d2e1f0]

namespace Secure

/-- The words of a block with so many more behind them. -/
def schedule : (left : Nat) → Array Nat → Array Nat
  | 0, words => words
  | left + 1, words =>
    let at_ := fun (back : Nat) ↦ words.getD (words.size - back) 0
    let word := WordSize.short.turnLeft 1 (at_ 3 ^^^ at_ 8 ^^^ at_ 14 ^^^ at_ 16)
    schedule left (words.push word)

/-- One round for a word and its number. -/
def round (state : List Nat) (word : Nat × Nat) : List Nat :=
  match state with
  | [a, b, c, d, e] =>
    let size := WordSize.short
    let (mixed, constant) :=
      if word.2 < 20 then (size.choose b c d, 0x5a827999)
      else if word.2 < 40 then (b ^^^ c ^^^ d, 0x6ed9eba1)
      else if word.2 < 60 then (WordSize.majority b c d, 0x8f1bbcdc)
      else (b ^^^ c ^^^ d, 0xca62c1d6)
    [size.add [size.turnLeft 5 a, mixed, e, constant, word.1], a, size.turnLeft 30 b, c, d]
  | state => state

/-- Works a block into a state. -/
def compress (state : List Nat) (block : List Nat) : List Nat :=
  let worked := (schedule 64 block.toArray).toList.zipIdx.foldl round state
  List.zipWith (fun before after ↦ WordSize.short.add [before, after]) state worked

/-- The digest of 160 bits. -/
def digest (text : Octets) : Octets :=
  let state := (WordSize.short.blocksOf .highestFirst text).foldl compress oldStart
  state.flatMap (WordSize.toOctets .highestFirst 4)

end Secure

/-! ### The digest of 128 bits -/

namespace Message

/-- The constants: the first 32 bits behind the point of the sines of whole numbers, without their
signs. -/
def constants : List Nat :=
  (List.range 64).map fun index ↦
    ((Float.sin (Float.ofNat (index + 1))).abs * 4294967296.0).toUInt64.toNat

/-- How far words are turned in the four parts of a block's work. -/
def turns : List (List Nat) :=
  [[7, 12, 17, 22], [5, 9, 14, 20], [4, 11, 16, 23], [6, 10, 15, 21]]

/-- The number of the word that a round takes. -/
def wordOf (round : Nat) : Nat :=
  match round / 16 with
  | 0 => round % 16
  | 1 => (5 * round + 1) % 16
  | 2 => (3 * round + 5) % 16
  | _ => (7 * round) % 16

/-- One round, with its number and constant. -/
def round (block : Array Nat) (state : List Nat) (step : Nat × Nat) : List Nat :=
  match state with
  | [a, b, c, d] =>
    let size := WordSize.short
    let (constant, number) := step
    let mixed :=
      match number / 16 with
      | 0 => size.choose b c d
      | 1 => size.choose d b c
      | 2 => b ^^^ c ^^^ d
      | _ => c ^^^ (b ||| size.complement d)
    let turn := ((turns.getD (number / 16) []).getD (number % 4) 0)
    let sum := size.add [a, mixed, constant, block.getD (wordOf number) 0]
    [d, size.add [b, size.turnLeft turn sum], b, c]
  | state => state

/-- Works a block into a state. -/
def compress (state : List Nat) (block : List Nat) : List Nat :=
  let worked := constants.zipIdx.foldl (round block.toArray) state
  List.zipWith (fun before after ↦ WordSize.short.add [before, after]) state worked

/-- The digest of a text. -/
def digest (text : Octets) : Octets :=
  let state := (WordSize.short.blocksOf .lowestFirst text).foldl compress (oldStart.take 4)
  state.flatMap (WordSize.toOctets .lowestFirst 4)

end Message

/-! ### The digest that mixes -/

namespace Mixed

/-- The orders in which the words of a block are taken, round by round. -/
def orders : List (List Nat) :=
  [[0, 1, 2, 3, 4, 5, 6, 7, 8, 9, 10, 11, 12, 13, 14, 15],
    [14, 10, 4, 8, 9, 15, 13, 6, 1, 12, 0, 2, 11, 7, 5, 3],
    [11, 8, 12, 0, 5, 2, 15, 13, 10, 14, 3, 6, 7, 1, 9, 4],
    [7, 9, 3, 1, 13, 12, 11, 14, 2, 6, 5, 10, 4, 0, 15, 8],
    [9, 0, 5, 7, 2, 4, 10, 15, 14, 1, 11, 12, 6, 8, 3, 13],
    [2, 12, 6, 10, 0, 11, 8, 3, 4, 13, 7, 5, 15, 14, 1, 9],
    [12, 5, 1, 15, 14, 13, 4, 10, 0, 7, 6, 3, 9, 2, 8, 11],
    [13, 11, 7, 14, 12, 1, 3, 9, 5, 0, 15, 4, 8, 6, 2, 10],
    [6, 15, 14, 9, 11, 3, 0, 8, 12, 2, 13, 7, 1, 4, 10, 5],
    [10, 2, 8, 4, 7, 6, 1, 5, 15, 11, 9, 14, 3, 12, 13, 0]]

/-- The places of four words that are mixed: columns first, then diagonals. -/
def places : List (Nat × Nat × Nat × Nat) :=
  [(0, 4, 8, 12), (1, 5, 9, 13), (2, 6, 10, 14), (3, 7, 11, 15),
    (0, 5, 10, 15), (1, 6, 11, 12), (2, 7, 8, 13), (3, 4, 9, 14)]

/-- Mixes two words into four. -/
def mix (state : Array Nat) (place : Nat × Nat × Nat × Nat) (first second : Nat) : Array Nat :=
  let size := WordSize.long
  let (a, b, c, d) := place
  let at_ := fun (index : Nat) ↦ state.getD index 0
  let one := size.add [at_ a, at_ b, first]
  let four := size.turnRight 32 (at_ d ^^^ one)
  let three := size.add [at_ c, four]
  let two := size.turnRight 24 (at_ b ^^^ three)
  let one := size.add [one, two, second]
  let four := size.turnRight 16 (four ^^^ one)
  let three := size.add [three, four]
  let two := size.turnRight 63 (two ^^^ three)
  (((state.set! a one).set! b two).set! c three).set! d four

/-- One round, in which the words are taken in an order. -/
def round (block : Array Nat) (state : Array Nat) (order : List Nat) : Array Nat :=
  let order := order.toArray
  places.zipIdx.foldl (fun state (place, index) ↦
    let word := fun (number : Nat) ↦ block.getD (order.getD number 0) 0
    mix state place (word (2 * index)) (word (2 * index + 1))) state

/-- Works a block into a state; so many octets have been read, and the block may be the last one. -/
def compress (state : List Nat) (block : List Nat) (count : Nat) (isLast : Bool) : List Nat :=
  let start := SecureForm.startOf .long false
  let counted := start.zipIdx.map fun (word, index) ↦
    if index = 4 then word ^^^ count
    else if index = 6 ∧ isLast then WordSize.long.complement word
    else word
  let rounds := orders ++ orders.take 2
  let worked := (rounds.foldl (round block.toArray) (state ++ counted).toArray).toList
  List.zipWith (· ^^^ ·) state (List.zipWith (· ^^^ ·) worked (worked.drop 8))

/-- Works blocks of octets into a state. -/
def absorb : (count : Nat) → List Nat → List Octets → List Nat
  | _, state, [] => state
  | count, state, block :: blocks =>
    let count := count + block.length
    let filled := block ++ List.replicate (128 - block.length) '\x00'
    let words := WordSize.split .lowestFirst 8 17 filled
    absorb count (compress state words count blocks.isEmpty) blocks

/-- The digest of a text, of so many octets. -/
def digest (length : Nat) (text : Octets) : Octets :=
  let start := (SecureForm.startOf .long false).zipIdx.map fun (word, index) ↦
    if index = 0 then word ^^^ 0x01010000 ^^^ length else word
  let blocks := if text.isEmpty then [[]] else WordSize.blocks 128 (text.length + 1) text
  ((absorb 0 start blocks).flatMap (WordSize.toOctets .lowestFirst 8)).take length

end Mixed

/-! ### Sums -/

/-- The remainder of a text that has its length behind it, without which it would not change for
zeros at its front. -/
def remainder (text : Octets) : Nat :=
  let length := text.length
  let count := (List.range 9).find? fun count ↦ length < Nat.pow 256 count
  let octets := text ++ WordSize.toOctets .lowestFirst (count.getD 8) length
  let step := fun (value : Nat) (c : Char) ↦
    (List.range 8).foldl (fun value _ ↦
      let doubled := 2 * value
      if doubled < 4294967296 then doubled else (doubled - 4294967296) ^^^ 0x04c11db7)
      (value ^^^ (c.toNat <<< 24))
  WordSize.short.complement (octets.foldl step 0)

/-- The sum of the octets, where the sum before is turned by a bit each time. -/
def turnedSum (text : Octets) : Nat :=
  text.foldl (fun total c ↦ (total / 2 + 32768 * (total % 2) + c.toNat) % 65536) 0

/-- The sum of the octets in 16 bits, where what is over is added again. -/
def foldedSum (text : Octets) : Nat :=
  let total := text.foldl (fun total c ↦ total + c.toNat) 0 % 4294967296
  let once := total % 65536 + total / 65536
  once % 65536 + once / 65536

end Scaffold.Shell.Digest

namespace Scaffold.Shell

open Text (Octets)

/-! ### Kinds of digests -/

/-- A kind of digest; of the one that mixes any number of octets may be taken. -/
inductive DigestKind
  | turned
  | folded
  | remainder
  | message
  | secure1
  | secure224
  | secure256
  | secure384
  | secure512
  | mixed (length : Nat)
  deriving DecidableEq

namespace DigestKind

/-- The octets of the longest digest that mixes. -/
def mixedLength : Nat := 64

/-- The kinds by the names that an option gives. -/
def names : List (String × DigestKind) :=
  [("bsd", turned), ("sysv", folded), ("crc", remainder), ("md5", message), ("sha1", secure1),
    ("sha224", secure224), ("sha256", secure256), ("sha384", secure384), ("sha512", secure512),
    ("blake2b", mixed mixedLength)]

/-- The kind is a sum, and no digest that can be checked. -/
def isSum (kind : DigestKind) : Bool :=
  [turned, folded, remainder].contains kind

/-- What a line about a digest calls its kind. -/
def tag : DigestKind → String
  | turned => "BSD"
  | folded => "SYSV"
  | remainder => "CRC"
  | message => "MD5"
  | secure1 => "SHA1"
  | secure224 => "SHA224"
  | secure256 => "SHA256"
  | secure384 => "SHA384"
  | secure512 => "SHA512"
  | mixed length =>
    if length = mixedLength then "BLAKE2b"
    else "BLAKE2b-" ++ String.ofList (Nat.toDigits 10 (8 * length))

/-- The octets of a digest. -/
def length : DigestKind → Nat
  | turned | folded => 2
  | remainder => 4
  | message => 16
  | secure1 => 20
  | secure224 => 28
  | secure256 => 32
  | secure384 => 48
  | secure512 => 64
  | mixed length => length

/-- The digest of a text. -/
def digest (kind : DigestKind) (text : Octets) : Octets :=
  let number := fun (value : Nat) ↦ WordSize.toOctets .highestFirst kind.length value
  match kind with
  | turned => number (Digest.turnedSum text)
  | folded => number (Digest.foldedSum text)
  | remainder => number (Digest.remainder text)
  | message => Digest.Message.digest text
  | secure1 => Digest.Secure.digest text
  | secure224 => Digest.SecureForm.bits224.digest text
  | secure256 => Digest.SecureForm.bits256.digest text
  | secure384 => Digest.SecureForm.bits384.digest text
  | secure512 => Digest.SecureForm.bits512.digest text
  | mixed length => Digest.Mixed.digest length text

end DigestKind

end Scaffold.Shell
