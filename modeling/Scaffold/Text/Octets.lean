/-!
# Octets

A sequence of octets is read as a text: `decode?` accepts exactly the valid UTF-8 sequences, and
`decodeLossy` reads any octets, where each maximal part that cannot begin or continue a character
becomes one replacement character U+FFFD. Texts that are ordered by their code points are ordered by
their octets (`encode_lt_encode_iff`).

Where octets are read and written character by character, they are held as a list of characters,
one for each octet (`Octets`).
-/

set_option autoImplicit false

namespace Scaffold.Text.Utf8

/-- What a character still owes after its first octets: its bits so far, how many octets follow,
and the range of the next one. -/
structure Pending where
  bits : Nat
  owed : Nat
  low : Nat
  high : Nat
  deriving DecidableEq, Repr

/-- The character that an octet begins: finished, or pending. -/
def begin? (octet : Nat) : Option (Char ⊕ Pending) :=
  if octet < 0x80 then some (.inl (Char.ofNat octet))
  else if 0xC2 ≤ octet ∧ octet ≤ 0xDF then some (.inr ⟨octet - 0xC0, 1, 0x80, 0xBF⟩)
  else if octet = 0xE0 then some (.inr ⟨0, 2, 0xA0, 0xBF⟩)
  else if octet = 0xED then some (.inr ⟨0xD, 2, 0x80, 0x9F⟩)
  else if 0xE1 ≤ octet ∧ octet ≤ 0xEF then some (.inr ⟨octet - 0xE0, 2, 0x80, 0xBF⟩)
  else if octet = 0xF0 then some (.inr ⟨0, 3, 0x90, 0xBF⟩)
  else if 0xF1 ≤ octet ∧ octet ≤ 0xF3 then some (.inr ⟨octet - 0xF0, 3, 0x80, 0xBF⟩)
  else if octet = 0xF4 then some (.inr ⟨4, 3, 0x80, 0x8F⟩)
  else none

/-- The pending character after one more octet, when the octet can continue it. -/
def Pending.step? (pending : Pending) (octet : Nat) : Option (Char ⊕ Pending) :=
  if pending.low ≤ octet ∧ octet ≤ pending.high then
    let bits := pending.bits * 64 + (octet - 0x80)
    if pending.owed ≤ 1 then some (.inl (Char.ofNat bits))
    else some (.inr ⟨bits, pending.owed - 1, 0x80, 0xBF⟩)
  else none

/-- The replacement character. -/
def replacement : Char := '\uFFFD'

/-- Reads an octet between characters. -/
def start (octet : Nat) : List Char × Option Pending :=
  match begin? octet with
  | some (.inl c) => ([c], none)
  | some (.inr pending) => ([], some pending)
  | none => ([replacement], none)

/-- Reads an octet: the characters that are now settled, and what is still pending. An octet that
does not continue the pending character replaces it and is read afresh. -/
def step (state : Option Pending) (octet : Nat) : List Char × Option Pending :=
  match state with
  | none => start octet
  | some pending =>
    match pending.step? octet with
    | some (.inl c) => ([c], none)
    | some (.inr next) => ([], some next)
    | none =>
      let (settled, next) := start octet
      (replacement :: settled, next)

/-- Reads on from a state, replacing what is no character. -/
def readLossy (state : Option Pending) : List UInt8 → List Char
  | [] => if state.isSome then [replacement] else []
  | octet :: rest =>
    let (settled, next) := step state octet.toNat
    settled ++ readLossy next rest

/-- The octets as text, replacing what is no character. -/
def decodeLossy (octets : List UInt8) : String :=
  String.ofList (readLossy none octets)

/-- The octets as text, when they are valid UTF-8. -/
def decode? (octets : List UInt8) : Option String :=
  String.fromUTF8? ⟨octets.toArray⟩

/-- The octets of a text. -/
def encode (text : String) : List UInt8 :=
  text.toUTF8.toList

/-! ### The order of octets -/

/-- The octets of an array from a place on, behind others in reverse. -/
theorem toList_loop (octets : ByteArray) (place : Nat) (reversed : List UInt8) :
    ByteArray.toList.loop octets place reversed =
      reversed.reverse ++ octets.data.toList.drop place := by
  fun_induction ByteArray.toList.loop octets place reversed with
  | case1 place reversed hplace ih =>
    have hlength : place < octets.data.toList.length := by simpa using hplace
    rw [ih, List.drop_eq_getElem_cons hlength]
    simp [ByteArray.get!, hplace]
  | case2 place reversed hplace =>
    rw [List.drop_eq_nil_of_le (by simpa using Nat.le_of_not_lt hplace), List.append_nil]

/-- A text is written character by character. -/
theorem encode_eq (text : String) : encode text = text.toList.flatMap String.utf8EncodeChar := by
  have hwritten : text.toUTF8 = text.toList.utf8Encode := by
    rw [String.toUTF8_eq_toByteArray, ← String.ofList_toList (s := text)]
    simp
  rw [encode, hwritten, List.utf8Encode, ByteArray.toList, toList_loop, List.data_toByteArray]
  rfl

/-- A character of a lower code point is written with lower octets, whatever follows. -/
theorem utf8EncodeChar_append_lt {c d : Char} (hlt : c < d) (rest later : List UInt8) :
    String.utf8EncodeChar c ++ rest < String.utf8EncodeChar d ++ later := by
  have hcodes : c.val.toNat < d.val.toNat := UInt32.lt_iff_toNat_lt.mp hlt
  have hbound : d.val.toNat < 0x110000 := by
    rcases d.valid with h | h <;> omega
  -- Octets after the first hold six binary digits each.
  have hdigits : ∀ code : Nat, code / 4096 = code / 64 / 64 ∧ code / 262144 = code / 64 / 64 / 64 :=
    fun code ↦ by simp only [Nat.div_div_eq_div_mul, and_self]
  simp only [String.utf8EncodeChar, (hdigits _).1, (hdigits _).2]
  repeat' split
  all_goals
    simp only [List.cons_append, List.nil_append, List.cons_lt_cons_iff, UInt8.lt_iff_toNat_lt,
      ← UInt8.toNat_inj, UInt8.toNat_ofNat']
    omega

theorem flatMap_utf8EncodeChar_lt {first second : List Char} (hlt : first < second) :
    first.flatMap String.utf8EncodeChar < second.flatMap String.utf8EncodeChar := by
  induction first generalizing second with
  | nil =>
    cases second with
    | nil => exact absurd hlt (List.lt_irrefl _)
    | cons d later =>
      have hoctets : String.utf8EncodeChar d ≠ [] := by simp
      obtain ⟨octet, others, heq⟩ := List.exists_cons_of_ne_nil hoctets
      rw [List.flatMap_cons, heq]
      exact List.nil_lt_cons _ _
  | cons c rest ih =>
    cases second with
    | nil => exact absurd hlt (List.not_lt_nil _)
    | cons d later =>
      rw [List.flatMap_cons, List.flatMap_cons]
      rcases List.cons_lt_cons_iff.mp hlt with hfirst | ⟨rfl, hrest⟩
      · exact utf8EncodeChar_append_lt hfirst _ _
      · exact List.append_left_lt (ih hrest)

/-- The order of texts, code point by code point, is that of their octets. -/
theorem encode_lt_encode_iff {first second : String} :
    encode first < encode second ↔ first < second := by
  have hmono : ∀ {first second : String}, first < second → encode first < encode second := by
    intro first second hlt
    rw [encode_eq, encode_eq]
    exact flatMap_utf8EncodeChar_lt hlt
  refine ⟨fun hlt ↦ Classical.byContradiction fun hnot ↦ ?_, hmono⟩
  have hle : second ≤ first := String.not_lt.mp hnot
  by_cases hback : second < first
  · exact List.lt_irrefl _ (List.lt_trans hlt (hmono hback))
  · obtain rfl := String.le_antisymm hle (String.not_lt.mp hback)
    exact List.lt_irrefl _ hlt

end Scaffold.Text.Utf8

namespace Scaffold.Text

/-- Characters that stand for one octet each. -/
abbrev Octets := List Char

namespace Octets

/-- The octets as characters. -/
def ofBytes (bytes : List UInt8) : Octets :=
  bytes.map fun byte ↦ Char.ofNat byte.toNat

/-- The octets of the characters. -/
def toBytes (octets : Octets) : List UInt8 :=
  octets.map fun c ↦ UInt8.ofNat c.toNat

/-- The octets of a text, as characters. -/
def ofText (text : String) : Octets :=
  ofBytes (Utf8.encode text)

/-- The text of the octets, with what is no text replaced. -/
def toText (octets : Octets) : String :=
  Utf8.decodeLossy (toBytes octets)

/-- How two sequences are ordered: octet by octet, and what is the front of the other comes first.
-/
def order : Octets → Octets → Ordering
  | [], [] => .eq
  | [], _ :: _ => .lt
  | _ :: _, [] => .gt
  | a :: first, b :: second =>
    if a < b then .lt else if b < a then .gt else order first second

/-- The first sequence does not come after the second one. -/
def isAtMost (first second : Octets) : Bool :=
  (order first second).isLE

/-- Sequences are spread by their octets. -/
instance : Hashable Octets where
  hash octets := octets.foldl (fun sum c ↦ mixHash sum (hash c.toNat)) 7

end Octets

end Scaffold.Text
