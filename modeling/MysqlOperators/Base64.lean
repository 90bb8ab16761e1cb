import Mathlib.Data.List.Basic

/-!
Base64 as Python's standard library reads it (`base64.b64decode` without `validate`):
characters outside the alphabet are skipped, and a group that is padded to four ends
the text; and the texts that are encoded, as UTF-8. A text is a list of characters.
-/
namespace MysqlOperators.Base64

/-! ### The alphabet -/

def alphabet : List Char := "ABCDEFGHIJKLMNOPQRSTUVWXYZabcdefghijklmnopqrstuvwxyz0123456789+/".toList

/-- The character for six bits. -/
def letter (n : Nat) : Char := alphabet.getD n 'A'

/-- The six bits of a character of the alphabet. -/
def sextet (c : Char) : Option Nat := alphabet.idxOf? c

def pad : Char := '='

def isPad (c : Char) : Bool := c == pad

/-- The characters that are not skipped. -/
def isRead (c : Char) : Bool := isPad c || (sextet c).isSome

theorem sextet_letter {n : Nat} (small : n < 64) : sextet (letter n) = some n := by
  have all : ∀ n < 64, sextet (letter n) = some n := by decide +kernel
  exact all n small

theorem isPad_letter {n : Nat} (small : n < 64) : isPad (letter n) = false := by
  have all : ∀ n < 64, isPad (letter n) = false := by decide +kernel
  exact all n small

/-! ### Encoding -/

def encode : List UInt8 → List Char
  | [] => []
  | [a] => [letter (a.toNat / 4),letter (a.toNat % 4 * 16),pad,pad]
  | [a,b] => [letter (a.toNat / 4),letter (a.toNat % 4 * 16 + b.toNat / 16),letter (b.toNat % 16 * 4),pad]
  | a :: b :: c :: rest =>
    letter (a.toNat / 4) :: letter (a.toNat % 4 * 16 + b.toNat / 16) :: letter (b.toNat % 16 * 4 + c.toNat / 64) ::
      letter (c.toNat % 64) :: encode rest

/-! ### Decoding -/

/-- The number of characters of a group that have been read, the bits that are left
    over from them, and the pads since. -/
structure Group where
  quad : Nat
  left : Nat
  pads : Nat
deriving DecidableEq, Repr

namespace Group

def start : Group := ⟨0,0,0⟩

/-- The next pad ends the text. -/
def full (g : Group) : Bool := 2 ≤ g.quad && 4 ≤ g.quad + (g.pads + 1)

/-- A pad counts from the second character of a group on. -/
def padded (g : Group) : Group := if 2 ≤ g.quad then { g with pads := g.pads + 1 } else g

/-- Six more bits. -/
def take (g : Group) (n : Nat) : Group :=
  match g.quad with
  | 0 => ⟨1,n,0⟩
  | 1 => ⟨2,n % 16,0⟩
  | 2 => ⟨3,n % 4,0⟩
  | _ => ⟨0,0,0⟩

/-- The byte that six more bits complete. -/
def byte (g : Group) (n : Nat) : List UInt8 :=
  match g.quad with
  | 0 => []
  | 1 => [UInt8.ofNat (g.left * 4 + n / 16)]
  | 2 => [UInt8.ofNat (g.left * 16 + n / 4)]
  | _ => [UInt8.ofNat (g.left * 64 + n)]

end Group

/-- The loop of `binascii.a2b_base64`; a text that ends inside a group is an error. -/
def scan (g : Group) : List Char → Option (List UInt8)
  | [] => if g.quad = 0 then some [] else none
  | c :: rest =>
    if isPad c then
      if g.full then some [] else scan g.padded rest
    else
      match sextet c with
      | none => scan g rest
      | some n => (scan (g.take n) rest).map (g.byte n ++ ·)

def decode (text : List Char) : Option (List UInt8) := scan .start text

/-- Characters outside the alphabet make no difference. -/
theorem scan_filter (g : Group) (text : List Char) : scan g (text.filter isRead) = scan g text := by
  induction text generalizing g with
  | nil => rfl
  | cons c rest ih =>
    by_cases padding : isPad c = true
    · rw [List.filter_cons_of_pos (by simp [isRead,padding]),scan,scan,if_pos padding,if_pos padding,ih]
    · cases value : sextet c with
      | none =>
        rw [List.filter_cons_of_neg (by simp [isRead,padding,value]),ih,scan,if_neg padding,value]
      | some n =>
        rw [List.filter_cons_of_pos (by simp [isRead,value]),scan,scan,if_neg padding,if_neg padding,value]
        dsimp only
        rw [ih]

theorem decode_filter (text : List Char) : decode (text.filter isRead) = decode text := scan_filter .start text

theorem scan_letter (g : Group) {n : Nat} (small : n < 64) (rest : List Char) :
    scan g (letter n :: rest) = (scan (g.take n) rest).map (g.byte n ++ ·) := by
  rw [scan,if_neg (by simp [isPad_letter small]),sextet_letter small]

theorem scan_pad (g : Group) (rest : List Char) :
    scan g (pad :: rest) = if g.full then some [] else scan g.padded rest := by
  rw [scan,if_pos (by decide)]

theorem ofNat_parts {n m : Nat} {a : UInt8} (whole : n + m = a.toNat) : UInt8.ofNat (n + m) = a := by
  rw [whole,UInt8.ofNat_toNat]

/-- A whole group gives three bytes. -/
theorem scan_group {n m k l : Nat} (first : n < 64) (second : m < 64) (third : k < 64) (fourth : l < 64)
    (rest : List Char) : scan .start (letter n :: letter m :: letter k :: letter l :: rest) = (scan .start rest).map
      ([UInt8.ofNat (n * 4 + m / 16),UInt8.ofNat (m % 16 * 16 + k / 4),UInt8.ofNat (k % 4 * 64 + l)] ++ ·) := by
  rw [scan_letter _ first,scan_letter _ second,scan_letter _ third,scan_letter _ fourth]
  simp only [Group.start,Group.take,Group.byte,Option.map_map]
  rfl

/-- A group of three characters and a pad gives two. -/
theorem scan_three {n m k : Nat} (first : n < 64) (second : m < 64) (third : k < 64) (rest : List Char) :
    scan .start (letter n :: letter m :: letter k :: pad :: rest) =
      some [UInt8.ofNat (n * 4 + m / 16),UInt8.ofNat (m % 16 * 16 + k / 4)] := by
  rw [scan_letter _ first,scan_letter _ second,scan_letter _ third,scan_pad]
  rfl

/-- A group of two characters and two pads gives one. -/
theorem scan_two {n m : Nat} (first : n < 64) (second : m < 64) (rest : List Char) :
    scan .start (letter n :: letter m :: pad :: pad :: rest) = some [UInt8.ofNat (n * 4 + m / 16)] := by
  rw [scan_letter _ first,scan_letter _ second,scan_pad,scan_pad]
  rfl

theorem decode_encode (bytes : List UInt8) : decode (encode bytes) = some bytes := by
  unfold decode
  induction bytes using encode.induct with
  | case1 => rfl
  | case2 a =>
    have bound := a.toNat_lt
    rw [encode,scan_two (by omega) (by omega),ofNat_parts (a := a) (by omega)]
  | case3 a b =>
    have bound := a.toNat_lt
    have bound' := b.toNat_lt
    rw [encode,scan_three (by omega) (by omega) (by omega),ofNat_parts (a := a) (by omega),
      ofNat_parts (a := b) (by omega)]
  | case4 a b c rest ih =>
    have bound := a.toNat_lt
    have bound' := b.toNat_lt
    have bound'' := c.toNat_lt
    rw [encode,scan_group (by omega) (by omega) (by omega) (by omega),ih,ofNat_parts (a := a) (by omega),
      ofNat_parts (a := b) (by omega),ofNat_parts (a := c) (by omega)]
    rfl

/-! ### Texts -/

/-- `text.encode("utf-8")`. -/
def toUtf8 (text : List Char) : List UInt8 := (String.ofList text).toByteArray.data.toList

/-- `bytes.decode("utf-8")`. -/
def ofUtf8 (bytes : List UInt8) : Option (List Char) := (ByteArray.mk bytes.toArray).utf8Decode?.map Array.toList

theorem ofUtf8_toUtf8 (text : List Char) : ofUtf8 (toUtf8 text) = some text := by
  rw [ofUtf8,toUtf8,Array.toArray_toList,String.toByteArray_ofList,List.utf8Decode?_utf8Encode]
  rfl

def isAscii (c : Char) : Bool := c.toNat < 128

/-- `base64.b64decode(text)`. -/
def b64decode (text : List Char) : Option (List UInt8) := if text.all isAscii then decode text else none

/-- The characters of the encoding, in ASCII and none of them skipped. -/
def isCode (c : Char) : Bool := isRead c && isAscii c

theorem isCode_letter {n : Nat} (small : n < 64) : isCode (letter n) = true := by
  have all : ∀ n < 64, isCode (letter n) = true := by decide +kernel
  exact all n small

theorem isCode_pad : isCode pad = true := by decide +kernel

theorem encode_isCode (bytes : List UInt8) : ∀ c ∈ encode bytes, isCode c = true := by
  induction bytes using encode.induct with
  | case1 => nofun
  | case2 a =>
    have bound := a.toNat_lt
    simp only [encode,List.forall_mem_cons]
    exact ⟨isCode_letter (by omega),isCode_letter (by omega),isCode_pad,isCode_pad,nofun⟩
  | case3 a b =>
    have bound := a.toNat_lt
    have bound' := b.toNat_lt
    simp only [encode,List.forall_mem_cons]
    exact ⟨isCode_letter (by omega),isCode_letter (by omega),isCode_letter (by omega),isCode_pad,nofun⟩
  | case4 a b c rest ih =>
    have bound := a.toNat_lt
    have bound' := b.toNat_lt
    have bound'' := c.toNat_lt
    simp only [encode,List.forall_mem_cons]
    exact ⟨isCode_letter (by omega),isCode_letter (by omega),isCode_letter (by omega),isCode_letter (by omega),ih⟩

/-- A text is read back from its encoding, with any skipped characters in between. -/
theorem b64decode_encode {bytes : List UInt8} {text : List Char} (ascii : ∀ c ∈ text, isAscii c = true)
    (encoded : text.filter isRead = encode bytes) : b64decode text = some bytes := by
  rw [b64decode,if_pos (List.all_eq_true.mpr ascii),← decode_filter,encoded,decode_encode]

end MysqlOperators.Base64
