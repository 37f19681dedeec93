/-!
Text is a list of characters and a byte sequence is a list of octets. The operations here measure,
cut and join text. Main statements: every text can be read back from its UTF-8 form, and from no
other bytes.
-/

set_option autoImplicit false

namespace ContractProxy

abbrev Text := List Char

abbrev Bytes := List UInt8

instance : Coe String Text := ⟨String.toList⟩

namespace Text

def utf8 (t : Text) : Bytes :=
  t.flatMap String.utf8EncodeChar

theorem utf8_append (s t : Text) : utf8 (s ++ t) = utf8 s ++ utf8 t := by
  simp [utf8]

def ofUtf8? (bytes : Bytes) : Option Text :=
  bytes.toByteArray.utf8Decode?.map Array.toList

theorem ofUtf8?_utf8 (t : Text) : ofUtf8? (utf8 t) = some t := by
  have h : (utf8 t).toByteArray = t.utf8Encode := rfl
  simp [ofUtf8?, h, List.utf8Decode?_utf8Encode]

theorem eq_utf8_of_ofUtf8? {bytes : Bytes} {t : Text} (h : ofUtf8? bytes = some t) :
    bytes = utf8 t := by
  obtain ⟨decoded, hdecoded, rfl⟩ := Option.map_eq_some_iff.mp h
  obtain ⟨chars, hchars⟩ := ByteArray.isSome_utf8Decode?_iff.mp (Option.isSome_of_eq_some hdecoded)
  rw [hchars, List.utf8Decode?_utf8Encode] at hdecoded
  cases hdecoded
  have hbytes : bytes.toByteArray = (utf8 chars).toByteArray := hchars
  simpa using congrArg (·.data.toList) hbytes

def byteLength (t : Text) : Nat :=
  (utf8 t).length

theorem byteLength_append (s t : Text) : byteLength (s ++ t) = byteLength s + byteLength t := by
  simp [byteLength, utf8_append]

def decimal (n : Nat) : Text :=
  Nat.toDigits 10 n

def hexadecimal (n : Nat) : Text :=
  Nat.toDigits 16 n

def hexDigit? (c : Char) : Option Nat :=
  if c.isDigit then some (c.toNat - 48)
  else if 'a' ≤ c && c ≤ 'f' then some (c.toNat - 87)
  else if 'A' ≤ c && c ≤ 'F' then some (c.toNat - 55)
  else none

/-- Cuts a text at every occurrence of a mark, from left to right and without overlaps. `skip`
characters of a mark already met are still to be passed over. -/
def cutFrom (mark : Text) : Nat → Text → Text → List Text
  | _, piece, [] => [piece.reverse]
  | skip + 1, piece, _ :: rest => cutFrom mark skip piece rest
  | 0, piece, c :: rest =>
    if mark.isPrefixOf (c :: rest) then piece.reverse :: cutFrom mark (mark.length - 1) [] rest
    else cutFrom mark 0 (c :: piece) rest

def cutAt (mark t : Text) : List Text :=
  cutFrom mark 0 [] t

/-- A text without the mark is one piece. -/
def hasMark (mark t : Text) : Bool :=
  1 < (cutAt mark t).length

def replaceAll (mark replacement t : Text) : Text :=
  replacement.intercalate (cutAt mark t)

end Text

end ContractProxy
