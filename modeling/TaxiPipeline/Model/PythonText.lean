import TaxiPipeline.Model.Text

namespace TaxiPipeline

/-- The lowest hexadecimal digits of a number. -/
def hexDigits : Nat → Nat → List Char
  | 0, _ => []
  | width + 1, n => hexDigits width (n / 16) ++ [Nat.digitChar (n % 16)]

def hexText (width n : Nat) : String := String.ofList (hexDigits width n)

/-- The bytes that continue a character: how many it has in all, or how many are at fault and why. -/
def utf8Tail (least greatest : UInt8) : (missing seen : Nat) → List UInt8 → Except (Nat × String) Nat
  | 0, seen, _ => .ok seen
  | _ + 1, seen, [] => .error (seen, "unexpected end of data")
  | missing + 1, seen, byte :: rest =>
    if least ≤ byte ∧ byte ≤ greatest then utf8Tail 0x80 0xBF missing (seen + 1) rest
    else .error (seen, "invalid continuation byte")

def utf8Character (first : UInt8) (rest : List UInt8) : Except (Nat × String) Nat :=
  if first < 0x80 then .ok 1
  else if first < 0xC2 then .error (1, "invalid start byte")
  else if first < 0xE0 then utf8Tail 0x80 0xBF 1 1 rest
  else if first = 0xE0 then utf8Tail 0xA0 0xBF 2 1 rest
  else if first = 0xED then utf8Tail 0x80 0x9F 2 1 rest
  else if first < 0xF0 then utf8Tail 0x80 0xBF 2 1 rest
  else if first = 0xF0 then utf8Tail 0x90 0xBF 3 1 rest
  else if first < 0xF4 then utf8Tail 0x80 0xBF 3 1 rest
  else if first = 0xF4 then utf8Tail 0x80 0x8F 3 1 rest
  else .error (1, "invalid start byte")

/-- The text of the `UnicodeDecodeError` for bytes that are no UTF-8, from a position on. -/
def utf8ErrorText : (fuel position : Nat) → List UInt8 → String
  | 0, _, _ | _ + 1, _, [] => ""
  | fuel + 1, position, first :: rest =>
    match utf8Character first rest with
    | .ok length => utf8ErrorText fuel (position + length) (rest.drop (length - 1))
    | .error (length, reason) =>
      let place := if length = 1 then s!"byte 0x{hexText 2 first.toNat} in position {position}"
        else s!"bytes in position {position}-{position + length - 1}"
      s!"'utf-8' codec can't decode {place}: {reason}"

/-- `str(data, "utf8")`. -/
def decodeUtf8 (data : ByteArray) : Except PyException String :=
  match String.fromUTF8? data with
  | some text => .ok text
  | none => .error ⟨.other "UnicodeDecodeError", utf8ErrorText data.size 0 data.toList⟩

theorem decodeUtf8_ok (data : ByteArray) : (∃ text, decodeUtf8 data = .ok text) ↔ data.IsValidUTF8 := by
  unfold decodeUtf8 String.fromUTF8?
  by_cases valid : data.IsValidUTF8
  · rw [dif_pos valid]
    exact iff_of_true ⟨_, rfl⟩ valid
  · rw [dif_neg valid]
    refine iff_of_false (fun decoded => ?_) valid
    obtain ⟨text, impossible⟩ := decoded
    cases impossible

/-- The characters beyond ASCII, from a first to a last one, that `str.isprintable` denies: controls, separators,
    formats, private ones and noncharacters. Code points that Unicode leaves unassigned are not among them. -/
def unprintableRanges : List (Nat × Nat) := [
  (0x80, 0xA0), (0xAD, 0xAD), (0x600, 0x605), (0x61C, 0x61C), (0x6DD, 0x6DD), (0x70F, 0x70F), (0x890, 0x891),
  (0x8E2, 0x8E2), (0x1680, 0x1680), (0x180E, 0x180E), (0x2000, 0x200F), (0x2028, 0x202F), (0x205F, 0x206F),
  (0x3000, 0x3000), (0xE000, 0xF8FF), (0xFDD0, 0xFDEF), (0xFEFF, 0xFEFF), (0xFFF0, 0xFFFB), (0x110BD, 0x110BD),
  (0x110CD, 0x110CD), (0x13430, 0x1343F), (0x1BCA0, 0x1BCA3), (0x1D173, 0x1D17A), (0xE0000, 0xE00FF),
  (0xE01F0, 0x10FFFF)]

def isPrintable (c : Char) : Bool :=
  !unprintableRanges.any fun range => range.1 ≤ c.toNat && c.toNat ≤ range.2

/-- A character of `repr(text)` between quotes; a backslash is 0x5C. -/
def reprChar (quote c : Char) : String :=
  let code := c.toNat
  if c = quote ∨ code = 0x5C then "\\" ++ String.singleton c
  else if code = 9 then "\\t"
  else if code = 10 then "\\n"
  else if code = 13 then "\\r"
  else if 0x20 ≤ code ∧ code < 0x7F ∨ 0x7F < code ∧ isPrintable c then String.singleton c
  else if code ≤ 0xFF then "\\x" ++ hexText 2 code
  else if code ≤ 0xFFFF then "\\u" ++ hexText 4 code
  else "\\U" ++ hexText 8 code

/-- `repr(text)`: in double quotes (0x22) only if the text has single ones (0x27) and no double ones. -/
def pyRepr (text : String) : String :=
  let codes := text.toList.map Char.toNat
  let quote := if codes.contains 0x27 && !codes.contains 0x22 then Char.ofNat 0x22 else Char.ofNat 0x27
  let quoted := quote :: text.toList.flatMap fun c => (reprChar quote c).toList
  String.ofList (quoted ++ [quote])

end TaxiPipeline
