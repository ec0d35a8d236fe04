import BrowserPolicy.Number

namespace BrowserPolicy.Text

def octets (s : String) : List UInt8 :=
  s.toList.flatMap String.utf8EncodeChar

/-- These are the octets of the encoding of the text as UTF-8. -/
theorem octets_eq_toUTF8 (s : String) : octets s = s.toUTF8.data.toList := by
  rw [String.toUTF8_eq_toByteArray, ← String.utf8Encode_toList, List.utf8Encode,
    List.data_toByteArray]
  rfl

end BrowserPolicy.Text

namespace BrowserPolicy.Http

def isFieldOctet (b : UInt8) : Bool :=
  b == 0x09 || (0x20 ≤ b && b != 0x7F)

structure HeaderValue where
  text : String
  valid : (Text.octets text).all isFieldOctet = true
  deriving DecidableEq

namespace HeaderValue

def ofText? (text : String) : Option HeaderValue :=
  if valid : (Text.octets text).all isFieldOctet = true then some ⟨text, valid⟩ else none

def octets (v : HeaderValue) : List UInt8 :=
  Text.octets v.text

/-- One octet in a log: printable ASCII as it is, a double quote after a backslash, any other as a
hexadecimal escape. -/
def quoteOctet (b : UInt8) : List Char :=
  if b == 0x22 then ['\\', '"']
  else if b == 0x09 || (0x20 ≤ b && b < 0x7F) then [Char.ofNat b.toNat]
  else '\\' :: 'x' :: Number.hex b.toNat

def quoted (v : HeaderValue) : String :=
  String.ofList ('"' :: v.octets.flatMap quoteOctet ++ ['"'])

/-- The octets of a decimal number can all be sent. -/
theorem valid_repr (n : Nat) : (Text.octets (Nat.repr n)).all isFieldOctet = true := by
  have hdigit : ∀ c ∈ (Nat.repr n).toList, c.isDigit = true := by
    intro c hc
    rw [Nat.toList_repr] at hc
    exact Nat.isDigit_of_mem_toDigits (by decide) (by decide) hc
  simp only [Text.octets, List.all_flatMap]
  refine List.all_eq_true.2 fun c hc => ?_
  have hd := hdigit c hc
  simp only [Char.isDigit, Bool.and_eq_true, decide_eq_true_eq] at hd
  have h1 : 48 ≤ c.toNat := hd.1
  have h2 : c.toNat ≤ 57 := hd.2
  have hc' : c = Char.ofNat c.toNat := (Char.ofNat_toNat c).symm
  generalize c.toNat = m at h1 h2 hc'
  subst hc'
  have : ∀ k : Fin 58, 48 ≤ k.val →
      (String.utf8EncodeChar (Char.ofNat k.val)).all isFieldOctet = true := by decide +kernel
  exact this ⟨m, by omega⟩ h1

def ofNat (n : Nat) : HeaderValue :=
  ⟨Nat.repr n, valid_repr n⟩

theorem text_of_ofText? {text : String} {v : HeaderValue} (h : ofText? text = some v) :
    v.text = text := by
  unfold ofText? at h
  split at h
  · cases h; rfl
  · cases h

theorem ofText?_text (v : HeaderValue) : ofText? v.text = some v := by
  simp [ofText?, v.valid]

end HeaderValue

structure HeaderField where
  name : String
  value : HeaderValue
  deriving DecidableEq

end BrowserPolicy.Http
