/-! # Lone surrogates

An escape may name half of a pair of sixteen-bit units, which is no character by itself. Within a
text such a half is kept as a private character of the last plane, from which its code is read back;
any other character has its own code.
-/
namespace TouchPath.Text
set_option autoImplicit false

def isSurrogate (code : Nat) : Bool := 0xD800 ≤ code && code ≤ 0xDFFF

/-- How far the private characters lie above the codes they stand for. -/
def standInOffset : Nat := 0x100000

def standIn (code : Nat) : Char := Char.ofNat (standInOffset + code)

def codeOf (c : Char) : Nat :=
  if isSurrogate (c.toNat - standInOffset) then c.toNat - standInOffset else c.toNat

/-- A text in which every lone half is spelled out as an escape. -/
def spellOut (s : String) : String :=
  String.ofList (s.toList.flatMap fun c =>
    if isSurrogate (codeOf c) then '\\' :: 'u' :: Nat.toDigits 16 (codeOf c) else [c])

end TouchPath.Text
