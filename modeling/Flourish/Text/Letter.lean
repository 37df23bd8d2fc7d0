/-
This file holds the letters of texts.
-/

namespace Flourish

/-- A letter of a text is a code point. It is a character or one half of a pair of surrogates, for
which there are no octets. -/
inductive Letter where
  | of (char : Char)
  | half (index : Fin 2048)
  deriving DecidableEq, Repr

namespace Letter

instance : Coe Char Letter := ⟨.of⟩

instance : Inhabited Letter := ⟨.of default⟩

/-- The code of the first half. -/
def firstHalf : Nat :=
  0xD800

def toNat : Letter → Nat
  | .of char => char.toNat
  | .half index => firstHalf + index

def char? : Letter → Option Char
  | .of char => some char
  | .half _ => none

def isHalf : Letter → Bool
  | .of _ => false
  | .half _ => true

@[simp]
theorem toNat_of (char : Char) : (of char).toNat = char.toNat :=
  rfl

/-- The letter of a code. -/
def ofNat (code : Nat) : Letter :=
  if half : firstHalf ≤ code ∧ code < firstHalf + 2048 then .half ⟨code - firstHalf, by omega⟩
  else .of (Char.ofNat code)

instance : LT Letter := ⟨fun first second => first.toNat < second.toNat⟩

instance : LE Letter := ⟨fun first second => first.toNat ≤ second.toNat⟩

instance : DecidableLT Letter := fun first second =>
  inferInstanceAs (Decidable (first.toNat < second.toNat))

instance : DecidableLE Letter := fun first second =>
  inferInstanceAs (Decidable (first.toNat ≤ second.toNat))

/-- A property of characters, which no half has. -/
def holds (property : Char → Bool) : Letter → Bool
  | .of char => property char
  | .half _ => false

def isDigit : Letter → Bool :=
  holds Char.isDigit

def isAlpha : Letter → Bool :=
  holds Char.isAlpha

def isAlphanum : Letter → Bool :=
  holds Char.isAlphanum

/-- A change of characters, which keeps halves as they are. -/
def changed (change : Char → Char) : Letter → Letter
  | .of char => .of (change char)
  | .half index => .half index

def toLower : Letter → Letter :=
  changed Char.toLower

def toUpper : Letter → Letter :=
  changed Char.toUpper

end Letter
end Flourish
