import HandlerMigration.Text.Basic

/-!
# Blank characters

The characters with the property White_Space, and the operations on texts that depend on them.
-/

namespace HandlerMigration

/-- The characters with the property White_Space. -/
def isBlank (c : Char) : Bool :=
  (9 ≤ c.toNat && c.toNat ≤ 13) || c.toNat == 0x20 || c.toNat == 0x85 || c.toNat == 0xA0 ||
  c.toNat == 0x1680 || (0x2000 ≤ c.toNat && c.toNat ≤ 0x200A) || c.toNat == 0x2028 ||
  c.toNat == 0x2029 || c.toNat == 0x202F || c.toNat == 0x205F || c.toNat == 0x3000

namespace Text

def trimStart (t : Text) : Text := t.dropWhile isBlank

def trimEnd (t : Text) : Text := t.dropEndWhile isBlank

/-- The text without the blank characters at its two ends. -/
def trim (t : Text) : Text := t.trimStart.trimEnd

/-- The first run of characters that are not blank. -/
def firstWord (t : Text) : Text := t.trimStart.takeWhile fun c => !isBlank c

end Text

end HandlerMigration
